import AnKla.Json.Lines

/-!
# Lines with their ends

Texts cut into lines that keep their ends, and put together again.

* `split_keep`: the lines of a text, with their ends.
* `split_keep_append`: a text after a whole line.
* `split_keep_take`, `split_keep_drop`: some of the lines of a text are lines.
* `bare`, `bare_split_keep`: a line without its end, and what one more line end does to a text.
-/

namespace PyText

open PyJson

/-! ## Splitting -/

/-- `str.splitlines(keepends=True)`. -/
def split_keep : List Char → List (List Char)
  | [] => []
  | c :: s =>
    if c = '\r' then
      match s with
      | [] => [[c]]
      | d :: t => if d = '\n' then [c, d] :: split_keep t else [c] :: split_keep (d :: t)
    else if isLineBreak c then [c] :: split_keep s
    else consLine c (split_keep s)

theorem consLine_ne_nil (c : Char) (ls : List (List Char)) : consLine c ls ≠ [] := by
  cases ls <;> exact List.cons_ne_nil _ _

theorem flatten_consLine (c : Char) (ls : List (List Char)) :
    (consLine c ls).flatten = c :: ls.flatten := by
  cases ls <;> rfl

theorem consLine_append {c : Char} {ls : List (List Char)} (h : ls ≠ []) (ls' : List (List Char)) :
    consLine c (ls ++ ls') = consLine c ls ++ ls' := by
  cases ls with
  | nil => exact absurd rfl h
  | cons l ls => rfl

theorem split_keep_ne_nil {s : List Char} (h : s ≠ []) : split_keep s ≠ [] := by
  fun_induction split_keep s with
  | case1 => exact absurd rfl h
  | case6 => exact consLine_ne_nil _ _
  | _ => exact List.cons_ne_nil _ _

theorem split_keep_cons {c : Char} (s : List Char) (h : isLineBreak c = false) :
    split_keep (c :: s) = consLine c (split_keep s) := by
  have hr : c ≠ '\r' := by
    rintro rfl
    revert h
    decide
  rw [split_keep.eq_def]
  simp only [if_neg hr, h, Bool.false_eq_true, if_false]

theorem split_keep_break {c : Char} (s : List Char) (h : isLineBreak c = true)
    (hs : c = '\r' → s.head? ≠ some '\n') : split_keep (c :: s) = [c] :: split_keep s := by
  by_cases hr : c = '\r'
  · subst hr
    cases s with
    | nil => rfl
    | cons d t =>
      have hd : d ≠ '\n' := fun he => hs rfl (congrArg some he)
      rw [split_keep.eq_def]
      simp only [if_true, if_neg hd]
  · rw [split_keep.eq_def]
    simp only [if_neg hr, h, if_true]

theorem flatten_split_keep (s : List Char) : (split_keep s).flatten = s := by
  fun_induction split_keep s with
  | case1 => rfl
  | case2 => rfl
  | case3 t ih => rw [List.flatten_cons, ih]; rfl
  | case4 d t hd ih => rw [List.flatten_cons, ih]; rfl
  | case5 c s hr hb ih => rw [List.flatten_cons, ih]; rfl
  | case6 c s hr hb ih => rw [flatten_consLine, ih]

/-! ## Whole lines -/

/-- The text ends with the end of a line. -/
def Ended (s : List Char) : Prop := ∃ c, s.getLast? = some c ∧ isLineBreak c = true

theorem ended_append {s t : List Char} (h : Ended t) : Ended (s ++ t) := by
  obtain ⟨c, hc, hb⟩ := h
  exact ⟨c, by rw [List.getLast?_append, hc, Option.some_or], hb⟩

theorem Ended.tail {c : Char} {s : List Char} (h : Ended (c :: s)) (hs : s ≠ []) : Ended s := by
  obtain ⟨d, hd, hb⟩ := h
  exact ⟨d, by rwa [List.getLast?_cons_of_ne_nil hs] at hd, hb⟩

/-- A text after whole lines: nothing but a carriage return and a line feed grow together. -/
theorem split_keep_append {s : List Char} (h : s = [] ∨ Ended s) {r : List Char}
    (hr : s.getLast? = some '\r' → r.head? ≠ some '\n') :
    split_keep (s ++ r) = split_keep s ++ split_keep r := by
  have htail {c : Char} {t : List Char} (ht : c :: t = [] ∨ Ended (c :: t)) : t = [] ∨ Ended t := by
    by_cases hn : t = []
    · exact .inl hn
    · exact .inr ((ht.resolve_left (List.cons_ne_nil _ _)).tail hn)
  fun_induction split_keep s with
  | case1 => rfl
  | case2 => exact split_keep_break r (by decide) fun _ => hr rfl
  | case3 t ih =>
    rw [List.cons_append, List.cons_append, split_keep.eq_def]
    simp only [if_true]
    rw [ih (htail (htail h)) fun hl => hr ?_]
    · rfl
    · cases t with
      | nil => cases hl
      | cons c t => simpa using hl
  | case4 d t hd ih =>
    have hhead : (d :: t ++ r).head? ≠ some '\n' := fun he => hd (Option.some.inj he)
    rw [List.cons_append, split_keep_break _ (by decide) fun _ => hhead,
      ih (htail h) fun hl => hr (by simpa using hl)]
    rfl
  | case5 c s hc hb ih =>
    rw [List.cons_append, split_keep_break _ hb fun he => absurd he hc,
      ih (htail h) fun hl => hr ?_]
    · rfl
    · cases s with
      | nil => cases hl
      | cons d s => simpa using hl
  | case6 c s hc hb ih =>
    rw [Bool.not_eq_true] at hb
    have hs : s ≠ [] := by
      rintro rfl
      obtain ⟨d, hd, hd'⟩ := h.resolve_left (List.cons_ne_nil _ _)
      rw [List.getLast?_singleton, Option.some.injEq] at hd
      rw [← hd, hb] at hd'
      cases hd'
    rw [List.cons_append, split_keep_cons _ hb, ih (htail h) fun hl => hr ?_,
      consLine_append (split_keep_ne_nil hs)]
    rw [List.getLast?_cons_of_ne_nil hs]
    exact hl

/-- One line with an end. -/
theorem split_keep_line {l : List Char} (h : ∀ c ∈ l, isLineBreak c = false) {e : List Char}
    (he : e = ['\n'] ∨ e = ['\r', '\n']) : split_keep (l ++ e) = [l ++ e] := by
  induction l with
  | nil => obtain rfl | rfl := he <;> decide
  | cons c l ih =>
    rw [List.cons_append, split_keep_cons _ (h c List.mem_cons_self),
      ih fun d hd => h d (List.mem_cons_of_mem _ hd)]
    rfl

theorem ended_line {l e : List Char} (he : e = ['\n'] ∨ e = ['\r', '\n']) : Ended (l ++ e) := by
  refine ended_append ?_
  obtain rfl | rfl := he
  · exact ⟨'\n', rfl, by decide⟩
  · exact ⟨'\n', rfl, by decide⟩

theorem getLast?_line {l e : List Char} (he : e = ['\n'] ∨ e = ['\r', '\n']) :
    (l ++ e).getLast? = some '\n' := by
  obtain rfl | rfl := he
  · simp
  · simp

/-- A line with an end, and a text after it. -/
theorem split_keep_line_append {l : List Char} (h : ∀ c ∈ l, isLineBreak c = false) {e : List Char}
    (he : e = ['\n'] ∨ e = ['\r', '\n']) (r : List Char) :
    split_keep (l ++ e ++ r) = (l ++ e) :: split_keep r := by
  rw [split_keep_append (.inr (ended_line he)), split_keep_line h he]
  · rfl
  · rw [getLast?_line he]
    simp

/-- Many lines with ends, and a text after them. -/
theorem split_keep_lines_append {ls : List (List Char)}
    (h : ∀ l ∈ ls, ∀ c ∈ l, isLineBreak c = false) {e : List Char}
    (he : e = ['\n'] ∨ e = ['\r', '\n']) (r : List Char) :
    split_keep (ls.flatMap (· ++ e) ++ r) = ls.map (· ++ e) ++ split_keep r := by
  induction ls with
  | nil => rfl
  | cons l ls ih =>
    rw [List.flatMap_cons, List.append_assoc, split_keep_line_append (h l List.mem_cons_self) he,
      ih fun x hx => h x (List.mem_cons_of_mem _ hx)]
    rfl

/-! ## Some of the lines -/

theorem head?_flatten_take {ls : List (List Char)} {c : Char} {s : List Char} (k : ℕ)
    (h : ls.flatten = c :: s) {d : Char} (hd : d ≠ c) : (ls.take k).flatten.head? ≠ some d := by
  have hsplit : (ls.take k).flatten ++ (ls.drop k).flatten = c :: s := by
    rw [← List.flatten_append, List.take_append_drop, h]
  intro he
  obtain ⟨t, ht⟩ := List.head?_eq_some_iff.1 he
  rw [ht, List.cons_append] at hsplit
  exact hd (List.cons.inj hsplit).1

/-- The first lines of a text are lines. -/
theorem split_keep_take (s : List Char) (k : ℕ) :
    split_keep ((split_keep s).take k).flatten = (split_keep s).take k := by
  fun_induction split_keep s generalizing k with
  | case1 => rw [List.take_nil]; rfl
  | case2 => cases k <;> simp [split_keep]
  | case3 t ih =>
    cases k with
    | zero => rfl
    | succ k =>
      rw [List.take_succ_cons, List.flatten_cons, List.cons_append, List.cons_append,
        List.nil_append, split_keep.eq_def]
      simp only [if_true]
      rw [ih]
  | case4 d t hd ih =>
    cases k with
    | zero => rfl
    | succ k =>
      rw [List.take_succ_cons, List.flatten_cons, List.cons_append, List.nil_append,
        split_keep_break _ (by decide) fun _ =>
          head?_flatten_take k (flatten_split_keep (d :: t)) (Ne.symm hd), ih]
  | case5 c s hc hb ih =>
    cases k with
    | zero => rfl
    | succ k =>
      rw [List.take_succ_cons, List.flatten_cons, List.cons_append, List.nil_append,
        split_keep_break _ hb fun he => absurd he hc, ih]
  | case6 c s hc hb ih =>
    rw [Bool.not_eq_true] at hb
    cases k with
    | zero => rfl
    | succ k =>
      cases hs : split_keep s with
      | nil =>
        rw [consLine, List.take_succ_cons, List.take_nil, List.flatten_singleton,
          split_keep_cons _ hb]
        rfl
      | cons l ls =>
        rw [consLine, List.take_succ_cons, List.flatten_cons, List.cons_append,
          split_keep_cons _ hb, ← List.flatten_cons, ← List.take_succ_cons, ← hs, ih, hs]
        rfl

/-- The last lines of a text are lines. -/
theorem split_keep_drop (s : List Char) (k : ℕ) :
    split_keep ((split_keep s).drop k).flatten = (split_keep s).drop k := by
  fun_induction split_keep s generalizing k with
  | case1 => rw [List.drop_nil]; rfl
  | case2 => cases k <;> simp [split_keep]
  | case3 t ih =>
    cases k with
    | zero => rw [List.drop_zero, List.flatten_cons, flatten_split_keep]; rfl
    | succ k => rw [List.drop_succ_cons, ih]
  | case4 d t hd ih =>
    cases k with
    | zero =>
      rw [List.drop_zero, List.flatten_cons, flatten_split_keep]
      exact split_keep_break _ (by decide) fun _ he => hd (Option.some.inj he)
    | succ k => rw [List.drop_succ_cons, ih]
  | case5 c s hc hb ih =>
    cases k with
    | zero =>
      rw [List.drop_zero, List.flatten_cons, flatten_split_keep]
      exact split_keep_break _ hb fun he => absurd he hc
    | succ k => rw [List.drop_succ_cons, ih]
  | case6 c s hc hb ih =>
    rw [Bool.not_eq_true] at hb
    cases k with
    | zero => rw [List.drop_zero, flatten_consLine, flatten_split_keep, split_keep_cons _ hb]
    | succ k =>
      cases hs : split_keep s with
      | nil => rw [consLine, List.drop_succ_cons, List.drop_nil]; rfl
      | cons l ls =>
        have h := ih (k + 1)
        rw [hs, List.drop_succ_cons] at h
        exact h

/-- All lines but the last one have ends. -/
theorem ended_of_mem_dropLast {s l : List Char} (h : l ∈ (split_keep s).dropLast) : Ended l := by
  fun_induction split_keep s generalizing l with
  | case1 => cases h
  | case2 => cases h
  | case3 t ih =>
    cases hs : split_keep t with
    | nil => rw [hs] at h; cases h
    | cons l' ls =>
      rw [hs, List.dropLast_cons_cons] at h
      obtain rfl | h := List.mem_cons.1 h
      · exact ⟨'\n', rfl, by decide⟩
      · exact ih (hs ▸ h)
  | case4 d t hd ih =>
    cases hs : split_keep (d :: t) with
    | nil => rw [hs] at h; cases h
    | cons l' ls =>
      rw [hs, List.dropLast_cons_cons] at h
      obtain rfl | h := List.mem_cons.1 h
      · exact ⟨'\r', rfl, by decide⟩
      · exact ih (hs ▸ h)
  | case5 c s hc hb ih =>
    cases hs : split_keep s with
    | nil => rw [hs] at h; cases h
    | cons l' ls =>
      rw [hs, List.dropLast_cons_cons] at h
      obtain rfl | h := List.mem_cons.1 h
      · exact ⟨c, rfl, hb⟩
      · exact ih (hs ▸ h)
  | case6 c s hc hb ih =>
    rcases hs : split_keep s with _ | ⟨l', _ | ⟨l'', ls⟩⟩
    · rw [hs] at h; cases h
    · rw [hs] at h; cases h
    · rw [hs, consLine, List.dropLast_cons_cons] at h
      rw [hs, List.dropLast_cons_cons] at ih
      obtain rfl | h := List.mem_cons.1 h
      · exact ended_append (s := [c]) (ih List.mem_cons_self)
      · exact ih (List.mem_cons_of_mem _ h)

theorem ended_take {s : List Char} {k : ℕ} (hk : k < (split_keep s).length) :
    ((split_keep s).take k).flatten = [] ∨ Ended ((split_keep s).take k).flatten := by
  rcases hlast : ((split_keep s).take k).getLast? with _ | l
  · rw [List.getLast?_eq_none_iff] at hlast
    exact .inl (by rw [hlast]; rfl)
  · obtain ⟨ls, hls⟩ := List.getLast?_eq_some_iff.1 hlast
    right
    rw [hls, List.flatten_append, List.flatten_singleton]
    refine ended_append (ended_of_mem_dropLast (s := s) ?_)
    have hmem : l ∈ (split_keep s).take k := by
      rw [hls]
      exact List.mem_append_right _ List.mem_cons_self
    rw [List.dropLast_eq_take]
    exact List.take_subset_take_left _ (by omega) hmem

/-- A text after the first lines of another. -/
theorem split_keep_take_append {s : List Char} {k : ℕ} (hk : k < (split_keep s).length)
    {r : List Char} (hr : r.head? ≠ some '\n') :
    split_keep (((split_keep s).take k).flatten ++ r) = (split_keep s).take k ++ split_keep r := by
  rw [split_keep_append (ended_take hk) fun _ => hr, split_keep_take]

end PyText
