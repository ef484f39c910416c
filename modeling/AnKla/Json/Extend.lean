import AnKla.Json.Lines
import AnKla.Json.Loads

/-!
# Reading a text that goes on

A reader takes the same from a longer text, if what it reads ends by itself: a string, an
array and an object do, and a number does where the text goes on with a character that no
number has.

* `Extends`: what is taken from a text is taken from every longer one.
* `loads_of_prefix`: a text that was cut is read as the object that it is a part of, or it
  is not read.
-/

namespace PyJson

/-! ## White space -/

/-- The text goes on, with a character that ends a number. -/
def Stops (r : List Char) : Prop :=
  ∃ c s, r = c :: s ∧ (isWs c = true ∨ c = ',' ∨ c = ']' ∨ c = '}')

theorem Stops.ne_nil {r : List Char} (h : Stops r) : r ≠ [] := by
  obtain ⟨c, s, rfl, -⟩ := h
  exact List.cons_ne_nil c s

/-- No number goes on with this character. -/
theorem Stops.head {c : Char} {s : List Char} (h : Stops (c :: s)) :
    c ≠ '.' ∧ c ≠ 'e' ∧ c ≠ 'E' := by
  obtain ⟨d, u, he, hd⟩ := h
  obtain ⟨rfl, rfl⟩ := List.cons.inj he
  refine ⟨?_, ?_, ?_⟩
  all_goals
    rintro rfl
    revert hd
    decide

theorem skipWs_cons (c : Char) (s : List Char) :
    skipWs (c :: s) = if isWs c = true then skipWs s else c :: s := by
  rw [skipWs, List.dropWhile_cons]
  rfl

theorem Stops.of_skipWs {r s : List Char} {d : Char} (h : skipWs r = d :: s)
    (hd : d = ',' ∨ d = ']' ∨ d = '}') : Stops r := by
  cases r with
  | nil => cases h
  | cons c u =>
    refine ⟨c, u, rfl, ?_⟩
    rw [skipWs_cons] at h
    split_ifs at h with hc
    · exact .inl hc
    · cases h
      exact .inr hd

theorem skipWs_append {s : List Char} (h : skipWs s ≠ []) (t : List Char) :
    skipWs (s ++ t) = skipWs s ++ t := by
  induction s with
  | nil => exact absurd rfl h
  | cons c s ih =>
    rw [List.cons_append, skipWs_cons, skipWs_cons]
    rw [skipWs_cons] at h
    split_ifs at h ⊢ with hc
    · exact ih h
    · rfl

/-! ## Numbers -/

theorem lexDigits_extends {s : List Char} (hr : (lexDigits s).2 ≠ []) (t : List Char) :
    lexDigits (s ++ t) = ((lexDigits s).1, (lexDigits s).2 ++ t) := by
  induction s with
  | nil => exact absurd rfl hr
  | cons c s ih =>
    rw [lexDigits, List.dropWhile_cons] at hr
    rw [List.cons_append, lexDigits, lexDigits, List.takeWhile_cons, List.dropWhile_cons,
      List.takeWhile_cons, List.dropWhile_cons]
    split_ifs at hr ⊢ with hc
    · have hs := ih hr
      rw [lexDigits, lexDigits, Prod.mk.injEq] at hs
      rw [hs.1, hs.2]
    · rfl

theorem lexNat_extends {s i r : List Char} (h : lexNat s = some (i, r)) (hr : r ≠ [])
    (t : List Char) : lexNat (s ++ t) = some (i, r ++ t) := by
  cases s with
  | nil => cases h
  | cons c s =>
    rw [lexNat] at h
    rw [List.cons_append, lexNat]
    split_ifs at h ⊢ with h0 hd
    · cases h
      rfl
    · rw [Option.some.injEq, Prod.ext_iff] at h
      rw [← List.cons_append, lexDigits_extends (by rwa [h.2]), h.1, h.2]

theorem lexInt_extends {s i r : List Char} (h : lexInt s = some (i, r)) (hr : r ≠ [])
    (t : List Char) : lexInt (s ++ t) = some (i, r ++ t) := by
  cases s with
  | nil => cases h
  | cons c s =>
    rw [lexInt] at h
    rw [List.cons_append, lexInt]
    split_ifs at h ⊢ with hc
    · obtain ⟨⟨ds, u⟩, hds, he⟩ := Option.map_eq_some_iff.1 h
      cases he
      rw [lexNat_extends hds hr]
      rfl
    · exact lexNat_extends h hr t

theorem lexFrac_extends {s : List Char} (hr : (lexFrac s).2 ≠ [])
    (hdot : ∀ u, (lexFrac s).2 ≠ '.' :: u) (t : List Char) :
    lexFrac (s ++ t) = ((lexFrac s).1, (lexFrac s).2 ++ t) := by
  cases s with
  | nil => exact absurd rfl hr
  | cons c s =>
    rw [lexFrac] at hr hdot
    rw [List.cons_append, lexFrac, lexFrac]
    split_ifs at hr hdot with hc
    · rw [lexDigits_extends hr, if_pos hc, if_pos hc]
    · rw [if_neg hc, if_neg fun hdigits => hdot s (by rw [hdigits.1]), List.cons_append]

theorem lexSign_extends {s : List Char} (h : s ≠ []) (t : List Char) :
    lexSign (s ++ t) = ((lexSign s).1, (lexSign s).2 ++ t) := by
  cases s with
  | nil => exact absurd rfl h
  | cons c s =>
    rw [List.cons_append, lexSign, lexSign]
    split_ifs <;> rfl

theorem lexExp_extends {s : List Char} (hr : Stops (lexExp s).2) (t : List Char) :
    lexExp (s ++ t) = ((lexExp s).1, (lexExp s).2 ++ t) := by
  cases s with
  | nil => exact absurd rfl hr.ne_nil
  | cons c s =>
    rw [lexExp] at hr
    rw [List.cons_append, lexExp, lexExp]
    simp only at hr ⊢
    split_ifs at hr with hc
    · have hs : s ≠ [] := by
        rintro rfl
        exact hc.2 rfl
      rw [lexSign_extends hs]
      simp only
      rw [lexDigits_extends hr.ne_nil, if_pos hc, if_pos hc]
    · rw [if_neg hc, if_neg fun hexp => hexp.1.elim hr.head.2.1 hr.head.2.2, List.cons_append]

/-- What stops the exponent stops the fraction. -/
theorem Stops.lexFrac {s : List Char} (h : Stops (lexExp s).2) :
    s ≠ [] ∧ ∀ u, s ≠ '.' :: u := by
  refine ⟨?_, ?_⟩
  · rintro rfl
    exact h.ne_nil rfl
  · rintro u rfl
    rw [lexExp] at h
    simp only at h
    rw [if_neg fun hexp => absurd hexp.1 (by decide)] at h
    exact h.head.1 rfl

theorem lexNumber_extends {s i fe r : List Char} (h : lexNumber s = some (i, fe, r))
    (hr : Stops r) (t : List Char) : lexNumber (s ++ t) = some (i, fe, r ++ t) := by
  obtain ⟨⟨i', u⟩, hi, h⟩ := Option.map_eq_some_iff.1 h
  simp only [Prod.mk.injEq] at h
  obtain ⟨rfl, rfl, rfl⟩ := h
  obtain ⟨hnil, hdot⟩ := hr.lexFrac
  have hu : u ≠ [] := by
    rintro rfl
    exact hnil rfl
  rw [lexNumber, lexInt_extends hi hu, Option.map_some]
  simp only
  rw [lexFrac_extends hnil hdot]
  simp only
  rw [lexExp_extends hr]

theorem parseNumber_extends {s r : List Char} {v : Json} (h : parseNumber s = some (v, r))
    (hr : Stops r) (t : List Char) : parseNumber (s ++ t) = some (v, r ++ t) := by
  rw [parseNumber] at h
  cases hs : lexNumber s with
  | none =>
    rw [hs] at h
    cases h
  | some p =>
    obtain ⟨i, fe, u⟩ := p
    rw [hs] at h
    simp only at h
    have hu : u = r := by
      split_ifs at h
      · exact congrArg Prod.snd (Option.some.inj h)
      · exact congrArg Prod.snd (Option.some.inj h)
    subst hu
    rw [parseNumber, lexNumber_extends hs hr]
    simp only
    split_ifs at h ⊢
    · cases h
      rfl
    · cases h
      rfl

/-! ## Strings and literals -/

theorem parseLit_extends {rest s r : List Char} {v w : Json}
    (h : parseLit rest v s = some (w, r)) (t : List Char) :
    parseLit rest v (s ++ t) = some (w, r ++ t) := by
  rw [parseLit] at h ⊢
  split_ifs at h with hp
  cases h
  rw [List.isPrefixOf_iff_prefix] at hp
  rw [if_pos (List.isPrefixOf_iff_prefix.2 (hp.trans (List.prefix_append s t))),
    List.drop_append_of_le_length hp.length_le]

theorem parseString_extends {s cs r : List Char} (h : parseString s = some (cs, r))
    (t : List Char) : parseString (s ++ t) = some (cs, r ++ t) := by
  -- only the readings that succeed are left
  fun_induction parseString s generalizing cs r <;> try (cases h; done)
  case case2 s =>
    cases h
    rw [List.cons_append, parseString.eq_def]
    rfl
  all_goals
    rename ∀ {cs r : List Char}, parseString _ = some (cs, r) → _ => ih
    obtain ⟨⟨cs', r'⟩, hs, he⟩ := Option.map_eq_some_iff.1 h
    cases he
    simp only [List.cons_append]
    rw [parseString.eq_def]
    simp only [*, if_true, if_false, and_self]
    rw [ih hs]
    rfl

/-! ## Values -/

/-- The value at the start of the text ends by itself. -/
def Closed (s : List Char) : Prop := ∃ c u, s = c :: u ∧ (c = '"' ∨ c = '{' ∨ c = '[')

/-- What a reader takes from a text, it takes from a longer one, with more fuel. -/
private def Extends {α : Type} (p : ℕ → List Char → Option (α × List Char)) (n : ℕ)
    (s : List Char) (ends : List Char → Prop) : Prop :=
  ∀ a r, p n s = some (a, r) → ends r → ∀ m t, n ≤ m → p m (s ++ t) = some (a, r ++ t)

/-- After an element, the array goes on or ends. -/
theorem Stops.arrRest {n : ℕ} {r u : List Char} {xs : List Json}
    (h : parseArrRest n (skipWs r) = some (xs, u)) : Stops r := by
  cases n with
  | zero =>
    rw [parseArrRest] at h
    cases h
  | succ n =>
    cases hr : skipWs r with
    | nil =>
      rw [hr] at h
      cases h
    | cons c s =>
      rw [hr, parseArrRest] at h
      refine .of_skipWs hr ?_
      split_ifs at h with hend hnext
      · exact .inr (.inl hend)
      · exact .inl hnext

/-- After an item, the object goes on or ends. -/
theorem Stops.objRest {n : ℕ} {r u : List Char} {kvs : List (String × Json)}
    (h : parseObjRest n (skipWs r) = some (kvs, u)) : Stops r := by
  cases n with
  | zero =>
    rw [parseObjRest] at h
    cases h
  | succ n =>
    cases hr : skipWs r with
    | nil =>
      rw [hr] at h
      cases h
    | cons c s =>
      rw [hr, parseObjRest] at h
      refine .of_skipWs hr ?_
      split_ifs at h with hend hnext
      · exact .inr (.inr hend)
      · exact .inl hnext

theorem parse_nil (n : ℕ) : parseValue n [] = none ∧ parseItem n [] = none ∧
    parseArrRest n [] = none ∧ parseObjRest n [] = none := by
  cases n with
  | zero => simp only [parseValue, parseItem, parseArrRest, parseObjRest, and_self]
  | succ n => simp only [parseValue, parseItem, parseArrRest, parseObjRest, and_self]

/-- White space before a part of the text that is read. -/
theorem skipWs_append_of_read {α : Type} {p : ℕ → List Char → Option (α × List Char)} {n : ℕ}
    {s : List Char} {x : α × List Char} (hp : p n [] = none) (h : p n (skipWs s) = some x)
    (t : List Char) : skipWs (s ++ t) = skipWs s ++ t := by
  refine skipWs_append (fun hnil => ?_) t
  rw [hnil, hp] at h
  cases h

/-- All four readers go on. -/
private theorem extends_all (n : ℕ) :
    (∀ s, Extends parseValue n s fun r => Closed s ∨ Stops r) ∧
    (∀ s, Extends parseItem n s Stops) ∧
    (∀ s, Extends parseArrRest n s fun _ => True) ∧
    ∀ s, Extends parseObjRest n s fun _ => True := by
  induction n with
  | zero =>
    refine ⟨fun s => ?_, fun s => ?_, fun s => ?_, fun s => ?_⟩ <;> intro a r h
    · rw [parseValue] at h; cases h
    · rw [parseItem] at h; cases h
    · rw [parseArrRest] at h; cases h
    · rw [parseObjRest] at h; cases h
  | succ n ih =>
    obtain ⟨hvalue, hitem, harr, hobj⟩ := ih
    obtain ⟨hvalue0, hitem0, harr0, hobj0⟩ := parse_nil n
    refine ⟨fun s => ?_, fun s => ?_, fun s => ?_, fun s => ?_⟩ <;>
      cases s with
      | nil => rintro _ _ ⟨⟩
      | cons c s => ?_
    all_goals
      rintro a r h hr m t hm
      obtain ⟨m, rfl⟩ : ∃ k, m = k + 1 := ⟨m - 1, by omega⟩
      replace hm : n ≤ m := by omega
      rw [List.cons_append]
    · rw [parseValue] at h ⊢
      split_ifs at h ⊢ with hq hb hk hn ht hf
      · obtain ⟨p, hp, he⟩ := Option.map_eq_some_iff.1 h
        cases he
        rw [parseString_extends hp]
        rfl
      · cases hs : skipWs s with
        | nil =>
          rw [hs] at h
          cases h
        | cons d u =>
          rw [skipWs_append (by rw [hs]; exact List.cons_ne_nil d u), hs]
          rw [hs] at h
          simp only [List.cons_append] at h ⊢
          split_ifs at h ⊢ with hd
          · cases h
            rfl
          · obtain ⟨p, hp, h⟩ := Option.bind_eq_some_iff.1 h
            obtain ⟨q, hq', he⟩ := Option.map_eq_some_iff.1 h
            cases he
            rw [← List.cons_append, hitem _ _ _ hp (.objRest hq') m t hm, Option.bind_some,
              skipWs_append_of_read hobj0 hq', hobj _ _ _ hq' trivial m t hm]
            rfl
      · cases hs : skipWs s with
        | nil =>
          rw [hs] at h
          cases h
        | cons d u =>
          rw [skipWs_append (by rw [hs]; exact List.cons_ne_nil d u), hs]
          rw [hs] at h
          simp only [List.cons_append] at h ⊢
          split_ifs at h ⊢ with hd
          · cases h
            rfl
          · obtain ⟨p, hp, h⟩ := Option.bind_eq_some_iff.1 h
            obtain ⟨q, hq', he⟩ := Option.map_eq_some_iff.1 h
            cases he
            rw [← List.cons_append, hvalue _ _ _ hp (.inr (.arrRest hq')) m t hm,
              Option.bind_some, skipWs_append_of_read harr0 hq', harr _ _ _ hq' trivial m t hm]
            rfl
      · exact parseLit_extends h t
      · exact parseLit_extends h t
      · exact parseLit_extends h t
      · rw [← List.cons_append]
        refine parseNumber_extends h (hr.resolve_left ?_) t
        rintro ⟨d, u, he, hd⟩
        obtain ⟨rfl, -⟩ := List.cons.inj he
        exact hd.elim hq fun hd => hd.elim hb hk
    · rw [parseItem] at h ⊢
      split_ifs at h ⊢ with hq
      obtain ⟨p, hp, h⟩ := Option.bind_eq_some_iff.1 h
      rw [parseString_extends hp, Option.bind_some]
      simp only
      cases hs : skipWs p.2 with
      | nil =>
        rw [hs] at h
        cases h
      | cons d u =>
        rw [skipWs_append (by rw [hs]; exact List.cons_ne_nil d u), hs]
        rw [hs] at h
        simp only [List.cons_append] at h ⊢
        split_ifs at h ⊢ with hd
        obtain ⟨q, hq', he⟩ := Option.map_eq_some_iff.1 h
        cases he
        rw [skipWs_append_of_read hvalue0 hq', hvalue _ _ _ hq' (.inr hr) m t hm]
        rfl
    · rw [parseArrRest] at h ⊢
      split_ifs at h ⊢ with hend hnext
      · cases h
        rfl
      · obtain ⟨p, hp, h⟩ := Option.bind_eq_some_iff.1 h
        obtain ⟨q, hq', he⟩ := Option.map_eq_some_iff.1 h
        cases he
        rw [skipWs_append_of_read hvalue0 hp, hvalue _ _ _ hp (.inr (.arrRest hq')) m t hm,
          Option.bind_some, skipWs_append_of_read harr0 hq', harr _ _ _ hq' trivial m t hm]
        rfl
    · rw [parseObjRest] at h ⊢
      split_ifs at h ⊢ with hend hnext
      · cases h
        rfl
      · obtain ⟨p, hp, h⟩ := Option.bind_eq_some_iff.1 h
        obtain ⟨q, hq', he⟩ := Option.map_eq_some_iff.1 h
        cases he
        rw [skipWs_append_of_read hitem0 hp, hitem _ _ _ hp (.objRest hq') m t hm,
          Option.bind_some, skipWs_append_of_read hobj0 hq', hobj _ _ _ hq' trivial m t hm]
        rfl

/-- The text of an object starts with its brace. -/
theorem dumps_obj (kvs : List (String × Json)) : ∃ s, dumps (.obj kvs) = '{' :: s := by
  cases kvs with
  | nil => exact ⟨_, rfl⟩
  | cons kv kvs =>
    obtain ⟨k, x⟩ := kv
    exact ⟨_, by rw [dumps]⟩

/-- No number goes on with white space. -/
theorem numEnd_of_blank {t : List Char} (h : skipWs t = []) : NumEnd t := by
  cases t with
  | nil => trivial
  | cons c t =>
    rw [skipWs_cons] at h
    split_ifs at h with hc
    have hstops : Stops (c :: t) := ⟨c, t, rfl, .inl hc⟩
    refine ⟨?_, hstops.head⟩
    rw [isWs] at hc
    revert hc
    simp only [Bool.or_eq_true, decide_eq_true_eq]
    rintro (((rfl | rfl) | rfl) | rfl) <;> decide

/-- What was written is read back before white space. -/
theorem loads_dumps_append {v : Json} (hv : v.Written) {t : List Char} (ht : skipWs t = []) :
    loads (dumps v ++ t) = some v := by
  rw [loads, skipWs_dumps, parseValue_dumps v _ t hv.1 hv.2 (by rw [List.length_append]; omega)
    (numEnd_of_blank ht)]
  simp only [Option.bind_some, if_pos ht]

/-- A text that was cut is read as the object that it is a part of, or it is not read. -/
theorem loads_of_prefix {v w : Json} (hv : v.Written) (hobj : v.isObj = true) {s t : List Char}
    (hs : s <+: dumps v ++ t) (ht : skipWs t = []) (h : loads s = some w) : w = v := by
  obtain ⟨u, hu⟩ := hs
  obtain ⟨kvs, rfl⟩ : ∃ kvs, v = .obj kvs := by
    cases v <;> first | exact ⟨_, rfl⟩ | cases hobj
  obtain ⟨body, hbody⟩ := dumps_obj kvs
  rw [loads] at h
  obtain ⟨p, hp, hend⟩ := Option.bind_eq_some_iff.1 h
  split_ifs at hend with hnil
  cases hend
  have hclosed : skipWs s = s ∧ Closed s := by
    cases s with
    | nil =>
      rw [show skipWs [] = [] from rfl, (parse_nil _).1] at hp
      cases hp
    | cons c s =>
      rw [hbody, List.cons_append, List.cons_append] at hu
      obtain ⟨rfl, -⟩ := List.cons.inj hu
      exact ⟨skipWs_of_not_isWs _ (by decide), '{', s, rfl, .inr (.inl rfl)⟩
  rw [hclosed.1] at hp
  have hread := (extends_all _).1 s p.1 p.2 hp (.inl hclosed.2)
    (s.length + 1 + ((dumps (.obj kvs)).length + 1)) u (by omega)
  rw [hu, parseValue_dumps _ _ _ hv.1 hv.2 (by omega) ?_] at hread
  · exact (congrArg Prod.fst (Option.some.inj hread)).symm
  · exact numEnd_of_blank ht

end PyJson
