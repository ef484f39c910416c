import AnKla.Context.Block
import AnKla.Policy.Dict
import AnKla.Sealed.Opens
import Mathlib.Data.List.GetD
import Mathlib.Data.List.Infix

/-!
# What an edit of a managed block keeps

* `scan_congr`: line ends are nothing to the scan for markers.
* `scan_append`: the scan of two parts, the second one under the fence that the first one opens.
* `Frame.parse`: a block between lines that leave no fence open is found again.
* `newline_for_append`: an appended block keeps the kind of the document's line ends.
* `install_laws`: the block is there, what is outside stays, and it can be repeated and undone.
* `install_fenced`: after an open fence the appended block is not found again.
-/

namespace AnKla.Context

open PyJson PyText Base64

variable {P : Sealed.Primitives}

/-! ## Line ends -/

/-- Carriage returns and line feeds. -/
def Ends (t : List Char) : Prop := ∀ c ∈ t, c = '\r' ∨ c = '\n'

theorem Ends.space {t : List Char} (h : Ends t) : ∀ c ∈ t, is_space c = true := by
  intro c hc
  obtain rfl | rfl := h c hc <;> decide

theorem bare_eq (l : List Char) : ∃ t, l = bare l ++ t ∧ Ends t := by
  refine ⟨(l.reverse.takeWhile fun c => c = '\r' || c = '\n').reverse, ?_, fun c hc => ?_⟩
  · rw [bare, ← List.reverse_append, List.takeWhile_append_dropWhile, List.reverse_reverse]
  · simpa using List.mem_takeWhile_imp (List.mem_reverse.1 hc)

theorem bare_append {l t : List Char} (h : Ends t) : bare (l ++ t) = bare l := by
  have hall : ∀ c ∈ t.reverse, (decide (c = '\r') || decide (c = '\n')) = true := fun c hc => by
    simpa using h c (List.mem_reverse.1 hc)
  rw [bare, bare, List.reverse_append, List.dropWhile_append,
    List.dropWhile_eq_nil_iff.2 hall]
  rfl

theorem bare_cons {c : Char} (hc : isLineBreak c = false) (l : List Char) :
    bare (c :: l) = c :: bare l := by
  have hne : c ≠ '\r' ∧ c ≠ '\n' := by
    constructor <;> rintro rfl <;> revert hc <;> decide
  rw [bare, bare, List.reverse_cons, List.dropWhile_append]
  cases hd : l.reverse.dropWhile fun c => c = '\r' || c = '\n' with
  | nil => simp [hne.1, hne.2]
  | cons d s => simp

theorem takeWhile_append_nil {α : Type*} {p : α → Bool} {s t : List α} (h : t.takeWhile p = []) :
    (s ++ t).takeWhile p = s.takeWhile p := by
  rw [List.takeWhile_append]
  split_ifs with hs
  · rw [h, List.append_nil, (List.takeWhile_prefix p).eq_of_length hs]
  · rfl

theorem fence_token_append {s t : List Char} (h : Ends t) :
    fence_token (s ++ t) = fence_token s := by
  have hnil (k : Char) (hk : k ≠ '\r' ∧ k ≠ '\n') : t.takeWhile (· = k) = [] := by
    cases t with
    | nil => rfl
    | cons c t =>
      refine List.takeWhile_cons_of_neg ?_
      obtain rfl | rfl := h c List.mem_cons_self
      · simpa using hk.1.symm
      · simpa using hk.2.symm
  rw [fence_token, fence_token, takeWhile_append_nil (hnil BACKTICK (by decide)),
    takeWhile_append_nil (hnil '~' (by decide))]

/-- A text that starts a line starts it without the end of the line too. -/
theorem isPrefixOf_append {needle s t : List Char} (hn : ∀ c ∈ needle, c ≠ '\r' ∧ c ≠ '\n')
    (h : Ends t) : needle.isPrefixOf (s ++ t) = needle.isPrefixOf s := by
  induction needle generalizing s with
  | nil => rw [List.isPrefixOf_nil_left, List.isPrefixOf_nil_left]
  | cons c needle ih =>
    cases s with
    | nil =>
      cases t with
      | nil => rfl
      | cons d t =>
        have hne : c ≠ d := by
          rintro rfl
          obtain he | he := h c List.mem_cons_self
          · exact (hn c List.mem_cons_self).1 he
          · exact (hn c List.mem_cons_self).2 he
        simp [List.isPrefixOf, hne]
    | cons d s =>
      rw [List.cons_append, List.isPrefixOf_cons_cons, List.isPrefixOf_cons_cons,
        ih fun x hx => hn x (List.mem_cons_of_mem _ hx)]

theorem lstrip_append {s t : List Char} (h : Ends t) :
    lstrip (s ++ t) = if lstrip s = [] then [] else lstrip s ++ t := by
  rw [lstrip, lstrip, List.dropWhile_append]
  cases hs : s.dropWhile is_space with
  | nil =>
    rw [if_pos (by rfl), if_pos rfl]
    exact List.dropWhile_eq_nil_iff.2 h.space
  | cons c s => rw [if_neg (by simp), if_neg (by simp)]

theorem fence_token_lstrip {s t : List Char} (h : Ends t) :
    fence_token (lstrip (s ++ t)) = fence_token (lstrip s) := by
  rw [lstrip_append h]
  split_ifs with hs
  · rw [hs]
  · exact fence_token_append h

theorem fence_after_append {s t : List Char} (h : Ends t) (fence : Option Fence) :
    fence_after fence (s ++ t) = fence_after fence s := by
  unfold fence_after
  rw [fence_token_lstrip h]

theorem isPrefixOf_lstrip {needle s t : List Char} (hn : ∀ c ∈ needle, c ≠ '\r' ∧ c ≠ '\n')
    (h : Ends t) : needle.isPrefixOf (lstrip (s ++ t)) = needle.isPrefixOf (lstrip s) := by
  rw [lstrip_append h]
  split_ifs with hs
  · rw [hs]
  · exact isPrefixOf_append hn h

theorem anchored_append {s t : List Char} (h : Ends t) : anchored (s ++ t) = anchored s := by
  rw [anchored, anchored, isPrefixOf_lstrip (by decide) h, isPrefixOf_lstrip (by decide) h]

/-! ## Marks -/

/-- A line that starts a marker mentions the markers. -/
theorem str_contains_of_anchored {line : List Char} (h : anchored line = true) :
    str_contains "an-kla:managed-" line = true := by
  have hmention {anchor : List Char} (rest : List Char)
      (ha : anchor = "<!-- ".toList ++ "an-kla:managed-".toList ++ rest)
      (hp : anchor.isPrefixOf (lstrip line) = true) : str_contains "an-kla:managed-" line = true := by
    obtain ⟨r, hr⟩ := List.isPrefixOf_iff_prefix.1 hp
    refine List.any_eq_true.2 ⟨"an-kla:managed-".toList ++ (rest ++ r), ?_, ?_⟩
    · rw [List.mem_tails]
      refine List.IsSuffix.trans ⟨"<!-- ".toList, ?_⟩ (List.dropWhile_suffix is_space (l := line))
      rw [← lstrip, ← hr, ha]
      simp only [List.append_assoc]
    · exact List.isPrefixOf_iff_prefix.2 (List.prefix_append _ _)
  rw [anchored, Bool.or_eq_true] at h
  obtain h | h := h
  · exact hmention "begin".toList (by decide) h
  · exact hmention "end".toList (by decide) h

theorem mark_of_plain {line : List Char} (h : anchored line = false) (fence : Option Fence) :
    mark_of fence line = .ok .plain := by
  rw [mark_of, if_pos h, ite_self]

theorem mark_of_anchored {line : List Char} (h : anchored line = true) (fence : Option Fence) :
    mark_of fence line =
      if fence.isSome then .error (.value "managed_block_inside_fence")
      else if line.head? = some ' ' ∨ line.head? = some '\t' then
        .error (.value "managed_block_structure_invalid")
      else if BEGIN_PREFIX.isPrefixOf line then .ok .opening
      else if END_PREFIX.isPrefixOf line then .ok .closing
      else .error (.value "managed_block_structure_invalid") := by
  rw [mark_of, if_neg (by rw [str_contains_of_anchored h]; decide), if_neg (by rw [h]; decide)]

theorem mark_of_append {s t : List Char} (h : Ends t) (fence : Option Fence) :
    mark_of fence (s ++ t) = mark_of fence s := by
  cases ha : anchored s with
  | false => rw [mark_of_plain ha, mark_of_plain ((anchored_append h).trans ha)]
  | true =>
    have hhead : (s ++ t).head? = s.head? := by
      cases s with
      | nil => exact absurd ha (by decide)
      | cons c s => rfl
    rw [mark_of_anchored ha, mark_of_anchored ((anchored_append h).trans ha), hhead,
      isPrefixOf_append (by decide) h, isPrefixOf_append (by decide) h]

/-! ## Scans -/

/-- The ends of lines are nothing to a scan. -/
theorem scan_congr {ls ls' : List (List Char)} (h : ls.map bare = ls'.map bare)
    (fence : Option Fence) (index : ℕ) : scan fence index ls = scan fence index ls' := by
  induction ls generalizing ls' fence index with
  | nil =>
    cases ls' with
    | nil => rfl
    | cons l' ls' => cases h
  | cons l ls ih =>
    cases ls' with
    | nil => cases h
    | cons l' ls' =>
      obtain ⟨hl, hls⟩ := List.cons.inj h
      obtain ⟨t, ht, hends⟩ := bare_eq l
      obtain ⟨t', ht', hends'⟩ := bare_eq l'
      have hfence (f : Option Fence) : fence_after f l = fence_after f l' := by
        rw [ht, ht', fence_after_append hends, fence_after_append hends', hl]
      have hmark (f : Option Fence) : mark_of f l = mark_of f l' := by
        rw [ht, ht', mark_of_append hends, mark_of_append hends', hl]
      rw [scan, scan, hfence, hmark, ih hls]

/-- The scan of two parts. -/
theorem scan_append {ls ls' : List (List Char)} {fence : Option Fence} {index : ℕ}
    {r : BlockScan} : scan fence index (ls ++ ls') = .ok r ↔
      ∃ a b, scan fence index ls = .ok a ∧ scan a.fence (index + ls.length) ls' = .ok b ∧
        r = ⟨a.begins ++ b.begins, a.ends ++ b.ends, b.fence⟩ := by
  induction ls generalizing fence index r with
  | nil => simp [scan]
  | cons l ls ih =>
    rw [List.cons_append, scan, scan]
    simp only [bind_ok, pure_ok, ih, List.length_cons]
    rw [show index + (ls.length + 1) = index + 1 + ls.length by omega]
    constructor
    · rintro ⟨mark, hm, _, ⟨a, b, ha, hb, rfl⟩, rfl⟩
      refine ⟨a.mark index mark, b, ⟨mark, hm, a, ha, rfl⟩, ?_, ?_⟩
      · cases mark <;> exact hb
      · cases mark <;> rfl
    · rintro ⟨_, b, ⟨mark, hm, a, ha, rfl⟩, hb, rfl⟩
      refine ⟨mark, hm, _, ⟨a, b, ha, ?_, rfl⟩, ?_⟩
      · cases mark <;> exact hb
      · cases mark <;> rfl

/-- What is wrong with the second part is wrong with both. -/
theorem scan_append_error {ls ls' : List (List Char)} {fence : Option Fence} {index : ℕ}
    {a : BlockScan} {e : Failure} (ha : scan fence index ls = .ok a)
    (he : scan a.fence (index + ls.length) ls' = .error e) :
    scan fence index (ls ++ ls') = .error e := by
  induction ls generalizing fence index a with
  | nil =>
    rw [scan] at ha
    cases ha
    exact he
  | cons l ls ih =>
    rw [scan] at ha
    obtain ⟨mark, hm, ha⟩ := bind_ok.1 ha
    obtain ⟨b, hb, ha⟩ := bind_ok.1 ha
    rw [pure_ok] at ha
    rw [List.length_cons, show index + (ls.length + 1) = index + 1 + ls.length by omega] at he
    have hfence : a.fence = b.fence := by
      rw [← ha]
      cases mark <;> rfl
    rw [List.cons_append, scan, hm, ih hb (hfence ▸ he)]
    rfl

/-- What is wrong with the first part is wrong with both. -/
theorem scan_append_left_error {ls : List (List Char)} {fence : Option Fence} {index : ℕ}
    {e : Failure} (h : scan fence index ls = .error e) (ls' : List (List Char)) :
    scan fence index (ls ++ ls') = .error e := by
  induction ls generalizing fence index with
  | nil => cases h
  | cons l ls ih =>
    rw [List.cons_append, scan]
    rw [scan] at h
    cases hm : mark_of (fence_after fence l) l with
    | error e' =>
      rw [hm] at h
      cases h
      rfl
    | ok mark =>
      rw [hm] at h
      cases hs : scan (fence_after fence l) (index + 1) ls with
      | error e' =>
        rw [hs] at h
        cases h
        rw [ih hs]
        rfl
      | ok b =>
        rw [hs] at h
        cases h

/-- Markers are found where they stand. -/
theorem scan_bounds {ls : List (List Char)} {fence : Option Fence} {index : ℕ} {a : BlockScan}
    (h : scan fence index ls = .ok a) :
    (∀ i ∈ a.begins, index ≤ i ∧ i < index + ls.length) ∧
      ∀ i ∈ a.ends, index ≤ i ∧ i < index + ls.length := by
  induction ls generalizing fence index a with
  | nil =>
    rw [scan] at h
    cases h
    exact ⟨by simp, by simp⟩
  | cons l ls ih =>
    rw [scan] at h
    obtain ⟨mark, -, h⟩ := bind_ok.1 h
    obtain ⟨b, hb, h⟩ := bind_ok.1 h
    rw [pure_ok] at h
    obtain ⟨h1, h2⟩ := ih hb
    rw [List.length_cons]
    have hb1 : ∀ i ∈ b.begins, index ≤ i ∧ i < index + (ls.length + 1) := fun i hi => by
      have := h1 i hi
      omega
    have hb2 : ∀ i ∈ b.ends, index ≤ i ∧ i < index + (ls.length + 1) := fun i hi => by
      have := h2 i hi
      omega
    have hi : index ≤ index ∧ index < index + (ls.length + 1) := by omega
    subst h
    cases mark with
    | plain => exact ⟨hb1, hb2⟩
    | opening => exact ⟨List.forall_mem_cons.2 ⟨hi, hb1⟩, hb2⟩
    | closing => exact ⟨hb1, List.forall_mem_cons.2 ⟨hi, hb2⟩⟩

/-- Lines that neither start a marker nor a fence. -/
theorem scan_plain {ls : List (List Char)}
    (h : ∀ l ∈ ls, fence_token (lstrip l) = none ∧ anchored l = false) (fence : Option Fence)
    (index : ℕ) : scan fence index ls = .ok ⟨[], [], fence⟩ := by
  induction ls generalizing index with
  | nil => rfl
  | cons l ls ih =>
    obtain ⟨hl, ha⟩ := h l List.mem_cons_self
    have hfence : fence_after fence l = fence := by
      unfold fence_after
      rw [hl]
    rw [scan, hfence, mark_of_plain ha, ih fun x hx => h x (List.mem_cons_of_mem _ hx)]
    rfl

/-! ## The lines of a block -/

theorem newline_cases (newline : Newline) :
    newline.text = ['\n'] ∨ newline.text = ['\r', '\n'] := by
  cases newline
  · exact .inl rfl
  · exact .inr rfl

theorem ends_newline (newline : Newline) : Ends newline.text := by
  intro c hc
  obtain h | h := newline_cases newline
  · rw [h, List.mem_singleton] at hc
    exact .inr hc
  · rw [h] at hc
    obtain rfl | hc := List.mem_cons.1 hc
    · exact .inl rfl
    · exact .inr (List.mem_singleton.1 hc)

theorem compact_unbroken : ∀ l ∈ COMPACT_LINES.map String.toList, ∀ c ∈ l, isLineBreak c = false := by
  simp only [COMPACT_LINES, List.map_cons, List.map_nil]
  repeat rw [String.toList_ofList]
  decide +kernel

theorem compact_plain : ∀ l ∈ COMPACT_LINES.map String.toList,
    fence_token (lstrip l) = none ∧ anchored l = false := by
  simp only [COMPACT_LINES, List.map_cons, List.map_nil]
  repeat rw [String.toList_ofList]
  decide +kernel

variable (P) in
/-- The opening marker of a block. -/
def opening_marker : List Char := marker BEGIN_PREFIX (block_metadata P)

/-- The closing marker of a block. -/
def closing_marker : List Char := marker END_PREFIX closing_metadata

/-- The lines of the payload of a block. -/
def payload_lines (newline : Newline) : List (List Char) :=
  (COMPACT_LINES.map String.toList).map (· ++ newline.text)

variable (P) in
/-- The lines of a rendered block. -/
def block_lines (newline : Newline) : List (List Char) :=
  (opening_marker P ++ newline.text) :: (payload_lines newline ++ [closing_marker ++ newline.text])

theorem breakFree_dict {kvs : List (String × Json)} (hn : (kvs.map Prod.fst).Nodup)
    (h : ∀ kv ∈ kvs, (∀ c ∈ kv.1.toList, isRawBreak c = false) ∧ kv.2.BreakFree) :
    (dict kvs).BreakFree := by
  have hall : ∀ kv ∈ Json.ofItems kvs,
      (∀ c ∈ kv.1.toList, isRawBreak c = false) ∧ kv.2.BreakFree :=
    fun kv hkv => h kv ((Json.perm_ofItems hn).mem_iff.1 hkv)
  rw [dict, Json.BreakFree]
  generalize Json.ofItems kvs = items at hall
  induction items with
  | nil => exact trivial
  | cons kv items ih =>
    exact ⟨(hall kv List.mem_cons_self).1, (hall kv List.mem_cons_self).2,
      ih fun x hx => hall x (List.mem_cons_of_mem _ hx)⟩

theorem unbroken_hexDigit {c : Char} (h : isHexDigit c = true) : isRawBreak c = false := by
  have hsmall : c.toNat < 128 := by
    simp only [isHexDigit, Bool.or_eq_true, Bool.and_eq_true, decide_eq_true_eq] at h
    obtain h | ⟨-, h⟩ := h
    · have := (Char.isDigit_iff_toNat.1 h).2
      have h9 : ('9' : Char).toNat = 57 := rfl
      omega
    · have hle : c.toNat ≤ ('f' : Char).toNat := h
      have hf : ('f' : Char).toNat = 102 := rfl
      omega
  simp only [isRawBreak, Bool.or_eq_false_iff, decide_eq_false_iff_not]
  omega

theorem breakFree_digest (payload : Bytes) :
    (Json.str (Sealed.digest_bytes P payload)).BreakFree := by
  have hhex : ∀ c ∈ hex (P.sha256 payload), isRawBreak c = false := fun c hc =>
    unbroken_hexDigit (List.all_eq_true.1 (isHexDigit_hex _) c hc)
  have hstart : ∀ c ∈ "sha256:".toList, isRawBreak c = false := by decide
  have hlist : (Sealed.digest_bytes P payload).toList = "sha256:".toList ++ hex (P.sha256 payload) :=
    String.toList_ofList
  rw [Json.BreakFree, hlist]
  exact List.forall_mem_append.2 ⟨hstart, hhex⟩

theorem block_metadata_breakFree : (block_metadata P).BreakFree := by
  refine breakFree_dict (by simp) ?_
  simp only [List.forall_mem_cons, List.not_mem_nil, false_imp_iff, implies_true, and_true]
  refine ⟨⟨by decide, breakFree_digest _⟩, ⟨by decide, ?_⟩, ⟨by decide, ?_⟩, by decide, ?_⟩
  all_goals rw [Json.BreakFree]; decide

theorem closing_metadata_breakFree : closing_metadata.BreakFree := by
  refine breakFree_dict (by decide) ?_
  simp only [List.forall_mem_cons, List.not_mem_nil, false_imp_iff, implies_true, and_true]
  refine ⟨by decide, ?_⟩
  rw [Json.BreakFree]
  decide

/-- A marker is one line. -/
theorem marker_unbroken {start : List Char} (hs : ∀ c ∈ start, isLineBreak c = false) {v : Json}
    (hv : v.BreakFree) : ∀ c ∈ marker start v, isLineBreak c = false := by
  intro c hc
  rw [marker, List.mem_append, List.mem_append] at hc
  obtain (hc | hc) | hc := hc
  · exact hs c hc
  · by_contra hb
    rw [Bool.not_eq_false] at hb
    have hraw := isRawBreak_of_isLineBreak hb (control_dumps v c hc)
    rw [(breakFree_iff v).1 hv c hc] at hraw
    cases hraw
  · revert c
    decide

theorem opening_unbroken : ∀ c ∈ opening_marker P, isLineBreak c = false :=
  marker_unbroken (by decide) block_metadata_breakFree

theorem closing_unbroken : ∀ c ∈ closing_marker, isLineBreak c = false :=
  marker_unbroken (by decide) closing_metadata_breakFree

/-! ### Rendering -/

theorem replace_newline_append (newline s t : List Char) :
    replace_newline newline (s ++ t) = replace_newline newline s ++ replace_newline newline t :=
  List.flatMap_append

theorem replace_newline_plain (newline : List Char) {l : List Char} (h : '\n' ∉ l) :
    replace_newline newline l = l := by
  induction l with
  | nil => rfl
  | cons c l ih =>
    rw [List.mem_cons, not_or] at h
    rw [replace_newline, List.flatMap_cons, if_neg (Ne.symm h.1), ← replace_newline, ih h.2]
    rfl

theorem not_mem_of_unbroken {l : List Char} (h : ∀ c ∈ l, isLineBreak c = false) {d : Char}
    (hd : isLineBreak d = true) : d ∉ l := by
  intro hmem
  rw [h d hmem] at hd
  cases hd

theorem replace_newline_lines (newline : List Char) {ls : List (List Char)}
    (h : ∀ l ∈ ls, ∀ c ∈ l, isLineBreak c = false) :
    replace_newline newline (ls.flatMap (· ++ ['\n'])) = ls.flatMap (· ++ newline) := by
  induction ls with
  | nil => rfl
  | cons l ls ih =>
    have hend : replace_newline newline ['\n'] = newline := by simp [replace_newline]
    rw [List.flatMap_cons, replace_newline_append, replace_newline_append,
      replace_newline_plain _ (not_mem_of_unbroken (h l List.mem_cons_self) (by decide)), hend,
      ih fun x hx => h x (List.mem_cons_of_mem _ hx), List.flatMap_cons]

theorem compact_payload_eq :
    COMPACT_PAYLOAD = (COMPACT_LINES.map String.toList).flatMap (· ++ ['\n']) := by
  rw [List.flatMap_map]
  rfl

/-- A rendered block is its lines. -/
theorem render_eq (newline : Newline) :
    render_managed_block P newline = (block_lines P newline).flatten := by
  rw [render_managed_block, compact_payload_eq, replace_newline_lines _ compact_unbroken,
    block_lines, List.flatten_cons, List.flatten_append, List.flatten_singleton, payload_lines,
    ← List.flatMap_def, ← opening_marker, ← closing_marker]
  simp only [List.append_assoc]

/-- The lines of a block, and those of a text after it. -/
theorem split_keep_render (newline : Newline) (r : List Char) :
    split_keep (render_managed_block P newline ++ r) = block_lines P newline ++ split_keep r := by
  have hnl := newline_cases newline
  rw [render_eq, block_lines, List.flatten_cons, List.flatten_append, List.flatten_singleton,
    payload_lines, ← List.flatMap_def]
  simp only [List.append_assoc]
  rw [← List.append_assoc (opening_marker P),
    split_keep_line_append opening_unbroken hnl, split_keep_lines_append compact_unbroken hnl,
    ← List.append_assoc closing_marker, split_keep_line_append closing_unbroken hnl]
  simp only [List.cons_append, List.append_assoc, List.nil_append]

/-! ### Markers -/

theorem lstrip_of_head {c : Char} (h : is_space c = false) (s : List Char) :
    lstrip (c :: s) = c :: s := by
  rw [lstrip, List.dropWhile_cons_of_neg (by rw [h]; decide)]

theorem fence_token_of_head {c : Char} (hb : c ≠ BACKTICK) (ht : c ≠ '~') (s : List Char) :
    fence_token (c :: s) = none := by
  rw [fence_token, List.takeWhile_cons_of_neg (by simpa using hb),
    List.takeWhile_cons_of_neg (by simpa using ht)]
  rfl

/-- A line that starts with the start of a marker. -/
theorem lt_of_start {start : List Char} (h : start.head? = some '<') (r : List Char) :
    ∃ s, start ++ r = '<' :: s := by
  obtain ⟨t, rfl⟩ := List.head?_eq_some_iff.1 h
  exact ⟨t ++ r, rfl⟩

theorem fence_after_start {start : List Char} (h : start.head? = some '<') (r : List Char)
    (fence : Option Fence) : fence_after fence (start ++ r) = fence := by
  obtain ⟨s, hs⟩ := lt_of_start h r
  unfold fence_after
  rw [hs, lstrip_of_head (by decide), fence_token_of_head (by decide) (by decide)]

theorem isPrefixOf_append_right {needle start : List Char} (h : needle <+: start) (r : List Char) :
    needle.isPrefixOf (start ++ r) = true :=
  List.isPrefixOf_iff_prefix.2 (h.trans (List.prefix_append _ _))

theorem anchored_start {start : List Char} (h : start.head? = some '<')
    (ha : BEGIN_ANCHOR <+: start ∨ END_ANCHOR <+: start) (r : List Char) :
    anchored (start ++ r) = true := by
  have hstrip : lstrip (start ++ r) = start ++ r := by
    obtain ⟨s, hs⟩ := lt_of_start h r
    rw [hs, lstrip_of_head (by decide)]
  rw [anchored, hstrip, Bool.or_eq_true]
  exact ha.imp (isPrefixOf_append_right · r) (isPrefixOf_append_right · r)

/-- The closing marker is no opening one. -/
theorem not_begin_of_end (r : List Char) : BEGIN_PREFIX.isPrefixOf (END_PREFIX ++ r) = false := by
  by_contra h
  rw [Bool.not_eq_false, List.isPrefixOf_iff_prefix] at h
  obtain h | h := List.prefix_or_prefix_of_prefix h (List.prefix_append END_PREFIX r)
  · revert h
    decide
  · revert h
    decide

theorem mark_of_begin (r : List Char) : mark_of none (BEGIN_PREFIX ++ r) = .ok .opening := by
  have hhead : (BEGIN_PREFIX ++ r).head? = some '<' := rfl
  rw [mark_of_anchored (anchored_start (by decide) (.inl (by decide)) r), hhead,
    if_neg (by decide), if_neg (by decide), if_pos (isPrefixOf_append_right (List.prefix_refl _) r)]

theorem mark_of_end (r : List Char) : mark_of none (END_PREFIX ++ r) = .ok .closing := by
  have hhead : (END_PREFIX ++ r).head? = some '<' := rfl
  rw [mark_of_anchored (anchored_start (by decide) (.inr (by decide)) r), hhead,
    if_neg (by decide), if_neg (by decide), not_begin_of_end, if_neg (by decide),
    if_pos (isPrefixOf_append_right (List.prefix_refl _) r)]

theorem opening_line (newline : Newline) :
    ∃ r, opening_marker P ++ newline.text = BEGIN_PREFIX ++ r := by
  rw [opening_marker, marker, List.append_assoc, List.append_assoc]
  exact ⟨_, rfl⟩

theorem closing_line (newline : Newline) :
    ∃ r, closing_marker ++ newline.text = END_PREFIX ++ r := by
  rw [closing_marker, marker, List.append_assoc, List.append_assoc]
  exact ⟨_, rfl⟩

theorem payload_plain (newline : Newline) :
    ∀ l ∈ payload_lines newline, fence_token (lstrip l) = none ∧ anchored l = false := by
  intro l hl
  obtain ⟨l, hl', rfl⟩ := List.mem_map.1 hl
  obtain ⟨hfence, hanchored⟩ := compact_plain l hl'
  rw [fence_token_lstrip (ends_newline newline), anchored_append (ends_newline newline)]
  exact ⟨hfence, hanchored⟩

theorem length_payload_lines (newline : Newline) :
    (payload_lines newline).length = COMPACT_LINES.length := by
  rw [payload_lines, List.length_map, List.length_map]

/-- A rendered block has its two markers, outside of a fence. -/
theorem scan_block (newline : Newline) (index : ℕ) : scan none index (block_lines P newline) =
    .ok ⟨[index], [index + 1 + COMPACT_LINES.length], none⟩ := by
  have hclosing : scan none (index + 1 + COMPACT_LINES.length) [closing_marker ++ newline.text] =
      .ok ⟨[], [index + 1 + COMPACT_LINES.length], none⟩ := by
    obtain ⟨r, hr⟩ := closing_line newline
    rw [hr, scan, fence_after_start (by decide), mark_of_end]
    rfl
  have hrest : scan none (index + 1) (payload_lines newline ++ [closing_marker ++ newline.text]) =
      .ok ⟨[], [index + 1 + COMPACT_LINES.length], none⟩ :=
    scan_append.2 ⟨_, _, scan_plain (payload_plain newline) none (index + 1),
      by rw [length_payload_lines]; exact hclosing, rfl⟩
  obtain ⟨r, hr⟩ := opening_line (P := P) newline
  rw [block_lines, hr, scan, fence_after_start (by decide), mark_of_begin, hrest]
  rfl

/-- Under an open fence a rendered block is refused. -/
theorem scan_block_fenced (newline : Newline) (fence : Fence) (index : ℕ) :
    scan (some fence) index (block_lines P newline) =
      .error (.value "managed_block_inside_fence") := by
  obtain ⟨r, hr⟩ := opening_line (P := P) newline
  have hmark : mark_of (some fence) (BEGIN_PREFIX ++ r) =
      .error (.value "managed_block_inside_fence") := by
    rw [mark_of_anchored (anchored_start (by decide) (.inl (by decide)) r)]
    exact if_pos rfl
  rw [block_lines, hr, scan, fence_after_start (by decide), hmark]
  rfl

/-! ### Metadata -/

theorem bare_marker (start : List Char) (v : Json) (newline : Newline) :
    bare (marker start v ++ newline.text) = marker start v := by
  have hlast : marker start v = (start ++ dumps v ++ " --".toList) ++ ['>'] := by
    rw [marker, show MARKER_SUFFIX = " --".toList ++ ['>'] by decide]
    simp only [List.append_assoc]
  rw [bare_append (ends_newline newline), hlast, bare, List.reverse_append, List.reverse_singleton,
    List.singleton_append, List.dropWhile_cons_of_neg (by decide), List.reverse_cons,
    List.reverse_reverse]

theorem parse_marker_line (start : List Char) {v : Json} (hobj : v.isObj = true)
    (hv : Storable v) (newline : Newline) :
    parse_marker (marker start v ++ newline.text) start = .ok v := by
  have hmarker : marker start v = start ++ (dumps v ++ MARKER_SUFFIX) := List.append_assoc ..
  have hlen : (marker start v).length - MARKER_SUFFIX.length - start.length =
      (dumps v).length := by
    rw [hmarker, List.length_append, List.length_append]
    omega
  have htext : ((marker start v).drop start.length).take (dumps v).length = dumps v := by
    rw [hmarker, List.drop_left, List.take_left]
  have hsuffix : MARKER_SUFFIX.isSuffixOf (marker start v) = true :=
    List.isSuffixOf_iff_suffix.2 (List.suffix_append _ _)
  rw [parse_marker, bare_marker, hlen, htext, loads_dumps hv.1 hv.2]
  simp only [hobj, if_true]
  rw [if_pos ⟨by rw [hmarker]; exact isPrefixOf_append_right (List.prefix_refl _) _, hsuffix⟩]

theorem storable_block_metadata : Storable (block_metadata P) :=
  (storable_dict (by simp)).2 (by simp)

theorem storable_closing_metadata : Storable closing_metadata :=
  (storable_dict (by simp)).2 (by simp)

theorem replace_crlf_cons {c : Char} (h : c ≠ '\r') (s : List Char) :
    replace_crlf (c :: s) = c :: replace_crlf s := by
  cases s with
  | nil => rfl
  | cons d t => rw [replace_crlf, if_neg fun he => h he.1]

theorem replace_crlf_append {l : List Char} (h : '\r' ∉ l) (s : List Char) :
    replace_crlf (l ++ s) = l ++ replace_crlf s := by
  induction l with
  | nil => rfl
  | cons c l ih =>
    rw [List.mem_cons, not_or] at h
    rw [List.cons_append, replace_crlf_cons (Ne.symm h.1), ih h.2, List.cons_append]

theorem replace_crlf_newline (newline : Newline) (s : List Char) :
    replace_crlf (newline.text ++ s) = '\n' :: replace_crlf s := by
  cases newline with
  | lf => exact replace_crlf_cons (by decide) s
  | crlf =>
    show replace_crlf ('\r' :: '\n' :: s) = _
    rw [replace_crlf, if_pos ⟨rfl, rfl⟩]

/-- The payload of a block has one hash, whatever its line ends are. -/
theorem canonical_payload_lines (newline : Newline) :
    canonical_payload (payload_lines newline).flatten = COMPACT_PAYLOAD := by
  have hcrlf {ls : List (List Char)} (h : ∀ l ∈ ls, ∀ c ∈ l, isLineBreak c = false) :
      replace_crlf (ls.flatMap (· ++ newline.text)) = ls.flatMap (· ++ ['\n']) := by
    induction ls with
    | nil => rfl
    | cons l ls ih =>
      rw [List.flatMap_cons, List.append_assoc,
        replace_crlf_append (not_mem_of_unbroken (h l List.mem_cons_self) (by decide)),
        replace_crlf_newline, ih fun x hx => h x (List.mem_cons_of_mem _ hx), List.flatMap_cons,
        List.append_assoc]
      rfl
  rw [canonical_payload, payload_lines, ← List.flatMap_def, hcrlf compact_unbroken,
    ← compact_payload_eq]
  refine (List.map_congr_left fun c hc => ?_).trans (List.map_id _)
  refine if_neg ?_
  rintro rfl
  revert hc
  rw [compact_payload_eq, List.mem_flatMap]
  rintro ⟨l, hl, hc⟩
  obtain hc | hc := List.mem_append.1 hc
  · exact not_mem_of_unbroken (compact_unbroken l hl) (by decide) hc
  · exact absurd (List.mem_singleton.1 hc) (by decide)

theorem canonical_compact_payload : canonical_payload COMPACT_PAYLOAD = COMPACT_PAYLOAD := by
  have h := canonical_payload_lines .lf
  rwa [payload_lines, ← List.flatMap_def, show Newline.lf.text = ['\n'] from rfl,
    ← compact_payload_eq] at h

variable (P) in
/-- The block of this version at a line. -/
def rendered_block (newline : Newline) (begin_index : ℕ) : ManagedBlock where
  begin_index := begin_index
  end_index := begin_index + 1 + COMPACT_LINES.length
  metadata := block_metadata P
  payload := (payload_lines newline).flatten

/-- The lines of a rendered block are a valid block. -/
theorem block_between_lines (ls ls' : List (List Char)) (newline : Newline) :
    block_between P (ls ++ (block_lines P newline ++ ls')) ls.length
      (ls.length + 1 + COMPACT_LINES.length) = .ok (rendered_block P newline ls.length) := by
  have hopening : (ls ++ (block_lines P newline ++ ls')).getD ls.length [] =
      opening_marker P ++ newline.text := by
    rw [List.getD_append_right _ _ _ _ le_rfl, Nat.sub_self]
    rfl
  have hclosing : (ls ++ (block_lines P newline ++ ls')).getD
      (ls.length + 1 + COMPACT_LINES.length) [] = closing_marker ++ newline.text := by
    rw [List.getD_append_right _ _ _ _ (by omega),
      show ls.length + 1 + COMPACT_LINES.length - ls.length = COMPACT_LINES.length + 1 by omega,
      block_lines, List.cons_append, List.getD_cons_succ, List.append_assoc,
      List.getD_append_right _ _ _ _ (length_payload_lines newline).le,
      length_payload_lines, Nat.sub_self]
    rfl
  have hpayload : ((ls ++ (block_lines P newline ++ ls')).drop (ls.length + 1)).take
      (ls.length + 1 + COMPACT_LINES.length - (ls.length + 1)) = payload_lines newline := by
    rw [← List.drop_drop, List.drop_left, block_lines, List.cons_append, List.drop_succ_cons,
      List.drop_zero, List.append_assoc, Nat.add_sub_cancel_left, ← length_payload_lines newline,
      List.take_left]
  have hcontent : item (block_metadata P) "content_sha256" =
      .str (managed_payload_sha256 P COMPACT_PAYLOAD) := item_dict (by simp) (by simp)
  have hid : item (block_metadata P) "id" = .str BLOCK_ID := item_dict (by simp) (by simp)
  have hschema : item (block_metadata P) "schema" = .str CONTEXT_SCHEMA :=
    item_dict (by simp) (by simp)
  have hversion : item (block_metadata P) "version" = .str TEMPLATE_VERSION :=
    item_dict (by simp) (by simp)
  have hkeys : exact_keys (block_metadata P) ["content_sha256", "id", "schema", "version"] = true :=
    exact_keys_dict (by simp) fun _ => Iff.rfl
  have hhash : managed_payload_sha256 P (payload_lines newline).flatten =
      managed_payload_sha256 P COMPACT_PAYLOAD := by
    rw [managed_payload_sha256, managed_payload_sha256, canonical_payload_lines,
      canonical_compact_payload]
  have hmetadata := parse_marker_line BEGIN_PREFIX rfl (storable_block_metadata (P := P))
    newline
  have hlast := parse_marker_line END_PREFIX rfl storable_closing_metadata newline
  rw [block_between, hopening, hclosing, hpayload]
  refine bind_ok.2 ⟨_, hmetadata, bind_ok.2 ⟨_, hlast, bind_ok.2 ⟨(), ensure_ok.2 ?_, ?_⟩⟩⟩
  · rw [hkeys, hschema, hid, hversion]
    simp [is_str]
  · rw [hcontent]
    simp only [hhash]
    rw [if_neg (by rw [managed_payload_sha256, Sealed.is_identifier_digest_bytes]; decide),
      if_neg (not_not.2 rfl)]
    rfl

/-! ## Separators -/

/-- One more line end adds a blank line, or none. -/
theorem bare_split_keep (s : List Char) (newline : Newline) : ∃ k,
    (split_keep (s ++ newline.text)).map bare =
      (split_keep s).map bare ++ List.replicate k [] := by
  have hblank : bare newline.text = [] := bare_append (l := []) (ends_newline newline)
  have hnew : split_keep newline.text = [newline.text] :=
    split_keep_line (l := []) (by simp) (newline_cases newline)
  fun_induction split_keep s with
  | case1 =>
    refine ⟨1, ?_⟩
    rw [List.nil_append, hnew, List.map_singleton, hblank]
    rfl
  | case2 =>
    cases newline with
    | lf => exact ⟨0, by decide⟩
    | crlf => exact ⟨1, by decide⟩
  | case3 t ih =>
    obtain ⟨k, hk⟩ := ih
    refine ⟨k, ?_⟩
    rw [List.cons_append, List.cons_append, split_keep.eq_def]
    simp only [if_true]
    rw [List.map_cons, hk]
    rfl
  | case4 d t hd ih =>
    obtain ⟨k, hk⟩ := ih
    have hhead : (d :: t ++ newline.text).head? ≠ some '\n' := fun he => hd (Option.some.inj he)
    refine ⟨k, ?_⟩
    rw [List.cons_append, split_keep_break _ (by decide) fun _ => hhead, List.map_cons, hk]
    rfl
  | case5 c s hc hb ih =>
    obtain ⟨k, hk⟩ := ih
    refine ⟨k, ?_⟩
    rw [List.cons_append, split_keep_break _ hb fun he => absurd he hc, List.map_cons, hk]
    rfl
  | case6 c s hc hb ih =>
    rw [Bool.not_eq_true] at hb
    rw [List.cons_append, split_keep_cons _ hb]
    cases hs : split_keep s with
    | nil =>
      have hnil : s = [] := by
        by_contra hne
        exact split_keep_ne_nil hne hs
      refine ⟨0, ?_⟩
      rw [hnil, List.nil_append, hnew, consLine, consLine, List.map_singleton, List.map_singleton,
        bare_cons hb, hblank, bare_cons hb]
      rfl
    | cons l ls =>
      obtain ⟨k, hk⟩ := ih
      rw [hs] at hk
      cases hs' : split_keep (s ++ newline.text) with
      | nil => rw [hs'] at hk; cases hk
      | cons l' ls' =>
        rw [hs', List.map_cons, List.map_cons, List.cons_append] at hk
        obtain ⟨hl, hls⟩ := List.cons.inj hk
        refine ⟨k, ?_⟩
        rw [consLine, consLine, List.map_cons, List.map_cons, bare_cons hb, bare_cons hb, hl, hls]
        rfl

/-- So many line ends. -/
def newlines (newline : Newline) (k : ℕ) : List Char :=
  (List.replicate k []).flatMap (· ++ newline.text)

theorem newlines_succ (newline : Newline) (k : ℕ) :
    newlines newline (k + 1) = newline.text ++ newlines newline k := rfl

theorem separator_of_eq (current : List Char) (newline : Newline) :
    ∃ k, separator_of current newline = newlines newline k := by
  rw [separator_of]
  split_ifs
  · exact ⟨0, rfl⟩
  · exact ⟨1, by simp [newlines]⟩
  · exact ⟨1, by simp [newlines]⟩
  · exact ⟨2, by simp [newlines]⟩

/-- A document with its separator ends with a line end. -/
theorem getLast?_separated (current : List Char) (newline : Newline) :
    (current ++ separator_of current newline).getLast? = some '\n' := by
  have hend : newline.text.getLast? = some '\n' := by cases newline <;> rfl
  rw [separator_of]
  by_cases hsuffix : (newline.text ++ newline.text).isSuffixOf current = true
  · obtain ⟨t, ht⟩ := List.isSuffixOf_iff_suffix.1 hsuffix
    have hlast : current.getLast? = some '\n' := by
      rw [← ht, List.getLast?_append, List.getLast?_append, hend]
      rfl
    rw [if_pos hsuffix, if_pos (.inl hlast), List.append_nil, List.append_nil, hlast]
  · rw [if_neg hsuffix, ← List.append_assoc, List.getLast?_append, hend]
    rfl

/-- Line ends after a document are nothing to its scan. -/
theorem scan_newlines {s : List Char} {r : BlockScan} (h : scan none 0 (split_keep s) = .ok r)
    (newline : Newline) (k : ℕ) : scan none 0 (split_keep (s ++ newlines newline k)) = .ok r := by
  induction k generalizing s with
  | zero => rwa [newlines, List.replicate_zero, List.flatMap_nil, List.append_nil]
  | succ k ih =>
    rw [newlines_succ, ← List.append_assoc]
    refine ih ?_
    obtain ⟨j, hj⟩ := bare_split_keep s newline
    have hblanks : (List.replicate j ([] : List Char)).map bare = List.replicate j [] := by
      rw [List.map_replicate]
      rfl
    rw [← hblanks, ← List.map_append] at hj
    rw [scan_congr hj]
    have hplain : ∀ l ∈ List.replicate j ([] : List Char),
        fence_token (lstrip l) = none ∧ anchored l = false := by
      intro l hl
      rw [List.eq_of_mem_replicate hl]
      exact ⟨rfl, by decide⟩
    exact scan_append.2 ⟨r, _, h, scan_plain hplain _ _, by simp⟩

/-! ## Parts of a scan -/

/-- The scan of a document, cut at a line. -/
theorem scan_cut {ls : List (List Char)} {fence : Option Fence} {index : ℕ} {a : BlockScan}
    (h : scan fence index ls = .ok a) {i : ℕ} (hi : i < ls.length) : ∃ b mark c,
      scan fence index (ls.take i) = .ok b ∧
      mark_of (fence_after b.fence ls[i]) ls[i] = .ok mark ∧
      scan (fence_after b.fence ls[i]) (index + i + 1) (ls.drop (i + 1)) = .ok c ∧
      a = ⟨b.begins ++ (c.mark (index + i) mark).begins, b.ends ++ (c.mark (index + i) mark).ends,
        c.fence⟩ := by
  have hls : ls.take i ++ ls.drop i = ls := List.take_append_drop i ls
  rw [← hls] at h
  obtain ⟨b, d, hb, hd, rfl⟩ := scan_append.1 h
  rw [List.length_take, Nat.min_eq_left hi.le, List.drop_eq_getElem_cons hi, scan] at hd
  obtain ⟨mark, hm, hd⟩ := bind_ok.1 hd
  obtain ⟨c, hc, hd⟩ := bind_ok.1 hd
  rw [pure_ok] at hd
  refine ⟨b, mark, c, hb, hm, hc, ?_⟩
  rw [← hd]
  cases mark <;> rfl

/-- A marker stands outside of a fence, and leaves it so. -/
theorem fence_of_mark {fence : Option Fence} {line : List Char} {mark : Mark}
    (h : mark_of (fence_after fence line) line = .ok mark) (hm : mark ≠ .plain) :
    fence = none ∧ fence_after fence line = none := by
  have hanchored : anchored line = true := by
    by_contra ha
    rw [Bool.not_eq_true] at ha
    rw [mark_of_plain ha] at h
    exact hm (Except.ok.inj h).symm
  have htoken : fence_token (lstrip line) = none := by
    have hstart {anchor : List Char} (hs : anchor.head? = some '<')
        (hp : anchor.isPrefixOf (lstrip line) = true) : fence_token (lstrip line) = none := by
      obtain ⟨r, hr⟩ := List.isPrefixOf_iff_prefix.1 hp
      obtain ⟨t, ht⟩ := lt_of_start hs r
      rw [← hr, ht]
      exact fence_token_of_head (by decide) (by decide) t
    rw [anchored, Bool.or_eq_true] at hanchored
    obtain hp | hp := hanchored
    · exact hstart (by decide) hp
    · exact hstart (by decide) hp
  have hsame : fence_after fence line = fence := by
    unfold fence_after
    rw [htoken]
  rw [hsame, mark_of_anchored hanchored] at h
  rw [hsame, and_self]
  cases fence with
  | none => rfl
  | some f => cases h

/-- Lines without markers may start anywhere. -/
theorem scan_index {ls : List (List Char)} {fence : Option Fence} {index : ℕ} {f : Option Fence}
    (h : scan fence index ls = .ok ⟨[], [], f⟩) (j : ℕ) : scan fence j ls = .ok ⟨[], [], f⟩ := by
  induction ls generalizing fence index j with
  | nil => exact h
  | cons l ls ih =>
    rw [scan] at h ⊢
    obtain ⟨mark, hm, h⟩ := bind_ok.1 h
    obtain ⟨b, hb, h⟩ := bind_ok.1 h
    rw [pure_ok] at h
    cases mark with
    | plain =>
      obtain rfl : b = ⟨[], [], f⟩ := h
      rw [hm, ih hb (j + 1)]
      rfl
    | opening => cases congrArg BlockScan.begins h
    | closing => cases congrArg BlockScan.ends h

theorem begins_of_append {xs ys : List ℕ} {n : ℕ} (h : xs ++ ys = [n]) (hx : ∀ x ∈ xs, x < n) :
    xs = [] ∧ ys = [n] := by
  cases xs with
  | nil => exact ⟨rfl, h⟩
  | cons x xs =>
    have hxn := (List.cons.inj h).1
    exact absurd (hx x List.mem_cons_self) (by omega)

/-- Around a block there are no markers, and no fence is open before it. -/
theorem scan_around {ls : List (List Char)} {b e : ℕ} {f : Option Fence}
    (h : scan none 0 ls = .ok ⟨[b], [e], f⟩) (hlt : b < e) : e < ls.length ∧
      scan none 0 (ls.take b) = .ok ⟨[], [], none⟩ ∧
      ∀ index, scan none index (ls.drop (e + 1)) = .ok ⟨[], [], f⟩ := by
  have hbounds := scan_bounds h
  have he : e < ls.length := by
    have := (hbounds.2 e List.mem_cons_self).2
    omega
  refine ⟨he, ?_, ?_⟩
  · obtain ⟨x, mark, y, hx, hm, hy, heq⟩ := scan_cut h (hlt.trans he)
    have hxs := scan_bounds hx
    rw [List.length_take, Nat.min_eq_left (hlt.trans he).le] at hxs
    have hys := scan_bounds hy
    obtain ⟨hb1, hb2⟩ := begins_of_append (congrArg BlockScan.begins heq).symm fun i hi => by
      have := (hxs.1 i hi).2
      omega
    obtain ⟨he1, -⟩ := begins_of_append (congrArg BlockScan.ends heq).symm fun i hi => by
      have := (hxs.2 i hi).2
      omega
    -- the opening marker is the line itself
    have hmark : mark ≠ .plain := by
      rintro rfl
      have := (hys.1 b (by
        have hb3 : y.begins = [b] := hb2
        rw [hb3]
        exact List.mem_cons_self)).1
      omega
    obtain ⟨begins, ends, fence⟩ := x
    obtain rfl : begins = [] := hb1
    obtain rfl : ends = [] := he1
    obtain rfl : fence = none := (fence_of_mark hm hmark).1
    exact hx
  · obtain ⟨x, mark, y, hx, hm, hy, heq⟩ := scan_cut h he
    have hxs := scan_bounds hx
    rw [List.length_take, Nat.min_eq_left he.le] at hxs
    have hys := scan_bounds hy
    obtain ⟨-, he2⟩ := begins_of_append (congrArg BlockScan.ends heq).symm fun i hi => by
      have := (hxs.2 i hi).2
      omega
    have hbegins : x.begins ++ (y.mark (0 + e) mark).begins = [b] := (congrArg BlockScan.begins heq).symm
    have hafter : ∀ i ∈ y.begins, i ≠ b := fun i hi => by
      have := (hys.1 i hi).1
      omega
    have hmark : mark = .closing := by
      cases mark with
      | closing => rfl
      | plain =>
        have := (hys.2 e (by
          have he3 : y.ends = [e] := he2
          rw [he3]
          exact List.mem_cons_self)).1
        omega
      | opening =>
        have := (hys.2 e (by
          have he3 : y.ends = [e] := he2
          rw [he3]
          exact List.mem_cons_self)).1
        omega
    subst hmark
    rw [(fence_of_mark hm (by decide)).2] at hy
    have hyb : y.begins = [] := by
      rw [List.eq_nil_iff_forall_not_mem]
      intro i hi
      have hmem : i ∈ x.begins ++ (y.mark (0 + e) .closing).begins := List.mem_append_right _ hi
      rw [hbegins, List.mem_singleton] at hmem
      exact hafter i hi hmem
    have hye : y.ends = [] := (List.cons.inj he2).2
    have hyf : y.fence = f := (congrArg BlockScan.fence heq).symm
    obtain ⟨begins, ends, fence⟩ := y
    obtain rfl : begins = [] := hyb
    obtain rfl : ends = [] := hye
    obtain rfl : fence = f := hyf
    exact scan_index hy

/-- Lines without markers are never refused. -/
theorem scan_unanchored {ls : List (List Char)} (h : ∀ l ∈ ls, anchored l = false)
    {fence fence' : Option Fence} (hfence : ls.foldl fence_after fence = fence') (index : ℕ) :
    scan fence index ls = .ok ⟨[], [], fence'⟩ := by
  subst hfence
  induction ls generalizing fence index with
  | nil => rfl
  | cons l ls ih =>
    have hrest := @ih (fun x hx => h x (List.mem_cons_of_mem _ hx)) (fence_after fence l) (index + 1)
    rw [scan]
    exact bind_ok.2 ⟨_, mark_of_plain (h l List.mem_cons_self) _, bind_ok.2 ⟨_, hrest, rfl⟩⟩

/-! ## Frames -/

/-- The lines before a block and after it, with the fence that is open where it starts. -/
structure Frame (before after : List (List Char)) (fence : Option Fence) : Prop where
  split_before : ∀ r, r.head? ≠ some '\n' →
    split_keep (before.flatten ++ r) = before ++ split_keep r
  split_after : split_keep after.flatten = after
  scan_before : scan none 0 before = .ok ⟨[], [], fence⟩
  scan_after : ∃ f, ∀ index, scan none index after = .ok ⟨[], [], f⟩

variable (P) in
/-- A rendered block in its frame. -/
def framed (before after : List (List Char)) (newline : Newline) : List Char :=
  before.flatten ++ render_managed_block P newline ++ after.flatten

theorem render_head (newline : Newline) (r : List Char) :
    (render_managed_block P newline ++ r).head? ≠ some '\n' := by
  have hhead : (render_managed_block P newline ++ r).head? = some '<' := rfl
  rw [hhead]
  decide

namespace Frame

variable {before after : List (List Char)} {fence : Option Fence}

theorem split (h : Frame before after fence) (newline : Newline) :
    split_keep (framed P before after newline) = before ++ (block_lines P newline ++ after) := by
  rw [framed, List.append_assoc, h.split_before _ (render_head newline _), split_keep_render,
    h.split_after]

/-- Outside of a fence, the block is found. -/
theorem parse (h : Frame before after none) (newline : Newline) :
    parse_managed_block P (framed P before after newline) =
      .ok (some (rendered_block P newline before.length)) := by
  obtain ⟨f, hf⟩ := h.scan_after
  have hblock : scan none (0 + before.length) (block_lines P newline ++ after) =
      .ok ⟨[before.length], [before.length + 1 + COMPACT_LINES.length], f⟩ := by
    rw [Nat.zero_add]
    exact scan_append.2 ⟨_, _, scan_block newline _, hf _, rfl⟩
  have hscan : scan none 0 (before ++ (block_lines P newline ++ after)) =
      .ok ⟨[before.length], [before.length + 1 + COMPACT_LINES.length], f⟩ :=
    scan_append.2 ⟨_, _, h.scan_before, hblock, rfl⟩
  rw [parse_managed_block, h.split newline]
  refine bind_ok.2 ⟨_, hscan, ?_⟩
  simp only
  rw [if_pos (by omega), block_between_lines]
  rfl

/-- Inside of one, it is refused. -/
theorem parse_fenced {f : Fence} (h : Frame before after (some f)) (newline : Newline) :
    parse_managed_block P (framed P before after newline) =
      .error (.value "managed_block_inside_fence") := by
  have hblock : scan (some f) (0 + before.length) (block_lines P newline ++ after) =
      .error (.value "managed_block_inside_fence") :=
    scan_append_left_error (scan_block_fenced newline f _) after
  rw [parse_managed_block, h.split newline, scan_append_error h.scan_before hblock]
  rfl

theorem drop_block (before after : List (List Char)) (newline : Newline) :
    (before ++ (block_lines P newline ++ after)).drop
      (before.length + 1 + COMPACT_LINES.length + 1) = after := by
  have hlen : (block_lines P newline).length = COMPACT_LINES.length + 2 := by
    rw [block_lines, List.length_cons, List.length_append, length_payload_lines]
    rfl
  rw [show before.length + 1 + COMPACT_LINES.length + 1 =
      before.length + (block_lines P newline).length by omega, ← List.drop_drop, List.drop_left,
    List.drop_left]

theorem around_eq (before after : List (List Char)) (newline : Newline) (text : List Char) :
    around (before ++ (block_lines P newline ++ after)) (rendered_block P newline before.length)
      text = before.flatten ++ text ++ after.flatten := by
  rw [around, rendered_block]
  simp only
  rw [List.take_left, drop_block]

end Frame

theorem render_injective {newline newline' : Newline}
    (h : render_managed_block P newline = render_managed_block P newline') : newline = newline' := by
  have hmem : ∀ n : Newline, '\r' ∈ render_managed_block P n ↔ n = .crlf := by
    intro n
    have hopening : '\r' ∉ opening_marker P := not_mem_of_unbroken opening_unbroken (by decide)
    have hclosing : '\r' ∉ closing_marker := not_mem_of_unbroken closing_unbroken (by decide)
    cases n with
    | crlf =>
      refine iff_of_true ?_ rfl
      rw [render_managed_block]
      exact List.mem_append_right _ List.mem_cons_self
    | lf =>
      refine iff_of_false ?_ (by decide)
      rw [render_eq, block_lines, List.flatten_cons, List.flatten_append, List.flatten_singleton]
      simp only [List.mem_append, not_or]
      refine ⟨⟨hopening, by decide⟩, ?_, hclosing, by decide⟩
      rw [List.mem_flatten]
      rintro ⟨_, hmem, hr⟩
      obtain ⟨l, hl, rfl⟩ := List.mem_map.1 hmem
      obtain hr | hr := List.mem_append.1 hr
      · exact not_mem_of_unbroken (compact_unbroken l hl) (by decide) hr
      · exact absurd (List.mem_singleton.1 hr) (by decide)
  have hr := hmem newline
  rw [h, hmem newline'] at hr
  cases newline <;> cases newline' <;> simp_all

/-! ## Documents -/

/-- The fence that is open at the end of a document without a block. -/
def open_fence (document : List Char) : Option Fence :=
  match scan none 0 (split_keep document) with
  | .ok marks => marks.fence
  | .error _ => none

theorem block_between_index {ls : List (List Char)} {b e : ℕ} {block : ManagedBlock}
    (h : block_between P ls b e = .ok block) : block.begin_index = b ∧ block.end_index = e := by
  rw [block_between] at h
  obtain ⟨metadata, -, h⟩ := bind_ok.1 h
  obtain ⟨closing, -, h⟩ := bind_ok.1 h
  obtain ⟨-, -, h⟩ := bind_ok.1 h
  split at h
  · simp only at h
    split_ifs at h
    cases h
    exact ⟨rfl, rfl⟩
  · cases h

/-- A document without markers, or with one block. -/
theorem parse_managed_block_ok {document : List Char} {block : Option ManagedBlock}
    (h : parse_managed_block P document = .ok block) :
    match block with
    | none => ∃ f, scan none 0 (split_keep document) = .ok ⟨[], [], f⟩
    | some b => b.begin_index < b.end_index ∧
      ∃ f, scan none 0 (split_keep document) = .ok ⟨[b.begin_index], [b.end_index], f⟩ := by
  rw [parse_managed_block] at h
  obtain ⟨⟨begins, ends, f⟩, hscan, h⟩ := bind_ok.1 h
  rcases begins with _ | ⟨b, _ | ⟨b', begins⟩⟩
  · rcases ends with _ | ⟨e, ends⟩
    · cases h
      exact ⟨f, hscan⟩
    · cases h
  · rcases ends with _ | ⟨e, _ | ⟨e', ends⟩⟩
    · cases h
    · simp only at h
      split_ifs at h with hlt
      obtain ⟨block', hb, h⟩ := bind_ok.1 h
      cases h
      obtain ⟨rfl, rfl⟩ := block_between_index hb
      exact ⟨hlt, f, hscan⟩
    · cases h
  · rcases ends with _ | ⟨e, ends⟩ <;> cases h

theorem parse_of_scan {document : List Char} {f : Option Fence}
    (h : scan none 0 (split_keep document) = .ok ⟨[], [], f⟩) :
    parse_managed_block P document = .ok none := by
  rw [parse_managed_block]
  exact bind_ok.2 ⟨_, h, rfl⟩

/-- Installing into a document without markers appends the block. -/
theorem transform_append {document : List Char} {f : Option Fence}
    (h : scan none 0 (split_keep document) = .ok ⟨[], [], f⟩)
    (hlegacy : legacy_context document = false) (hne : document ≠ []) :
    transform_document P (some document) "install" =
      .ok (some (document ++ separator_of document (newline_for document) ++
        render_managed_block P (newline_for document)), "append") := by
  rw [transform_document, if_neg (by decide)]
  refine bind_ok.2 ⟨_, parse_of_scan h, ?_⟩
  simp only [Option.getD_some, if_true]
  rw [hlegacy, if_neg (by decide), if_neg hne]

/-- A block after a document without one. -/
theorem frame_append {document : List Char} {f : Option Fence}
    (h : scan none 0 (split_keep document) = .ok ⟨[], [], f⟩) (newline : Newline) :
    Frame (split_keep (document ++ separator_of document newline)) [] f := by
  refine ⟨fun r hr => ?_, rfl, ?_, none, fun _ => rfl⟩
  · rw [flatten_split_keep]
    exact split_keep_append (.inr ⟨'\n', getLast?_separated document newline, by decide⟩) fun _ => hr
  · obtain ⟨k, hk⟩ := separator_of_eq document newline
    rw [hk]
    exact scan_newlines h newline k

theorem frame_empty : Frame [] [] none :=
  ⟨fun _ _ => rfl, rfl, rfl, none, fun _ => rfl⟩

/-- A block in the place of another one. -/
theorem frame_replace {document : List Char} {b : ManagedBlock} {f : Option Fence}
    (hlt : b.begin_index < b.end_index)
    (h : scan none 0 (split_keep document) = .ok ⟨[b.begin_index], [b.end_index], f⟩) :
    Frame ((split_keep document).take b.begin_index) ((split_keep document).drop (b.end_index + 1))
      none := by
  obtain ⟨he, hbefore, hafter⟩ := scan_around h hlt
  exact ⟨fun r hr => split_keep_take_append (hlt.trans he) hr, split_keep_drop document _, hbefore,
    f, hafter⟩

/-! ## Line ends of the result -/

theorem count_crlf_of_not_mem {s : List Char} (h : '\n' ∉ s ∨ '\r' ∉ s) : count_crlf s = 0 := by
  fun_induction count_crlf s with
  | case1 => rfl
  | case2 => rfl
  | case3 c d t hcd ih =>
    obtain ⟨rfl, rfl⟩ := hcd
    simp at h
  | case4 c d t hcd ih =>
    exact ih (h.imp (fun h hm => h (List.mem_cons_of_mem _ hm))
      fun h hm => h (List.mem_cons_of_mem _ hm))

theorem count_crlf_cons {c : Char} {s : List Char} (h : c = '\r' → s.head? ≠ some '\n') :
    count_crlf (c :: s) = count_crlf s := by
  cases s with
  | nil => rfl
  | cons d t =>
    rw [count_crlf, if_neg]
    rintro ⟨hc, rfl⟩
    exact h hc rfl

theorem count_crlf_pair (t : List Char) : count_crlf ('\r' :: '\n' :: t) = count_crlf t + 1 := by
  rw [count_crlf, if_pos ⟨rfl, rfl⟩]

theorem append_head {c d : Char} (h : ¬(c = '\r' ∧ d = '\n')) {s t : List Char} (hc : c = '\r') :
    (d :: s ++ t).head? ≠ some '\n' := by
  rw [List.cons_append, List.head?_cons]
  exact fun he => h ⟨hc, Option.some.inj he⟩

/-- A text without line feeds adds no pair, one without carriage returns at most one. -/
theorem count_crlf_append_plain (s : List Char) {t : List Char} (h : '\n' ∉ t) :
    count_crlf (s ++ t) = count_crlf s := by
  fun_induction count_crlf s with
  | case1 => exact count_crlf_of_not_mem (.inl h)
  | case2 c =>
    rw [List.singleton_append, count_crlf_cons fun _ he => h ?_, count_crlf_of_not_mem (.inl h)]
    obtain ⟨t', rfl⟩ := List.head?_eq_some_iff.1 he
    exact List.mem_cons_self
  | case3 c d t' hcd ih =>
    obtain ⟨rfl, rfl⟩ := hcd
    rw [List.cons_append, List.cons_append, count_crlf_pair, ih]
  | case4 c d t' hcd ih =>
    rw [List.cons_append, count_crlf_cons (append_head hcd), ih]

theorem count_crlf_append_le (s : List Char) {t : List Char} (h : '\r' ∉ t) :
    count_crlf (s ++ t) ≤ count_crlf s + 1 := by
  fun_induction count_crlf s with
  | case1 =>
    rw [List.nil_append, count_crlf_of_not_mem (.inr h)]
    exact Nat.zero_le _
  | case2 c =>
    rw [List.singleton_append]
    cases t with
    | nil => exact Nat.zero_le _
    | cons d t =>
      have ht : count_crlf t = 0 :=
        count_crlf_of_not_mem (.inr fun hm => h (List.mem_cons_of_mem _ hm))
      have hdt : count_crlf (d :: t) = 0 := count_crlf_of_not_mem (.inr h)
      rw [count_crlf]
      split_ifs
      · omega
      · omega
  | case3 c d t' hcd ih =>
    obtain ⟨rfl, rfl⟩ := hcd
    rw [List.cons_append, List.cons_append, count_crlf_pair]
    omega
  | case4 c d t' hcd ih =>
    rw [List.cons_append, count_crlf_cons (append_head hcd)]
    exact ih

theorem count_crlf_insert (s t : List Char) :
    count_crlf (s ++ '\r' :: '\n' :: t) = count_crlf s + (count_crlf t + 1) := by
  fun_induction count_crlf s with
  | case1 => rw [List.nil_append, count_crlf_pair, Nat.zero_add]
  | case2 c =>
    have hhead : ('\r' :: '\n' :: t).head? ≠ some '\n' := by simp
    rw [List.singleton_append, count_crlf_cons fun _ => hhead, count_crlf_pair, Nat.zero_add]
  | case3 c d t' hcd ih =>
    obtain ⟨rfl, rfl⟩ := hcd
    rw [List.cons_append, List.cons_append, count_crlf_pair, ih]
    omega
  | case4 c d t' hcd ih =>
    rw [List.cons_append, count_crlf_cons (append_head hcd), ih]

section Lines

variable {ls : List (List Char)} (h : ∀ l ∈ ls, ∀ c ∈ l, isLineBreak c = false)
include h

theorem count_crlf_lines (s : List Char) :
    count_crlf (s ++ ls.flatMap (· ++ ['\r', '\n'])) = count_crlf s + ls.length := by
  induction ls generalizing s with
  | nil => rw [List.flatMap_nil, List.append_nil]; rfl
  | cons l ls ih =>
    have hl : '\n' ∉ l := not_mem_of_unbroken (h l List.mem_cons_self) (by decide)
    have hrest := ih (fun x hx => h x (List.mem_cons_of_mem _ hx)) []
    rw [List.nil_append, show count_crlf [] = 0 from rfl] at hrest
    rw [List.flatMap_cons, List.append_assoc, ← List.append_assoc s]
    show count_crlf (s ++ l ++ '\r' :: '\n' :: ls.flatMap (· ++ ['\r', '\n'])) = _
    rw [count_crlf_insert, count_crlf_append_plain s hl, hrest, List.length_cons]
    omega

theorem count_lines (newline : Newline) :
    (ls.flatMap (· ++ newline.text)).count '\n' = ls.length := by
  induction ls with
  | nil => rfl
  | cons l ls ih =>
    have hl : l.count '\n' = 0 :=
      List.count_eq_zero.2 (not_mem_of_unbroken (h l List.mem_cons_self) (by decide))
    have hn : newline.text.count '\n' = 1 := by cases newline <;> decide
    rw [List.flatMap_cons, List.count_append, List.count_append, hl, hn,
      ih fun x hx => h x (List.mem_cons_of_mem _ hx), List.length_cons]
    omega

/-- A document with more lines of its own kind stays of its kind. -/
theorem newline_for_lines {document : List Char} (hlen : 2 ≤ ls.length) :
    newline_for (document ++ ls.flatMap (· ++ (newline_for document).text)) =
      newline_for document := by
  have hcount := count_lines h (newline_for document)
  cases hn : newline_for document with
  | crlf =>
    rw [hn] at hcount
    have hlt : document.count '\n' - count_crlf document < count_crlf document := by
      by_contra hle
      rw [newline_for, if_neg hle] at hn
      cases hn
    have hpairs := count_crlf_lines h document
    rw [newline_for]
    refine if_pos ?_
    rw [List.count_append, hcount]
    show _ - count_crlf (document ++ ls.flatMap (· ++ ['\r', '\n'])) <
      count_crlf (document ++ ls.flatMap (· ++ ['\r', '\n']))
    rw [hpairs]
    omega
  | lf =>
    rw [hn] at hcount
    have hle : ¬document.count '\n' - count_crlf document < count_crlf document := by
      intro hlt
      rw [newline_for, if_pos hlt] at hn
      cases hn
    have hplain : '\r' ∉ ls.flatMap (· ++ Newline.lf.text) := by
      rw [List.mem_flatMap]
      rintro ⟨l, hl, hr⟩
      obtain hr | hr := List.mem_append.1 hr
      · exact not_mem_of_unbroken (h l hl) (by decide) hr
      · exact absurd (List.mem_singleton.1 hr) (by decide)
    have hpairs := count_crlf_append_le document hplain
    rw [newline_for]
    refine if_neg ?_
    rw [List.count_append, hcount]
    omega

end Lines

variable (P) in
/-- The lines of a block, without their ends. -/
def block_texts : List (List Char) :=
  opening_marker P :: (COMPACT_LINES.map String.toList ++ [closing_marker])

theorem render_eq_texts (newline : Newline) :
    render_managed_block P newline = (block_texts P).flatMap (· ++ newline.text) := by
  rw [render_eq, block_lines, block_texts, List.flatten_cons, List.flatten_append,
    List.flatten_singleton, List.flatMap_cons, List.flatMap_append, payload_lines,
    ← List.flatMap_def, List.flatMap_singleton]

/-- An appended block keeps the kind of a document. -/
theorem newline_for_append {document : List Char} {k : ℕ} :
    newline_for (document ++ newlines (newline_for document) k ++
      render_managed_block P (newline_for document)) = newline_for document := by
  rw [render_eq_texts, newlines, List.append_assoc, ← List.flatMap_append]
  refine newline_for_lines (fun l hl => ?_) ?_
  · obtain hl | hl := List.mem_append.1 hl
    · rw [List.eq_of_mem_replicate hl]
      exact fun c hc => absurd hc List.not_mem_nil
    · obtain rfl | hl := List.mem_cons.1 hl
      · exact opening_unbroken
      · obtain hl | hl := List.mem_append.1 hl
        · exact compact_unbroken l hl
        · rw [List.mem_singleton.1 hl]
          exact closing_unbroken
  · rw [List.length_append, block_texts, List.length_cons, List.length_append]
    simp only [List.length_cons]
    omega

/-! ## Installing and uninstalling -/

variable (P) in
/-- The text before the block of a document, and the text after it. -/
def outside (document : List Char) : List Char × List Char :=
  match parse_managed_block P document with
  | .ok (some block) => (((split_keep document).take block.begin_index).flatten,
      ((split_keep document).drop (block.end_index + 1)).flatten)
  | _ => (document, [])

/-- What an uninstallation leaves of the text outside of the block. -/
def left_over (rest : List Char) : Option (List Char) × String :=
  if rest.all is_space then (none, "delete") else (some rest, "remove_block")

theorem outside_of_none {document : List Char} (h : parse_managed_block P document = .ok none) :
    outside P document = (document, []) := by
  rw [outside, h]

theorem outside_of_block {document : List Char} {block : ManagedBlock}
    (h : parse_managed_block P document = .ok (some block)) :
    outside P document = (((split_keep document).take block.begin_index).flatten,
      ((split_keep document).drop (block.end_index + 1)).flatten) := by
  rw [outside, h]

/-- A document is its outside, with the lines of its block in between. -/
theorem outside_append (document : List Char) : ∃ old,
    document = (outside P document).1 ++ old ++ (outside P document).2 ∧
      (parse_managed_block P document = .ok none → old = []) := by
  rw [outside]
  split
  · rename_i block hb
    obtain ⟨hlt, -⟩ := parse_managed_block_ok hb
    refine ⟨(((split_keep document).drop block.begin_index).take
      (block.end_index + 1 - block.begin_index)).flatten, ?_, fun h => ?_⟩
    · have hdrop : (split_keep document).drop (block.end_index + 1) =
          ((split_keep document).drop block.begin_index).drop
            (block.end_index + 1 - block.begin_index) := by
        rw [List.drop_drop, show block.begin_index + (block.end_index + 1 - block.begin_index) =
          block.end_index + 1 by omega]
      rw [hdrop, List.append_assoc, ← List.flatten_append, List.take_append_drop,
        ← List.flatten_append, List.take_append_drop, flatten_split_keep]
    · rw [hb] at h
      cases h
  · exact ⟨[], by simp, fun _ => rfl⟩

section Framed

variable {before after : List (List Char)} (h : Frame before after none) (newline : Newline)
include h

theorem outside_framed :
    outside P (framed P before after newline) = (before.flatten, after.flatten) := by
  rw [outside_of_block (h.parse newline), h.split newline, rendered_block]
  simp only
  rw [List.take_left, Frame.drop_block]

/-- Installing over a block of this version changes its line ends at most. -/
theorem install_framed : transform_document P (some (framed P before after newline)) "install" =
    .ok (some (framed P before after (newline_for (framed P before after newline))),
      if newline_for (framed P before after newline) = newline then "noop" else "replace") := by
  rw [transform_document, if_neg (by decide)]
  refine bind_ok.2 ⟨_, h.parse newline, ?_⟩
  simp only [Option.getD_some]
  rw [if_neg (by decide), h.split newline, Frame.around_eq]
  generalize newline_for (framed P before after newline) = newline'
  split_ifs with heq hn hn
  · rw [hn]
  · exact absurd (render_injective (List.append_cancel_left (List.append_cancel_right heq))) hn
  · exact absurd (by rw [hn, framed]) heq
  · rfl

/-- Uninstalling leaves what is outside. -/
theorem uninstall_framed :
    transform_document P (some (framed P before after newline)) "uninstall" =
      .ok (left_over (before.flatten ++ after.flatten)) := by
  rw [transform_document, if_neg (by decide)]
  refine bind_ok.2 ⟨_, h.parse newline, ?_⟩
  simp only [Option.getD_some, if_true]
  rw [h.split newline, Frame.around_eq, List.append_nil, left_over]
  split_ifs <;> rfl

end Framed

variable (P) in
/-- What an installation makes of a document: the block between the text that was outside of its
earlier one, after some line ends when there was none. -/
structure Installed (document result separator : List Char) : Prop where
  result_eq : result = (outside P document).1 ++ separator ++
    render_managed_block P (newline_for document) ++ (outside P document).2
  separator_ends : Ends separator
  separator_nil : parse_managed_block P document ≠ .ok none → separator = []
  /-- The block is found, with the content of this version. -/
  parsed : ∃ block, parse_managed_block P result = .ok (some block) ∧
    block.metadata = block_metadata P ∧ canonical_payload block.payload = COMPACT_PAYLOAD
  outside_eq : outside P result = ((outside P document).1 ++ separator, (outside P document).2)
  /-- Installing again leaves the result, unless its line ends call for other ones. -/
  again : transform_document P (some result) "install" = .ok (some result, "noop") ↔
    newline_for result = newline_for document
  again_new : parse_managed_block P document = .ok none → newline_for result = newline_for document
  uninstalled : transform_document P (some result) "uninstall" =
    .ok (left_over ((outside P document).1 ++ separator ++ (outside P document).2))

variable (P) in
/-- Where the block of an installation goes: the lines before it, with the separator, and those
after it. -/
structure Placed (document : List Char) (before after : List (List Char))
    (separator : List Char) : Prop where
  frame : Frame before after none
  before_eq : before.flatten = (outside P document).1 ++ separator
  after_eq : after.flatten = (outside P document).2
  separator_ends : Ends separator
  separator_nil : parse_managed_block P document ≠ .ok none → separator = []
  newline_new : parse_managed_block P document = .ok none →
    newline_for (framed P before after (newline_for document)) = newline_for document

theorem Placed.installed {document separator : List Char} {before after : List (List Char)}
    (h : Placed P document before after separator) :
    Installed P document (framed P before after (newline_for document)) separator where
  result_eq := by rw [framed, h.before_eq, h.after_eq]
  separator_ends := h.separator_ends
  separator_nil := h.separator_nil
  parsed := by
    refine ⟨_, h.frame.parse _, rfl, ?_⟩
    exact canonical_payload_lines _
  outside_eq := by rw [outside_framed h.frame, h.before_eq, h.after_eq]
  again := by
    rw [install_framed h.frame]
    refine ⟨fun he => ?_, fun he => ?_⟩
    · by_contra hne
      rw [if_neg hne] at he
      simp at he
    · rw [if_pos he, he]
  again_new := h.newline_new
  uninstalled := by rw [uninstall_framed h.frame, h.before_eq, h.after_eq]

theorem ends_newlines (newline : Newline) (k : ℕ) : Ends (newlines newline k) := by
  intro c hc
  obtain ⟨l, hl, hc⟩ := List.mem_flatMap.1 hc
  rw [List.eq_of_mem_replicate hl, List.nil_append] at hc
  exact ends_newline newline c hc

/-- A document without a block gets one after it. -/
theorem placed_append {document : List Char} (hnone : parse_managed_block P document = .ok none)
    (hfence : open_fence document = none) :
    Placed P document (split_keep (document ++ separator_of document (newline_for document))) []
      (separator_of document (newline_for document)) := by
  obtain ⟨f, hf⟩ := parse_managed_block_ok hnone
  rw [open_fence, hf] at hfence
  obtain rfl : f = none := hfence
  obtain ⟨k, hk⟩ := separator_of_eq document (newline_for document)
  refine ⟨frame_append hf _, ?_, ?_, hk ▸ ends_newlines _ k, fun hne => absurd hnone hne,
    fun _ => ?_⟩
  · rw [flatten_split_keep, outside_of_none hnone]
  · rw [outside_of_none hnone, List.flatten_nil]
  · rw [framed, flatten_split_keep, List.flatten_nil, List.append_nil, hk, newline_for_append]

/-- An empty document becomes the block. -/
theorem placed_create : Placed P [] [] [] [] := by
  have hnone : parse_managed_block P [] = .ok none := rfl
  have hframed : framed P [] [] (newline_for []) =
      [] ++ newlines (newline_for []) 0 ++ render_managed_block P (newline_for []) := by
    rw [framed, List.flatten_nil, List.append_nil]
    rfl
  refine ⟨frame_empty, ?_, ?_, fun c hc => absurd hc List.not_mem_nil, fun _ => rfl, fun _ => ?_⟩
  · rw [outside_of_none hnone]
    rfl
  · rw [outside_of_none hnone]
    rfl
  · rw [hframed]
    exact newline_for_append

/-- A document with a block gets this one in its place. -/
theorem placed_replace {document : List Char} {block : ManagedBlock}
    (hb : parse_managed_block P document = .ok (some block)) :
    Placed P document ((split_keep document).take block.begin_index)
      ((split_keep document).drop (block.end_index + 1)) [] := by
  obtain ⟨hlt, f, hf⟩ := parse_managed_block_ok hb
  have houtside := outside_of_block hb
  refine ⟨frame_replace hlt hf, ?_, ?_, fun c hc => absurd hc List.not_mem_nil, fun _ => rfl,
    fun hnone => ?_⟩
  · rw [houtside, List.append_nil]
  · rw [houtside]
  · rw [hb] at hnone
    cases hnone

/-- An installation puts the block somewhere into the document. -/
theorem install_placed {document result : Option (List Char)} {action : String}
    (h : transform_document P document "install" = .ok (result, action))
    (hfence : parse_managed_block P (document.getD []) = .ok none →
      open_fence (document.getD []) = none) :
    ∃ before after separator, Placed P (document.getD []) before after separator ∧
      result = some (framed P before after (newline_for (document.getD []))) := by
  rw [transform_document, if_neg (by decide)] at h
  obtain ⟨block, hb, h⟩ := bind_ok.1 h
  generalize document.getD [] = current at hb h hfence ⊢
  cases block with
  | none =>
    simp only [if_true] at h
    split_ifs at h with hlegacy hnil
    · obtain rfl := hnil
      cases h
      refine ⟨_, _, _, placed_create, ?_⟩
      rw [framed, List.flatten_nil, List.append_nil, List.nil_append]
    · cases h
      refine ⟨_, _, _, placed_append hb (hfence hb), ?_⟩
      rw [framed, flatten_split_keep, List.flatten_nil, List.append_nil]
  | some block =>
    simp only at h
    rw [if_neg (by decide)] at h
    split_ifs at h with heq
    · cases h
      exact ⟨_, _, _, placed_replace hb, congrArg some heq.symm⟩
    · cases h
      exact ⟨_, _, _, placed_replace hb, rfl⟩

/-- Installing into a document that leaves no fence open puts one valid block into it, keeps what
is outside, and can be repeated and undone. -/
theorem install_laws {document : Option (List Char)} {result : Option (List Char)} {action : String}
    (h : transform_document P document "install" = .ok (result, action))
    (hfence : parse_managed_block P (document.getD []) = .ok none →
      open_fence (document.getD []) = none) :
    ∃ text separator, result = some text ∧ Installed P (document.getD []) text separator := by
  obtain ⟨before, after, separator, hplaced, rfl⟩ := install_placed h hfence
  exact ⟨_, separator, rfl, hplaced.installed⟩

/-- A document of one line. -/
def ONE_LINE : List Char := ['#', '\n']

theorem install_laws_one_line : ∃ text separator,
    transform_document Sealed.plain (some ONE_LINE) "install" = .ok (some text, "append") ∧
      Installed Sealed.plain ONE_LINE text separator := by
  have hscan : scan none 0 (split_keep ONE_LINE) = .ok ⟨[], [], none⟩ :=
    scan_unanchored (by decide) (by decide) 0
  have hinstall := transform_append (P := Sealed.plain) hscan (by decide +kernel) (by decide)
  obtain ⟨text, separator, htext, hdone⟩ := install_laws hinstall fun _ => by
    show open_fence ONE_LINE = none
    rw [open_fence, hscan]
  obtain rfl := Option.some.inj htext
  exact ⟨_, separator, hinstall, hdone⟩

/-! ## Open fences -/

/-- After an open fence the block is appended all the same, and not found again. -/
theorem install_fenced {document : List Char} {f : Fence}
    (hnone : parse_managed_block P document = .ok none) (hfence : open_fence document = some f) :
    parse_managed_block P (document ++ separator_of document (newline_for document) ++
      render_managed_block P (newline_for document)) =
        .error (.value "managed_block_inside_fence") := by
  obtain ⟨f', hf⟩ := parse_managed_block_ok hnone
  rw [open_fence, hf] at hfence
  obtain rfl : f' = some f := hfence
  have hparse := (frame_append hf (newline_for document)).parse_fenced (P := P)
    (newline_for document)
  rwa [framed, flatten_split_keep, List.flatten_nil, List.append_nil] at hparse

/-- A document that opens a fence. -/
def OPEN_FENCE : List Char := [BACKTICK, BACKTICK, BACKTICK, '\n']

theorem install_open_fence : ∃ text,
    transform_document Sealed.plain (some OPEN_FENCE) "install" = .ok (some text, "append") ∧
      parse_managed_block Sealed.plain text = .error (.value "managed_block_inside_fence") := by
  have hscan : scan none 0 (split_keep OPEN_FENCE) = .ok ⟨[], [], some (BACKTICK, 3)⟩ :=
    scan_unanchored (by decide) (by decide) 0
  exact ⟨_, transform_append hscan (by decide +kernel) (by decide),
    install_fenced (parse_of_scan hscan) (by rw [open_fence, hscan])⟩

end AnKla.Context
