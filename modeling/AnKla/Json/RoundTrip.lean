import AnKla.Json.Parse
import Mathlib.Data.List.TakeWhile
import Mathlib.Tactic.IntervalCases

/-!
# Reading back what was written

`loads (dumps v) = some v` for every well-formed value whose integers are within
the reader's limit. Each reader is followed along the text its writer produced,
whatever comes after it.
-/

namespace PyJson

/-! ## Characters and strings -/

theorem skipWs_of_not_isWs {c : Char} (s : List Char) (h : isWs c = false) :
    skipWs (c :: s) = c :: s := by
  rw [skipWs, List.dropWhile_cons_of_neg (by simp [h])]

/-- A character written as itself is read as itself. -/
theorem parseString_plain {c : Char} (s : List Char) (hq : c ≠ '"') (hb : c ≠ '\\')
    (hc : ¬c.toNat < 0x20) : parseString (c :: s) = (parseString s).map (consChar c) := by
  rw [parseString.eq_def]
  simp only [if_neg hq, if_neg hb, if_neg hc]

theorem parseString_simpleEscape {e c : Char} (s : List Char) (h : simpleEscape e = some c) :
    parseString ('\\' :: e :: s) = (parseString s).map (consChar c) := by
  rw [parseString.eq_def]
  simp only [if_neg (by decide : '\\' ≠ '"'), if_pos, h]

theorem hex4_control {n : ℕ} (h : n < 0x20) :
    hex4 '0' '0' (n / 16).digitChar (n % 16).digitChar = some n := by
  interval_cases n <;> decide

theorem parseString_unicodeEscape {n : ℕ} (s : List Char) (h : n < 0x20) :
    parseString (['\\', 'u', '0', '0', (n / 16).digitChar, (n % 16).digitChar] ++ s)
      = (parseString s).map (consChar (Char.ofNat n)) := by
  rw [parseString.eq_def]
  simp only [List.cons_append, List.nil_append, if_neg (by decide : '\\' ≠ '"'), if_pos,
    (by decide : simpleEscape 'u' = none), hex4_control h]
  rw [if_neg (by omega), if_neg (by omega)]

/-- Reading one written character yields it. -/
theorem parseString_escapeChar (c : Char) (s : List Char) :
    parseString (escapeChar c ++ s) = (parseString s).map (consChar c) := by
  have ofToNat {n : ℕ} (hn : c.toNat = n) : c = Char.ofNat n := by
    rw [← hn, Char.ofNat_toNat]
  unfold escapeChar
  split_ifs with hq hb hn hr ht hf h8 hc
  · exact parseString_simpleEscape s (by rw [hq]; decide)
  · exact parseString_simpleEscape s (by rw [hb]; decide)
  · exact parseString_simpleEscape s (by rw [hn]; decide)
  · exact parseString_simpleEscape s (by rw [hr]; decide)
  · exact parseString_simpleEscape s (by rw [ht]; decide)
  · exact parseString_simpleEscape s (by rw [ofToNat hf]; decide)
  · exact parseString_simpleEscape s (by rw [ofToNat h8]; decide)
  · rw [parseString_unicodeEscape s hc, Char.ofNat_toNat]
  · exact parseString_plain s hq hb hc

theorem parseString_dumpStr (cs r : List Char) :
    parseString (cs.flatMap escapeChar ++ '"' :: r) = some (cs, r) := by
  induction cs with
  | nil => rw [List.flatMap_nil, List.nil_append, parseString.eq_def]; rfl
  | cons c cs ih =>
    rw [List.flatMap_cons, List.append_assoc, parseString_escapeChar, ih]
    rfl

/-! ## Numbers -/

/-- A text that does not continue a number. -/
def NumEnd : List Char → Prop
  | [] => True
  | c :: _ => c.isDigit = false ∧ c ≠ '.' ∧ c ≠ 'e' ∧ c ≠ 'E'

theorem NumEnd.head {c : Char} (s : List Char) (h : c = ',' ∨ c = ']' ∨ c = '}') :
    NumEnd (c :: s) := by
  obtain rfl | rfl | rfl := h <;> exact ⟨by decide, by decide, by decide, by decide⟩

/-- The digits at the start of a text end where the text does, before anything
    that does not continue a number. -/
theorem lexDigits_append {s : List Char} (r : List Char) (hr : NumEnd r) :
    lexDigits (s ++ r) = ((lexDigits s).1, (lexDigits s).2 ++ r) := by
  induction s with
  | nil =>
    cases r with
    | nil => rfl
    | cons c r =>
      simp [lexDigits, hr.1]
  | cons c s ih =>
    by_cases hc : c.isDigit = true
    · simp only [lexDigits, Prod.mk.injEq] at ih
      simp [lexDigits, hc, ih]
    · simp [lexDigits, hc]

theorem lexNat_append {s i t r : List Char} (hr : NumEnd r) (h : lexNat s = some (i, t)) :
    lexNat (s ++ r) = some (i, t ++ r) := by
  cases s with
  | nil => cases h
  | cons c s =>
    rw [lexNat] at h
    rw [List.cons_append, lexNat]
    split_ifs at h ⊢ with h0 hd
    · cases h; rfl
    · have hl := lexDigits_append (s := c :: s) r hr
      rw [List.cons_append] at hl
      rw [hl]
      cases h; rfl

theorem lexInt_append {s i t r : List Char} (hr : NumEnd r) (h : lexInt s = some (i, t)) :
    lexInt (s ++ r) = some (i, t ++ r) := by
  cases s with
  | nil => cases h
  | cons c s =>
    rw [lexInt] at h
    rw [List.cons_append, lexInt]
    split_ifs at h ⊢ with hs
    · obtain ⟨⟨ds, u⟩, hds, h⟩ := Option.map_eq_some_iff.1 h
      rw [lexNat_append hr hds]
      cases h; rfl
    · exact lexNat_append hr h

theorem lexFrac_append {s : List Char} (r : List Char) (hr : NumEnd r) :
    lexFrac (s ++ r) = ((lexFrac s).1, (lexFrac s).2 ++ r) := by
  cases s with
  | nil =>
    cases r with
    | nil => rfl
    | cons c r => simp [lexFrac, hr.2.1]
  | cons c s =>
    rw [List.cons_append, lexFrac, lexFrac, lexDigits_append r hr]
    split_ifs <;> rfl

theorem lexSign_append {s : List Char} (r : List Char) (hs : s ≠ []) :
    lexSign (s ++ r) = ((lexSign s).1, (lexSign s).2 ++ r) := by
  cases s with
  | nil => exact absurd rfl hs
  | cons c s =>
    rw [List.cons_append, lexSign, lexSign]
    split_ifs <;> rfl

theorem lexExp_append {s : List Char} (r : List Char) (hr : NumEnd r)
    (hs : (lexExp s).1 ≠ [] ∨ s = []) :
    lexExp (s ++ r) = ((lexExp s).1, (lexExp s).2 ++ r) := by
  cases s with
  | nil =>
    cases r with
    | nil => rfl
    | cons c r => simp [lexExp, hr.2.2.1, hr.2.2.2]
  | cons c s =>
    obtain hs | hs := hs
    swap
    · cases hs
    rw [lexExp] at hs
    rw [List.cons_append, lexExp, lexExp]
    cases s with
    | nil => simp [lexSign, lexDigits] at hs
    | cons d s =>
      rw [lexSign_append r (List.cons_ne_nil _ _)]
      simp only
      rw [lexDigits_append r hr]
      split_ifs with h <;> rfl

/-- What a number reader takes, followed by what it leaves, is the text. -/
theorem lexDigits_eq (s : List Char) : (lexDigits s).1 ++ (lexDigits s).2 = s :=
  List.takeWhile_append_dropWhile

theorem lexNat_eq {s i t : List Char} (h : lexNat s = some (i, t)) : i ++ t = s := by
  cases s with
  | nil => cases h
  | cons c s =>
    rw [lexNat] at h
    split_ifs at h with h0 hd
    · cases h; rw [h0]; rfl
    · cases h; exact lexDigits_eq (c :: s)

theorem lexInt_eq {s i t : List Char} (h : lexInt s = some (i, t)) : i ++ t = s := by
  cases s with
  | nil => cases h
  | cons c s =>
    rw [lexInt] at h
    split_ifs at h with hs
    · obtain ⟨⟨ds, u⟩, hds, h⟩ := Option.map_eq_some_iff.1 h
      cases h
      rw [hs, List.cons_append, lexNat_eq hds]
    · exact lexNat_eq h

theorem lexFrac_eq (s : List Char) : (lexFrac s).1 ++ (lexFrac s).2 = s := by
  cases s with
  | nil => rfl
  | cons c s =>
    rw [lexFrac]
    split_ifs with h
    · rw [List.cons_append, lexDigits_eq, h.1]
    · rfl

theorem lexSign_eq (s : List Char) : (lexSign s).1 ++ (lexSign s).2 = s := by
  cases s with
  | nil => rfl
  | cons c s => rw [lexSign]; split_ifs <;> rfl

theorem lexExp_eq (s : List Char) : (lexExp s).1 ++ (lexExp s).2 = s := by
  cases s with
  | nil => rfl
  | cons c s =>
    rw [lexExp]
    simp only
    split_ifs with h
    · simp only [List.cons_append, List.append_assoc, lexDigits_eq, lexSign_eq]
    · rfl

theorem lexNumber_eq {s i fe t : List Char} (h : lexNumber s = some (i, fe, t)) :
    i ++ (fe ++ t) = s := by
  obtain ⟨⟨i', r⟩, hi, h⟩ := Option.map_eq_some_iff.1 h
  simp only [Prod.mk.injEq] at h
  obtain ⟨rfl, rfl, rfl⟩ := h
  rw [List.append_assoc, lexExp_eq, lexFrac_eq, lexInt_eq hi]

/-- A text read whole as a number is read the same before the end of a number. -/
theorem lexNumber_append {s i fe r : List Char} (hr : NumEnd r)
    (h : lexNumber s = some (i, fe, [])) : lexNumber (s ++ r) = some (i, fe, r) := by
  obtain ⟨⟨i', u⟩, hi, h⟩ := Option.map_eq_some_iff.1 h
  simp only [Prod.mk.injEq] at h
  obtain ⟨rfl, rfl, hnil⟩ := h
  have hu : (lexExp (lexFrac u).2).1 ≠ [] ∨ (lexFrac u).2 = [] := by
    by_cases he : (lexExp (lexFrac u).2).1 = []
    · have := lexExp_eq (lexFrac u).2
      rw [he, hnil] at this
      exact .inr this.symm
    · exact .inl he
  rw [lexNumber, lexInt_append hr hi, Option.map_some]
  simp only
  rw [lexFrac_append r hr]
  simp only
  rw [lexExp_append r hr hu, hnil]
  rfl

/-! ### Integers -/

theorem isDigit_toDigits {n : ℕ} {c : Char} (h : c ∈ Nat.toDigits 10 n) : c.isDigit = true :=
  Nat.isDigit_of_mem_toDigits (by decide) (by decide) h

theorem lexDigits_of_all {s : List Char} (h : ∀ c ∈ s, c.isDigit = true) :
    lexDigits s = (s, []) := by
  rw [lexDigits, List.takeWhile_eq_self_iff.2 h, List.dropWhile_eq_nil_iff.2 h]

/-- The digits of a positive number do not start with a zero. -/
theorem head_toDigits_ne_zero {n : ℕ} {c : Char} {s : List Char} (hn : n ≠ 0)
    (h : Nat.toDigits 10 n = c :: s) : c ≠ '0' := by
  induction n using Nat.strong_induction_on generalizing c s with
  | _ n ih =>
    rw [Nat.toDigits_eq_if (by decide)] at h
    split_ifs at h with hlt
    · obtain ⟨rfl, rfl⟩ := List.cons.inj h
      simpa using hn
    · cases hd : Nat.toDigits 10 (n / 10) with
      | nil => exact absurd hd Nat.toDigits_ne_nil
      | cons d t =>
        rw [hd, List.cons_append] at h
        obtain ⟨rfl, -⟩ := List.cons.inj h
        exact ih (n / 10) (by omega) (by omega) hd

theorem lexNat_toDigits (n : ℕ) : lexNat (Nat.toDigits 10 n) = some (Nat.toDigits 10 n, []) := by
  obtain rfl | hn := eq_or_ne n 0
  · rfl
  · cases h : Nat.toDigits 10 n with
    | nil => exact absurd h Nat.toDigits_ne_nil
    | cons c s =>
      have hd : ∀ d ∈ c :: s, d.isDigit = true := fun d hd => isDigit_toDigits (h ▸ hd)
      rw [lexNat, if_neg (head_toDigits_ne_zero hn h), if_pos (hd c List.mem_cons_self),
        lexDigits_of_all hd]

theorem ne_minus_of_isDigit {c : Char} (h : c.isDigit = true) : c ≠ '-' := by
  rintro rfl
  revert h
  decide

theorem lexInt_dumpInt (i : ℤ) : lexInt (dumpInt i) = some (dumpInt i, []) := by
  cases i with
  | negSucc n =>
    rw [dumpInt, lexInt, if_pos rfl, lexNat_toDigits]
    rfl
  | ofNat n =>
    rw [dumpInt]
    cases h : Nat.toDigits 10 n with
    | nil => exact absurd h Nat.toDigits_ne_nil
    | cons c s =>
      have hc : c.isDigit = true := isDigit_toDigits (h ▸ List.mem_cons_self)
      rw [lexInt, if_neg (ne_minus_of_isDigit hc), ← h, lexNat_toDigits]

theorem intOf_dumpInt (i : ℤ) : intOf (dumpInt i) = i := by
  cases i with
  | negSucc n =>
    rw [dumpInt, intOf, if_pos rfl, Nat.ofDigitChars_ten_toDigits]
    rfl
  | ofNat n =>
    rw [dumpInt]
    cases h : Nat.toDigits 10 n with
    | nil => exact absurd h Nat.toDigits_ne_nil
    | cons c s =>
      have hc : c.isDigit = true := isDigit_toDigits (h ▸ List.mem_cons_self)
      rw [intOf, if_neg (ne_minus_of_isDigit hc), ← h, Nat.ofDigitChars_ten_toDigits]
      rfl

theorem parseNumber_dumpInt {i : ℤ} {r : List Char} (hr : NumEnd r)
    (hi : digitCount (dumpInt i) ≤ maxIntDigits) :
    parseNumber (dumpInt i ++ r) = some (.int i, r) := by
  have h : lexNumber (dumpInt i) = some (dumpInt i, [], []) := by
    rw [lexNumber, lexInt_dumpInt]
    rfl
  rw [parseNumber, lexNumber_append hr h]
  simp only [if_true, if_pos hi, intOf_dumpInt]

theorem parseNumber_float (x : FloatText) {r : List Char} (hr : NumEnd r) :
    parseNumber (x.text ++ r) = some (.float x, r) := by
  obtain ⟨t, ht⟩ := x
  have hw := ht
  rw [isFloatText] at hw
  split at hw
  · next i fe h =>
    have he : fe ≠ [] := by simpa using hw
    have ht' : i ++ fe = t := by simpa using lexNumber_eq h
    rw [parseNumber, lexNumber_append hr h]
    simp only [if_neg he, ht', dif_pos ht]
  · cases hw

/-- The first character of a number. -/
theorem head_of_lexInt {s i t : List Char} (h : lexInt s = some (i, t)) :
    ∃ c u, s = c :: u ∧ (c = '-' ∨ c.isDigit = true) := by
  cases s with
  | nil => cases h
  | cons c s =>
    refine ⟨c, s, rfl, ?_⟩
    rw [lexInt] at h
    split_ifs at h with hs
    · exact .inl hs
    · rw [lexNat] at h
      split_ifs at h with h0 hd
      · exact .inr (by rw [h0]; decide)
      · exact .inr hd

theorem lexInt_of_lexNumber {s i fe t : List Char} (h : lexNumber s = some (i, fe, t)) :
    ∃ u, lexInt s = some (i, u) := by
  obtain ⟨⟨i', u⟩, hi, h⟩ := Option.map_eq_some_iff.1 h
  simp only [Prod.mk.injEq] at h
  exact ⟨u, h.1 ▸ hi⟩

/-- Whatever starts like a number is read as one. -/
theorem parseValue_number {c : Char} (n : ℕ) (s : List Char) (h : c = '-' ∨ c.isDigit = true) :
    parseValue (n + 1) (c :: s) = parseNumber (c :: s) := by
  have hne (d : Char) (hd : ¬(d = '-' ∨ d.isDigit = true)) : c ≠ d := by
    rintro rfl
    exact hd h
  rw [parseValue, if_neg (hne _ (by decide)), if_neg (hne _ (by decide)),
    if_neg (hne _ (by decide)), if_neg (hne _ (by decide)), if_neg (hne _ (by decide)),
    if_neg (hne _ (by decide))]

/-! ## Values -/

theorem dumpStr_append (s : String) (r : List Char) :
    dumpStr s ++ r = '"' :: (s.toList.flatMap escapeChar ++ '"' :: r) := by
  rw [dumpStr, List.cons_append, List.append_assoc]
  rfl

/-- The text of a value starts with no white space and closes no bracket. -/
theorem dumps_head (v : Json) :
    ∃ c s, dumps v = c :: s ∧ isWs c = false ∧ c ≠ ']' ∧ c ≠ '}' := by
  have hnum {c : Char} (h : c = '-' ∨ c.isDigit = true) :
      isWs c = false ∧ c ≠ ']' ∧ c ≠ '}' := by
    have hne (d : Char) (hd : ¬(d = '-' ∨ d.isDigit = true)) : c ≠ d := by
      rintro rfl
      exact hd h
    refine ⟨?_, hne _ (by decide), hne _ (by decide)⟩
    simp [isWs, hne ' ' (by decide), hne '\t' (by decide), hne '\n' (by decide),
      hne '\r' (by decide)]
  match v with
  | .null => exact ⟨_, _, rfl, by decide, by decide, by decide⟩
  | .bool true => exact ⟨_, _, rfl, by decide, by decide, by decide⟩
  | .bool false => exact ⟨_, _, rfl, by decide, by decide, by decide⟩
  | .int i =>
    obtain ⟨c, u, h, hc⟩ := head_of_lexInt (lexInt_dumpInt i)
    exact ⟨c, u, h, hnum hc⟩
  | .float ⟨t, ht⟩ =>
    rw [isFloatText] at ht
    split at ht
    · next h =>
      obtain ⟨u, hu⟩ := lexInt_of_lexNumber h
      obtain ⟨c, u, h, hc⟩ := head_of_lexInt hu
      exact ⟨c, u, h, hnum hc⟩
    · cases ht
  | .str s => exact ⟨_, _, rfl, by decide, by decide, by decide⟩
  | .arr [] => exact ⟨_, _, rfl, by decide, by decide, by decide⟩
  | .arr (_ :: _) => exact ⟨_, _, rfl, by decide, by decide, by decide⟩
  | .obj [] => exact ⟨_, _, rfl, by decide, by decide, by decide⟩
  | .obj (_ :: _) => exact ⟨_, _, rfl, by decide, by decide, by decide⟩

theorem skipWs_dumps (v : Json) (r : List Char) : skipWs (dumps v ++ r) = dumps v ++ r := by
  obtain ⟨c, s, h, hc, -⟩ := dumps_head v
  rw [h, List.cons_append, skipWs_of_not_isWs _ hc]

theorem numEnd_arrRest (xs : List Json) (r : List Char) : NumEnd (dumpsArrRest xs ++ r) := by
  cases xs with
  | nil => exact NumEnd.head _ (by decide)
  | cons x xs => rw [dumpsArrRest]; exact NumEnd.head _ (by decide)

theorem numEnd_objRest (kvs : List (String × Json)) (r : List Char) :
    NumEnd (dumpsObjRest kvs ++ r) := by
  match kvs with
  | [] => exact NumEnd.head _ (by decide)
  | (k, x) :: kvs => rw [dumpsObjRest]; exact NumEnd.head _ (by decide)

theorem skipWs_arrRest (xs : List Json) (r : List Char) :
    skipWs (dumpsArrRest xs ++ r) = dumpsArrRest xs ++ r := by
  cases xs with
  | nil => rfl
  | cons x xs => rw [dumpsArrRest]; exact skipWs_of_not_isWs _ (by decide)

theorem skipWs_objRest (kvs : List (String × Json)) (r : List Char) :
    skipWs (dumpsObjRest kvs ++ r) = dumpsObjRest kvs ++ r := by
  match kvs with
  | [] => rfl
  | (k, x) :: kvs => rw [dumpsObjRest]; exact skipWs_of_not_isWs _ (by decide)

/-- A written item is read back, given that its value is. -/
theorem parseItem_dumps {k : String} {v : Json} {n : ℕ} {r : List Char}
    (hv : parseValue n (dumps v ++ r) = some (v, r)) :
    parseItem (n + 1) (dumpStr k ++ ':' :: (dumps v ++ r)) = some ((k, v), r) := by
  rw [dumpStr_append, parseItem, if_pos rfl, parseString_dumpStr]
  simp only [Option.bind_some]
  rw [skipWs_of_not_isWs _ (by decide : isWs ':' = false)]
  simp only [if_true]
  rw [skipWs_dumps, hv, Option.map_some, String.ofList_toList]

mutual

/-- Reading what was written yields the value, whatever follows it. -/
theorem parseValue_dumps : ∀ (v : Json) (n : ℕ) (r : List Char), v.Wf → v.intsFit = true →
    (dumps v).length < n → NumEnd r → parseValue n (dumps v ++ r) = some (v, r)
  | _, 0, _, _, _, hn, _ => absurd hn (Nat.not_lt_zero _)
  | .null, _ + 1, _, _, _, _, _ => rfl
  | .bool true, _ + 1, _, _, _, _, _ => rfl
  | .bool false, _ + 1, _, _, _, _, _ => rfl
  | .int i, n + 1, r, _, hi, _, hr => by
    obtain ⟨c, s, h, hc⟩ := head_of_lexInt (lexInt_dumpInt i)
    rw [dumps, h, List.cons_append, parseValue_number n _ hc, ← List.cons_append, ← h]
    exact parseNumber_dumpInt hr (by simpa [Json.intsFit] using hi)
  | .float x, n + 1, r, _, _, _, hr => by
    have hx : ∃ c s, x.text = c :: s ∧ (c = '-' ∨ c.isDigit = true) := by
      obtain ⟨t, ht⟩ := x
      rw [isFloatText] at ht
      split at ht
      · next h =>
        obtain ⟨u, hu⟩ := lexInt_of_lexNumber h
        exact head_of_lexInt hu
      · cases ht
    obtain ⟨c, s, h, hc⟩ := hx
    rw [dumps, h, List.cons_append, parseValue_number n _ hc, ← List.cons_append, ← h]
    exact parseNumber_float x hr
  | .str s, n + 1, r, _, _, _, _ => by
    rw [dumps, dumpStr_append, parseValue, if_pos rfl, parseString_dumpStr, Option.map_some,
      String.ofList_toList]
  | .arr [], _ + 1, _, _, _, _, _ => rfl
  | .arr (x :: xs), n + 1, r, hw, hi, hn, _ => by
    rw [Json.Wf, Json.WfList] at hw
    simp only [Json.intsFit, Json.intsFitList, Bool.and_eq_true] at hi
    simp only [dumps, List.length_cons, List.length_append] at hn
    obtain ⟨c, s, hx, hc, hc', -⟩ := dumps_head x
    have ih := parseValue_dumps x n (dumpsArrRest xs ++ r) hw.1 hi.1 (by omega)
      (numEnd_arrRest xs r)
    have ih' := parseArrRest_dumps xs n r hw.2 hi.2 (by omega)
    rw [dumps, List.cons_append, List.append_assoc, parseValue, if_neg (by decide),
      if_neg (by decide), if_pos rfl, skipWs_dumps]
    rw [hx] at ih ⊢
    simp only [List.cons_append, if_neg hc'] at ih ⊢
    rw [ih]
    simp only [Option.bind_some, skipWs_arrRest, ih', Option.map_some]
  | .obj [], _ + 1, _, _, _, _, _ => rfl
  | .obj ((k, x) :: kvs), n + 1, r, hw, hi, hn, _ => by
    rw [Json.Wf, Json.WfItems] at hw
    simp only [Json.intsFit, Json.intsFitItems, Bool.and_eq_true] at hi
    simp only [dumps, List.length_cons, List.length_append] at hn
    obtain ⟨m, rfl⟩ : ∃ m, n = m + 1 := ⟨n - 1, by omega⟩
    have ih := parseValue_dumps x m (dumpsObjRest kvs ++ r) hw.2.1 hi.1 (by omega)
      (numEnd_objRest kvs r)
    have ih' := parseObjRest_dumps kvs (m + 1) r hw.2.2 hi.2 (by omega)
    have hk := parseItem_dumps (k := k) ih
    rw [dumps, List.cons_append, List.append_assoc, List.cons_append, List.append_assoc,
      parseValue, if_neg (by decide), if_pos rfl]
    rw [dumpStr_append] at hk ⊢
    rw [skipWs_of_not_isWs _ (by decide : isWs '"' = false)]
    simp only [if_neg (by decide : '"' ≠ '}')]
    rw [hk]
    simp only [Option.bind_some, skipWs_objRest, ih', Option.map_some]
    rw [Json.ofItems_of_sorted hw.1]

theorem parseArrRest_dumps : ∀ (xs : List Json) (n : ℕ) (r : List Char), Json.WfList xs →
    Json.intsFitList xs = true → (dumpsArrRest xs).length < n + 1 →
    parseArrRest n (dumpsArrRest xs ++ r) = some (xs, r)
  | [], 0, _, _, _, hn => by simp [dumpsArrRest] at hn
  | [], _ + 1, _, _, _, _ => rfl
  | x :: xs, n, r, hw, hi, hn => by
    rw [Json.WfList] at hw
    simp only [Json.intsFitList, Bool.and_eq_true] at hi
    simp only [dumpsArrRest, List.length_cons, List.length_append] at hn
    obtain ⟨m, rfl⟩ : ∃ m, n = m + 1 := ⟨n - 1, by omega⟩
    have hlen : 0 < (dumpsArrRest xs).length := by
      cases xs <;> simp [dumpsArrRest]
    have ih := parseValue_dumps x m (dumpsArrRest xs ++ r) hw.1 hi.1 (by omega)
      (numEnd_arrRest xs r)
    have ih' := parseArrRest_dumps xs m r hw.2 hi.2 (by omega)
    rw [dumpsArrRest, List.cons_append, List.append_assoc, parseArrRest, if_neg (by decide),
      if_pos rfl, skipWs_dumps, ih]
    simp only [Option.bind_some, skipWs_arrRest, ih', Option.map_some]

theorem parseObjRest_dumps : ∀ (kvs : List (String × Json)) (n : ℕ) (r : List Char),
    Json.WfItems kvs → Json.intsFitItems kvs = true → (dumpsObjRest kvs).length < n + 1 →
    parseObjRest n (dumpsObjRest kvs ++ r) = some (kvs, r)
  | [], 0, _, _, _, hn => by simp [dumpsObjRest] at hn
  | [], _ + 1, _, _, _, _ => rfl
  | (k, x) :: kvs, n, r, hw, hi, hn => by
    rw [Json.WfItems] at hw
    simp only [Json.intsFitItems, Bool.and_eq_true] at hi
    simp only [dumpsObjRest, dumpStr, List.length_cons, List.length_append] at hn
    obtain ⟨m, rfl⟩ : ∃ m, n = m + 2 := ⟨n - 2, by omega⟩
    have ih := parseValue_dumps x m (dumpsObjRest kvs ++ r) hw.1 hi.1 (by omega)
      (numEnd_objRest kvs r)
    have ih' := parseObjRest_dumps kvs (m + 1) r hw.2 hi.2 (by omega)
    have hk := parseItem_dumps (k := k) ih
    rw [dumpsObjRest, List.cons_append, List.append_assoc, List.cons_append, List.append_assoc,
      parseObjRest, if_neg (by decide), if_pos rfl]
    rw [dumpStr_append] at hk ⊢
    rw [skipWs_of_not_isWs _ (by decide : isWs '"' = false), hk]
    simp only [Option.bind_some, skipWs_objRest, ih', Option.map_some]

end

/-- A written value is read back. -/
theorem loads_dumps {v : Json} (hw : v.Wf) (hi : v.intsFit = true) :
    loads (dumps v) = some v := by
  have h := parseValue_dumps v ((dumps v).length + 1) [] hw hi (Nat.lt_succ_self _) trivial
  rw [List.append_nil] at h
  have hs := skipWs_dumps v []
  rw [List.append_nil] at hs
  rw [loads, hs, h]
  rfl

end PyJson
