import AnKla.Json.RoundTrip

/-!
# JSON texts and line breaks

One value a line is only a format if the line splitter cuts nowhere else. The
splitter knows ten line breaks; canonical text escapes the seven control ones
and writes the other three (`isRawBreak`) as themselves, inside strings.

* `splitlines`: the lines of a text, without their ends.
* `run`: whether a position of a JSON text is inside a string. A value that can
  be read ends outside (`run_of_loads`), a raw break of a written value is
  inside (`run_dumps`): so a line cut there cannot be read.
* `loads_lines`: the lines of written values read back as those values exactly
  when no string of them holds a raw break.
-/

namespace PyJson

/-- The characters at which a text is split into lines. -/
def isLineBreak (c : Char) : Bool :=
  c = '\n' || c = '\r' || c.toNat = 0x0b || c.toNat = 0x0c || c.toNat = 0x1c ||
    c.toNat = 0x1d || c.toNat = 0x1e || isRawBreak c

/-- Put a character in front of the first line. -/
def consLine (c : Char) : List (List Char) → List (List Char)
  | [] => [[c]]
  | l :: ls => (c :: l) :: ls

/-- `str.splitlines`: a carriage return and a line feed in a row are one break. -/
def splitlines : List Char → List (List Char)
  | [] => []
  | c :: s =>
    if c = '\r' then
      match s with
      | [] => [[]]
      | d :: t => if d = '\n' then [] :: splitlines t else [] :: splitlines (d :: t)
    else if isLineBreak c then [] :: splitlines s
    else consLine c (splitlines s)

theorem splitlines_cons {c : Char} (s : List Char) (h : isLineBreak c = false) :
    splitlines (c :: s) = consLine c (splitlines s) := by
  have hr : c ≠ '\r' := by
    rintro rfl
    revert h
    decide
  rw [splitlines.eq_def]
  simp only [if_neg hr, h, Bool.false_eq_true, if_false]

/-- A text up to its first break is its first line. -/
theorem splitlines_break {l : List Char} {c : Char} (s : List Char)
    (hl : ∀ d ∈ l, isLineBreak d = false) (hc : isLineBreak c = true) (hr : c ≠ '\r') :
    splitlines (l ++ c :: s) = l :: splitlines s := by
  induction l with
  | nil =>
    rw [List.nil_append, splitlines.eq_def]
    simp only [if_neg hr, if_pos hc]
  | cons d l ih =>
    rw [List.cons_append, splitlines_cons _ (hl d List.mem_cons_self),
      ih fun e he => hl e (List.mem_cons_of_mem _ he)]
    rfl

/-! ## Inside and outside of strings -/

/-- Where a position of a JSON text stands. -/
inductive Scan
  | out
  | str
  | esc
  deriving DecidableEq

/-- One character read; a raw break outside a string stops the scan. -/
def step : Scan → Char → Option Scan
  | .out, c => if c = '"' then some .str else if isRawBreak c then none else some .out
  | .str, c => if c = '"' then some .out else if c = '\\' then some .esc else some .str
  | .esc, _ => some .str

def run (a : Scan) (s : List Char) : Option Scan := s.foldlM step a

@[simp] theorem run_nil (a : Scan) : run a [] = some a := rfl

theorem run_cons (a : Scan) (c : Char) (s : List Char) :
    run a (c :: s) = (step a c).bind fun b => run b s := List.foldlM_cons ..

theorem run_append (a : Scan) (s t : List Char) :
    run a (s ++ t) = (run a s).bind fun b => run b t := List.foldlM_append ..

/-- A character that neither opens a string nor breaks a line. -/
def IsPlain (c : Char) : Prop := c ≠ '"' ∧ isRawBreak c = false

instance (c : Char) : Decidable (IsPlain c) := inferInstanceAs (Decidable (_ ∧ _))

theorem run_plain {p : List Char} (h : ∀ c ∈ p, IsPlain c) : run .out p = some .out := by
  induction p with
  | nil => rfl
  | cons c p ih =>
    obtain ⟨hq, hb⟩ := h c List.mem_cons_self
    rw [run_cons, step, if_neg hq, if_neg (by simp [hb]), Option.bind_some]
    exact ih fun d hd => h d (List.mem_cons_of_mem _ hd)

theorem run_out_append {p : List Char} (t : List Char) (h : run .out p = some .out) :
    run .out (p ++ t) = run .out t := by
  rw [run_append, h, Option.bind_some]

/-! ### Numbers -/

/-- The characters a number is written with. -/
def IsNumChar (c : Char) : Prop :=
  c.isDigit = true ∨ c = '-' ∨ c = '+' ∨ c = '.' ∨ c = 'e' ∨ c = 'E'

instance (c : Char) : Decidable (IsNumChar c) := inferInstanceAs (Decidable (_ ∨ _))

theorem IsNumChar.bounds {c : Char} (h : IsNumChar c) : 0x2b ≤ c.toNat ∧ c.toNat < 0x80 := by
  obtain h | rfl | rfl | rfl | rfl | rfl := h
  · have hn := Char.isDigit_iff_toNat.1 h
    have h0 : ('0' : Char).toNat = 48 := rfl
    have h9 : ('9' : Char).toNat = 57 := rfl
    omega
  all_goals decide

theorem IsNumChar.plain {c : Char} (h : IsNumChar c) : IsPlain c := by
  obtain ⟨hl, hu⟩ := h.bounds
  have h1 : c.toNat ≠ 0x85 := by omega
  have h2 : c.toNat ≠ 0x2028 := by omega
  have h3 : c.toNat ≠ 0x2029 := by omega
  refine ⟨?_, by simp [isRawBreak, h1, h2, h3]⟩
  rintro rfl
  revert hl
  decide

theorem num_lexDigits {s : List Char} : ∀ c ∈ (lexDigits s).1, IsNumChar c :=
  fun _ hc => .inl (List.mem_takeWhile_imp hc)

theorem num_lexNat {s i t : List Char} (h : lexNat s = some (i, t)) : ∀ c ∈ i, IsNumChar c := by
  cases s with
  | nil => cases h
  | cons c s =>
    rw [lexNat] at h
    split_ifs at h with h0 hd
    · cases h
      decide
    · cases h
      exact num_lexDigits (s := c :: s)

theorem num_lexInt {s i t : List Char} (h : lexInt s = some (i, t)) : ∀ c ∈ i, IsNumChar c := by
  cases s with
  | nil => cases h
  | cons c s =>
    rw [lexInt] at h
    split_ifs at h with hs
    · obtain ⟨⟨ds, u⟩, hds, h⟩ := Option.map_eq_some_iff.1 h
      cases h
      rintro d (_ | ⟨_, hd⟩)
      · decide
      · exact num_lexNat hds d hd
    · exact num_lexNat h

theorem num_lexFrac (s : List Char) : ∀ c ∈ (lexFrac s).1, IsNumChar c := by
  cases s with
  | nil => exact fun c hc => absurd hc List.not_mem_nil
  | cons c s =>
    rw [lexFrac]
    split_ifs with h
    · rintro d (_ | ⟨_, hd⟩)
      · decide
      · exact num_lexDigits d hd
    · exact fun c hc => absurd hc List.not_mem_nil

theorem num_lexSign (s : List Char) : ∀ c ∈ (lexSign s).1, IsNumChar c := by
  cases s with
  | nil => exact fun c hc => absurd hc List.not_mem_nil
  | cons c s =>
    rw [lexSign]
    split_ifs with h
    · rintro d hd
      rw [List.mem_singleton.1 hd]
      obtain rfl | rfl := h <;> decide
    · exact fun c hc => absurd hc List.not_mem_nil

theorem num_lexExp (s : List Char) : ∀ c ∈ (lexExp s).1, IsNumChar c := by
  cases s with
  | nil => exact fun c hc => absurd hc List.not_mem_nil
  | cons c s =>
    rw [lexExp]
    simp only
    split_ifs with h
    · simp only [List.cons_append, List.mem_cons, List.mem_append]
      rintro d (rfl | hd | hd)
      · obtain rfl | rfl := h.1 <;> decide
      · exact num_lexSign s d hd
      · exact num_lexDigits d hd
    · exact fun c hc => absurd hc List.not_mem_nil

/-- The text of a number holds the characters of numbers only. -/
theorem num_lexNumber {s i fe t : List Char} (h : lexNumber s = some (i, fe, t)) :
    ∀ c ∈ i ++ fe, IsNumChar c := by
  obtain ⟨⟨i', r⟩, hi, h⟩ := Option.map_eq_some_iff.1 h
  simp only [Prod.mk.injEq] at h
  obtain ⟨rfl, rfl, rfl⟩ := h
  simp only [List.mem_append]
  rintro c (hc | hc | hc)
  · exact num_lexInt hi c hc
  · exact num_lexFrac _ c hc
  · exact num_lexExp _ c hc

theorem num_dumpInt (i : ℤ) : ∀ c ∈ dumpInt i, IsNumChar c := num_lexInt (lexInt_dumpInt i)

theorem num_float (x : FloatText) : ∀ c ∈ x.text, IsNumChar c := by
  obtain ⟨t, ht⟩ := x
  rw [isFloatText] at ht
  split at ht
  · next h => simpa [← lexNumber_eq h] using num_lexNumber h
  · cases ht

theorem run_num {p : List Char} (h : ∀ c ∈ p, IsNumChar c) : run .out p = some .out :=
  run_plain fun c hc => (h c hc).plain

/-! ### Values that were read -/

theorem isPlain_of_isWs {c : Char} (h : isWs c = true) : IsPlain c := by
  simp only [isWs, Bool.or_eq_true, decide_eq_true_eq] at h
  obtain ((rfl | rfl) | rfl) | rfl := h <;> decide

theorem run_skipWs (s : List Char) : run .out s = run .out (skipWs s) := by
  have h : ∀ c ∈ s.takeWhile isWs, IsPlain c :=
    fun c hc => isPlain_of_isWs (List.mem_takeWhile_imp hc)
  rw [← run_out_append (skipWs s) (run_plain h), skipWs, List.takeWhile_append_dropWhile]

theorem run_str_plain {c : Char} (t : List Char) (hq : c ≠ '"') (hb : c ≠ '\\') :
    run .str (c :: t) = run .str t := by
  rw [run_cons, step, if_neg hq, if_neg hb, Option.bind_some]

theorem run_str_esc (c : Char) (t : List Char) : run .str ('\\' :: c :: t) = run .str t := by
  rw [run_cons, step, if_neg (by decide), if_pos rfl, Option.bind_some, run_cons, step,
    Option.bind_some]

theorem run_str_hex {c : Char} {n : ℕ} (t : List Char) (hc : hexVal c = some n) :
    run .str (c :: t) = run .str t := by
  refine run_str_plain t ?_ ?_ <;> (rintro rfl; cases hc)

theorem run_str_hex4 {a b c d : Char} {n : ℕ} (t : List Char) (h : hex4 a b c d = some n) :
    run .str (a :: b :: c :: d :: t) = run .str t := by
  rw [hex4] at h
  split at h
  · next ha hb hc hd =>
    rw [run_str_hex _ ha, run_str_hex _ hb, run_str_hex _ hc, run_str_hex _ hd]
  · cases h

/-- The rest after a string is scanned as the string's end leaves it. -/
theorem run_parseString {s cs r : List Char} (h : parseString s = some (cs, r)) :
    run .str s = run .out r := by
  fun_induction parseString s generalizing cs r with
  | case2 s =>
    cases h
    rw [run_cons, step, if_pos rfl, Option.bind_some]
  -- an escape of one letter, a surrogate pair, one code unit, a plain character
  | case4 _ _ _ _ _ ih =>
    obtain ⟨⟨cs', r'⟩, ht, h⟩ := Option.map_eq_some_iff.1 h
    cases h
    rw [run_str_esc, ih ht]
  | case7 _ _ _ _ n hn _ _ _ _ _ _ _ _ m hm hxy _ _ ih =>
    obtain ⟨⟨cs', r'⟩, ht, h⟩ := Option.map_eq_some_iff.1 h
    obtain ⟨rfl, rfl, -⟩ := hxy
    cases h
    rw [run_str_esc, run_str_hex4 _ hn, run_str_esc, run_str_hex4 _ hm, ih ht]
  | case11 _ _ _ _ _ n hn _ _ _ _ ih =>
    obtain ⟨⟨cs', r'⟩, ht, h⟩ := Option.map_eq_some_iff.1 h
    cases h
    rw [run_str_esc, run_str_hex4 _ hn, ih ht]
  | case15 c s hq hb _ ih =>
    obtain ⟨⟨cs', r'⟩, ht, h⟩ := Option.map_eq_some_iff.1 h
    cases h
    rw [run_str_plain _ hq hb, ih ht]
  | _ => cases h

theorem run_parseLit {rest s r : List Char} {v w : Json} (hp : ∀ c ∈ rest, IsPlain c)
    (h : parseLit rest v s = some (w, r)) : run .out s = run .out r := by
  rw [parseLit] at h
  split_ifs at h with hs
  cases h
  obtain ⟨t, rfl⟩ := List.isPrefixOf_iff_prefix.1 hs
  rw [run_out_append t (run_plain hp), List.drop_left]

theorem run_parseNumber {s r : List Char} {v : Json} (h : parseNumber s = some (v, r)) :
    run .out s = run .out r := by
  rw [parseNumber] at h
  split at h
  · cases h
  · next i fe t hl =>
    have ht : t = r := by
      split_ifs at h <;> cases h <;> rfl
    rw [← lexNumber_eq hl, ← List.append_assoc, run_out_append t (run_num (num_lexNumber hl)),
      ht]

theorem run_out_cons {c : Char} (s : List Char) (h : IsPlain c) : run .out (c :: s) = run .out s := by
  rw [run_cons, step, if_neg h.1, if_neg (by simp [h.2]), Option.bind_some]

theorem run_out_quote (s : List Char) : run .out ('"' :: s) = run .str s := by
  rw [run_cons, step, if_pos rfl, Option.bind_some]

/-- Reading a value, an item or the rest of a container starts and ends outside
    of strings, and meets no raw break there. -/
theorem run_parse (n : ℕ) :
    (∀ s v r, parseValue n s = some (v, r) → run .out s = run .out r) ∧
    (∀ s kv r, parseItem n s = some (kv, r) → run .out s = run .out r) ∧
    (∀ s xs r, parseArrRest n s = some (xs, r) → run .out s = run .out r) ∧
    (∀ s kvs r, parseObjRest n s = some (kvs, r) → run .out s = run .out r) := by
  induction n with
  | zero =>
    refine ⟨?_, ?_, ?_, ?_⟩ <;> intro s _ _ h
    · rw [parseValue] at h; cases h
    · rw [parseItem] at h; cases h
    · rw [parseArrRest] at h; cases h
    · rw [parseObjRest] at h; cases h
  | succ n ih =>
    obtain ⟨ihv, ihi, iha, iho⟩ := ih
    refine ⟨?_, ?_, ?_, ?_⟩ <;> rintro (_ | ⟨c, s⟩) v r h
    · rw [parseValue] at h; cases h
    · rw [parseValue] at h
      split_ifs at h with hq ho ha hn ht hf
      · obtain ⟨⟨cs, t⟩, hs, h⟩ := Option.map_eq_some_iff.1 h
        cases h
        rw [hq, run_out_quote, run_parseString hs]
      · rw [ho, run_out_cons _ (by decide), run_skipWs]
        split at h
        · cases h
        · next d t hd =>
          rw [hd]
          split_ifs at h with hc
          · cases h
            exact run_out_cons _ (by subst hc; decide)
          · obtain ⟨⟨kv, t'⟩, hkv, h⟩ := Option.bind_eq_some_iff.1 h
            obtain ⟨⟨kvs, r'⟩, hkvs, h⟩ := Option.map_eq_some_iff.1 h
            cases h
            rw [ihi _ _ _ hkv, run_skipWs, iho _ _ _ hkvs]
      · rw [ha, run_out_cons _ (by decide), run_skipWs]
        split at h
        · cases h
        · next d t hd =>
          rw [hd]
          split_ifs at h with hc
          · cases h
            exact run_out_cons _ (by subst hc; decide)
          · obtain ⟨⟨x, t'⟩, hx, h⟩ := Option.bind_eq_some_iff.1 h
            obtain ⟨⟨xs, r'⟩, hxs, h⟩ := Option.map_eq_some_iff.1 h
            cases h
            rw [ihv _ _ _ hx, run_skipWs, iha _ _ _ hxs]
      · rw [run_out_cons _ (by subst hn; decide)]
        exact run_parseLit (by decide) h
      · rw [run_out_cons _ (by subst ht; decide)]
        exact run_parseLit (by decide) h
      · rw [run_out_cons _ (by subst hf; decide)]
        exact run_parseLit (by decide) h
      · exact run_parseNumber h
    · rw [parseItem] at h; cases h
    · rw [parseItem] at h
      split_ifs at h with hq
      obtain ⟨⟨cs, t⟩, hs, h⟩ := Option.bind_eq_some_iff.1 h
      rw [hq, run_out_quote, run_parseString hs, run_skipWs]
      simp only at h
      split at h
      · cases h
      · next d u hd =>
        rw [hd]
        split_ifs at h with hc
        obtain ⟨⟨x, r'⟩, hx, h⟩ := Option.map_eq_some_iff.1 h
        cases h
        rw [run_out_cons _ (by subst hc; decide), run_skipWs, ihv _ _ _ hx]
    · rw [parseArrRest] at h; cases h
    · rw [parseArrRest] at h
      split_ifs at h with hc hs
      · cases h
        exact run_out_cons _ (by subst hc; decide)
      · obtain ⟨⟨x, t'⟩, hx, h⟩ := Option.bind_eq_some_iff.1 h
        obtain ⟨⟨xs, r'⟩, hxs, h⟩ := Option.map_eq_some_iff.1 h
        cases h
        rw [run_out_cons _ (by subst hs; decide), run_skipWs,
          ihv _ _ _ hx, run_skipWs, iha _ _ _ hxs]
    · rw [parseObjRest] at h; cases h
    · rw [parseObjRest] at h
      split_ifs at h with hc hs
      · cases h
        exact run_out_cons _ (by subst hc; decide)
      · obtain ⟨⟨kv, t'⟩, hkv, h⟩ := Option.bind_eq_some_iff.1 h
        obtain ⟨⟨kvs, r'⟩, hkvs, h⟩ := Option.map_eq_some_iff.1 h
        cases h
        rw [run_out_cons _ (by subst hs; decide), run_skipWs,
          ihi _ _ _ hkv, run_skipWs, iho _ _ _ hkvs]

/-- A text that can be read leaves the scan outside of strings. -/
theorem run_of_loads {s : List Char} {v : Json} (h : loads s = some v) : run .out s = some .out := by
  obtain ⟨⟨w, r⟩, hp, h⟩ := Option.bind_eq_some_iff.1 h
  split_ifs at h with hr
  rw [run_skipWs, (run_parse _).1 _ _ _ hp, run_skipWs, hr, run_nil]

/-! ### Values that were written -/

theorem digitChar_plain {n : ℕ} (h : n < 0x20) :
    (n / 16).digitChar ≠ '"' ∧ (n / 16).digitChar ≠ '\\' ∧
      (n % 16).digitChar ≠ '"' ∧ (n % 16).digitChar ≠ '\\' := by
  interval_cases n <;> decide

theorem run_escapeChar (c : Char) (t : List Char) :
    run .str (escapeChar c ++ t) = run .str t := by
  unfold escapeChar
  split_ifs with hq hb hn hr ht hf h8 hc
  · exact run_str_esc _ t
  · exact run_str_esc _ t
  · exact run_str_esc _ t
  · exact run_str_esc _ t
  · exact run_str_esc _ t
  · exact run_str_esc _ t
  · exact run_str_esc _ t
  · obtain ⟨h1, h2, h3, h4⟩ := digitChar_plain hc
    simp only [List.cons_append, List.nil_append]
    rw [run_str_esc, run_str_plain _ (by decide) (by decide),
      run_str_plain _ (by decide) (by decide), run_str_plain _ h1 h2, run_str_plain _ h3 h4]
  · exact run_str_plain t hq hb

theorem run_dumpStr (s : String) (r : List Char) : run .out (dumpStr s ++ r) = run .out r := by
  have h (cs : List Char) : run .str (cs.flatMap escapeChar ++ '"' :: r) = run .out r := by
    induction cs with
    | nil => rw [List.flatMap_nil, List.nil_append, run_cons, step, if_pos rfl, Option.bind_some]
    | cons c cs ih => rw [List.flatMap_cons, List.append_assoc, run_escapeChar, ih]
  rw [dumpStr_append, run_out_quote, h]

mutual

/-- A written value starts and ends outside of strings: its raw breaks are inside. -/
theorem run_dumps : ∀ (v : Json) (r : List Char), run .out (dumps v ++ r) = run .out r
  | .null, _ => run_out_append _ (run_plain (by decide))
  | .bool true, _ => run_out_append _ (run_plain (by decide))
  | .bool false, _ => run_out_append _ (run_plain (by decide))
  | .int i, r => run_out_append r (run_num (num_dumpInt i))
  | .float x, r => run_out_append r (run_num (num_float x))
  | .str s, r => run_dumpStr s r
  | .arr [], _ => run_out_append _ (run_plain (by decide))
  | .arr (x :: xs), r => by
    rw [dumps, List.cons_append, run_out_cons _ (by decide), List.append_assoc, run_dumps x,
      run_dumpsArrRest xs]
  | .obj [], _ => run_out_append _ (run_plain (by decide))
  | .obj ((k, x) :: kvs), r => by
    rw [dumps, List.cons_append, run_out_cons _ (by decide), List.append_assoc, run_dumpStr,
      List.cons_append, run_out_cons _ (by decide), List.append_assoc, run_dumps x,
      run_dumpsObjRest kvs]

theorem run_dumpsArrRest : ∀ (xs : List Json) (r : List Char),
    run .out (dumpsArrRest xs ++ r) = run .out r
  | [], _ => run_out_append _ (run_plain (by decide))
  | x :: xs, r => by
    rw [dumpsArrRest, List.cons_append, run_out_cons _ (by decide), List.append_assoc,
      run_dumps x, run_dumpsArrRest xs]

theorem run_dumpsObjRest : ∀ (kvs : List (String × Json)) (r : List Char),
    run .out (dumpsObjRest kvs ++ r) = run .out r
  | [], _ => run_out_append _ (run_plain (by decide))
  | (k, x) :: kvs, r => by
    rw [dumpsObjRest, List.cons_append, run_out_cons _ (by decide), List.append_assoc,
      run_dumpStr, List.cons_append, run_out_cons _ (by decide), List.append_assoc, run_dumps x,
      run_dumpsObjRest kvs]

end

/-- A written value cut at a raw break cannot be read. -/
theorem loads_cut {v : Json} {l b : List Char} {c : Char} (h : dumps v = l ++ c :: b)
    (hc : isRawBreak c = true) : loads l = none := by
  rw [Option.eq_none_iff_forall_not_mem]
  intro w hw
  have hl := run_of_loads hw
  have hv := run_dumps v []
  rw [List.append_nil, h, run_append, hl, Option.bind_some, run_cons, step,
    if_neg (by rintro rfl; revert hc; decide), if_pos hc] at hv
  cases hv

/-! ## Which line breaks a written value holds -/

/-- A written character is neither a control character nor, unless it stands for
    itself, a raw break. -/
theorem mem_escapeChar {c d : Char} (h : d ∈ escapeChar c) :
    0x20 ≤ d.toNat ∧ (isRawBreak d = true → d = c) := by
  unfold escapeChar at h
  have digit {n : ℕ} (hn : n < 0x20) :
      (0x20 ≤ (n / 16).digitChar.toNat ∧ isRawBreak (n / 16).digitChar = false) ∧
      (0x20 ≤ (n % 16).digitChar.toNat ∧ isRawBreak (n % 16).digitChar = false) := by
    interval_cases n <;> decide
  have lit {d : Char} (hd : 0x20 ≤ d.toNat ∧ isRawBreak d = false) :
      0x20 ≤ d.toNat ∧ (isRawBreak d = true → d = c) :=
    ⟨hd.1, fun hr => absurd hr (by simp [hd.2])⟩
  split_ifs at h with hq hb hn hr ht hf h8 hc
  all_goals simp only [List.mem_cons, List.not_mem_nil, or_false] at h
  · obtain rfl | rfl := h <;> exact lit (by decide)
  · obtain rfl | rfl := h <;> exact lit (by decide)
  · obtain rfl | rfl := h <;> exact lit (by decide)
  · obtain rfl | rfl := h <;> exact lit (by decide)
  · obtain rfl | rfl := h <;> exact lit (by decide)
  · obtain rfl | rfl := h <;> exact lit (by decide)
  · obtain rfl | rfl := h <;> exact lit (by decide)
  · obtain rfl | rfl | rfl | rfl | rfl | rfl := h
    · exact lit (by decide)
    · exact lit (by decide)
    · exact lit (by decide)
    · exact lit (by decide)
    · exact lit (digit hc).1
    · exact lit (digit hc).2
  · subst h
    exact ⟨by omega, fun _ => rfl⟩

theorem mem_dumpStr {s : String} {d : Char} (h : d ∈ dumpStr s) :
    0x20 ≤ d.toNat ∧ (isRawBreak d = true → d ∈ s.toList) := by
  simp only [dumpStr, List.mem_cons, List.mem_append, List.mem_flatMap, List.not_mem_nil,
    or_false] at h
  obtain rfl | ⟨c, hc, hd⟩ | rfl := h
  · exact ⟨by decide, fun hr => absurd hr (by decide)⟩
  · obtain ⟨h1, h2⟩ := mem_escapeChar hd
    exact ⟨h1, fun hr => h2 hr ▸ hc⟩
  · exact ⟨by decide, fun hr => absurd hr (by decide)⟩

theorem mem_dumpStr_of_isRawBreak {s : String} {c : Char} (h : c ∈ s.toList)
    (hc : isRawBreak c = true) : c ∈ dumpStr s := by
  simp only [dumpStr, List.mem_cons, List.mem_append, List.mem_flatMap]
  exact .inr (.inl ⟨c, h, by rw [escapeChar_of_isRawBreak hc]; exact List.mem_cons_self⟩)

theorem num_not_break {p : List Char} (h : ∀ c ∈ p, IsNumChar c) :
    ∀ c ∈ p, 0x20 ≤ c.toNat ∧ isRawBreak c = false := by
  intro c hc
  have := (h c hc).bounds
  exact ⟨by omega, (h c hc).plain.2⟩

mutual

/-- No control character is written as itself. -/
theorem control_dumps : ∀ (v : Json), ∀ c ∈ dumps v, 0x20 ≤ c.toNat
  | .null => by decide
  | .bool true => by decide
  | .bool false => by decide
  | .int i => fun c hc => (num_not_break (num_dumpInt i) c hc).1
  | .float x => fun c hc => (num_not_break (num_float x) c hc).1
  | .str s => fun c hc => (mem_dumpStr hc).1
  | .arr [] => by decide
  | .arr (x :: xs) => by
    simp only [dumps, List.mem_cons, List.mem_append]
    rintro c (rfl | hc | hc)
    · decide
    · exact control_dumps x c hc
    · exact control_arrRest xs c hc
  | .obj [] => by decide
  | .obj ((k, x) :: kvs) => by
    simp only [dumps, List.mem_cons, List.mem_append]
    rintro c (rfl | hc | rfl | hc | hc)
    · decide
    · exact (mem_dumpStr hc).1
    · decide
    · exact control_dumps x c hc
    · exact control_objRest kvs c hc

theorem control_arrRest : ∀ (xs : List Json), ∀ c ∈ dumpsArrRest xs, 0x20 ≤ c.toNat
  | [] => by decide
  | x :: xs => by
    simp only [dumpsArrRest, List.mem_cons, List.mem_append]
    rintro c (rfl | hc | hc)
    · decide
    · exact control_dumps x c hc
    · exact control_arrRest xs c hc

theorem control_objRest : ∀ (kvs : List (String × Json)), ∀ c ∈ dumpsObjRest kvs, 0x20 ≤ c.toNat
  | [] => by decide
  | (k, x) :: kvs => by
    simp only [dumpsObjRest, List.mem_cons, List.mem_append]
    rintro c (rfl | hc | rfl | hc | hc)
    · decide
    · exact (mem_dumpStr hc).1
    · decide
    · exact control_dumps x c hc
    · exact control_objRest kvs c hc

end

theorem dumpStr_breakFree (s : String) :
    (∀ c ∈ dumpStr s, isRawBreak c = false) ↔ ∀ c ∈ s.toList, isRawBreak c = false := by
  constructor
  · intro h c hc
    by_contra hr
    have hr : isRawBreak c = true := by simpa using hr
    exact absurd (h c (mem_dumpStr_of_isRawBreak hc hr)) (by simp [hr])
  · intro h c hc
    by_contra hr
    have hr : isRawBreak c = true := by simpa using hr
    exact absurd (h c ((mem_dumpStr hc).2 hr)) (by simp [hr])

mutual

/-- The raw breaks of a written value are those of its strings. -/
theorem breakFree_iff : ∀ (v : Json), v.BreakFree ↔ ∀ c ∈ dumps v, isRawBreak c = false
  | .null => by simp only [Json.BreakFree, true_iff]; decide
  | .bool true => by simp only [Json.BreakFree, true_iff]; decide
  | .bool false => by simp only [Json.BreakFree, true_iff]; decide
  | .int i => by
    simp only [Json.BreakFree, true_iff]
    exact fun c hc => (num_not_break (num_dumpInt i) c hc).2
  | .float x => by
    simp only [Json.BreakFree, true_iff]
    exact fun c hc => (num_not_break (num_float x) c hc).2
  | .str s => by rw [Json.BreakFree, dumps, dumpStr_breakFree]
  | .arr [] => by simp only [Json.BreakFree, Json.BreakFreeList, true_iff]; decide
  | .arr (x :: xs) => by
    rw [Json.BreakFree, Json.BreakFreeList, breakFree_iff x, breakFree_arrRest xs, dumps]
    simp only [List.forall_mem_cons, List.forall_mem_append]
    exact (and_iff_right (by decide)).symm
  | .obj [] => by simp only [Json.BreakFree, Json.BreakFreeItems, true_iff]; decide
  | .obj ((k, x) :: kvs) => by
    rw [Json.BreakFree, Json.BreakFreeItems, breakFree_iff x, breakFree_objRest kvs, dumps,
      ← dumpStr_breakFree]
    simp only [List.forall_mem_cons, List.forall_mem_append]
    rw [and_iff_right (by decide : isRawBreak '{' = false),
      and_iff_right (by decide : isRawBreak ':' = false)]

theorem breakFree_arrRest : ∀ (xs : List Json),
    Json.BreakFreeList xs ↔ ∀ c ∈ dumpsArrRest xs, isRawBreak c = false
  | [] => by simp only [Json.BreakFreeList, true_iff]; decide
  | x :: xs => by
    rw [Json.BreakFreeList, breakFree_iff x, breakFree_arrRest xs, dumpsArrRest]
    simp only [List.forall_mem_cons, List.forall_mem_append]
    exact (and_iff_right (by decide)).symm

theorem breakFree_objRest : ∀ (kvs : List (String × Json)),
    Json.BreakFreeItems kvs ↔ ∀ c ∈ dumpsObjRest kvs, isRawBreak c = false
  | [] => by simp only [Json.BreakFreeItems, true_iff]; decide
  | (k, x) :: kvs => by
    rw [Json.BreakFreeItems, breakFree_iff x, breakFree_objRest kvs, dumpsObjRest,
      ← dumpStr_breakFree]
    simp only [List.forall_mem_cons, List.forall_mem_append]
    rw [and_iff_right (by decide : isRawBreak ',' = false),
      and_iff_right (by decide : isRawBreak ':' = false)]

end

/-! ## Lines of values -/

/-- One value a line. -/
def writeLines (vs : List Json) : List Char := vs.flatMap fun v => dumps v ++ ['\n']

/-- The values of the lines of a text. -/
def readLines (s : List Char) : Option (List Json) := (splitlines s).mapM loads

theorem isRawBreak_of_isLineBreak {c : Char} (h : isLineBreak c = true) (hc : 0x20 ≤ c.toNat) :
    isRawBreak c = true := by
  have hne (d : Char) (hd : d.toNat < 0x20) : c ≠ d := by
    rintro rfl
    omega
  have hn : c ≠ '\n' := hne _ (by decide)
  have hr : c ≠ '\r' := hne _ (by decide)
  have h1 : c.toNat ≠ 0x0b := by omega
  have h2 : c.toNat ≠ 0x0c := by omega
  have h3 : c.toNat ≠ 0x1c := by omega
  have h4 : c.toNat ≠ 0x1d := by omega
  have h5 : c.toNat ≠ 0x1e := by omega
  simpa [isLineBreak, hn, hr, h1, h2, h3, h4, h5] using h

theorem writeLines_cons (v : Json) (vs : List Json) :
    writeLines (v :: vs) = dumps v ++ '\n' :: writeLines vs := by
  rw [writeLines, List.flatMap_cons, List.append_assoc]
  rfl

/-- A value with no raw break is one line. -/
theorem splitlines_writeLines_cons {v : Json} (vs : List Json) (h : v.BreakFree) :
    splitlines (writeLines (v :: vs)) = dumps v :: splitlines (writeLines vs) := by
  rw [writeLines_cons]
  refine splitlines_break _ (fun c hc => ?_) (by decide) (by decide)
  by_contra hb
  have hb : isLineBreak c = true := by simpa using hb
  have := isRawBreak_of_isLineBreak hb (control_dumps v c hc)
  exact absurd ((breakFree_iff v).1 h c hc) (by simp [this])

/-- A value with a raw break is cut there, and its first line cannot be read. -/
theorem readLines_of_not_breakFree {v : Json} (vs : List Json) (h : ¬v.BreakFree) :
    readLines (writeLines (v :: vs)) = none := by
  have hex : ∃ c ∈ dumps v, isRawBreak c = true := by
    by_contra hno
    exact h ((breakFree_iff v).2 fun c hc => by simpa using fun hr => hno ⟨c, hc, hr⟩)
  -- the first raw break of the text
  obtain ⟨c₀, hc₀, hr₀⟩ := hex
  have hdrop : (dumps v).dropWhile (fun c => !isRawBreak c) ≠ [] := by
    rw [Ne, List.dropWhile_eq_nil_iff]
    exact fun hall => absurd (hall c₀ hc₀) (by simp [hr₀])
  obtain ⟨c, b, hcb⟩ := List.exists_cons_of_ne_nil hdrop
  have hc : isRawBreak c = true := by
    have := List.head?_dropWhile_not (fun c => !isRawBreak c) (dumps v)
    rw [hcb] at this
    simpa using this
  have hv : dumps v = (dumps v).takeWhile (fun c => !isRawBreak c) ++ c :: b := by
    rw [← hcb, List.takeWhile_append_dropWhile]
  have hl : ∀ d ∈ (dumps v).takeWhile (fun c => !isRawBreak c), isLineBreak d = false := by
    intro d hd
    have hd' : isRawBreak d = false := by simpa using List.mem_takeWhile_imp hd
    by_contra hb
    have := isRawBreak_of_isLineBreak (by simpa using hb)
      (control_dumps v d ((List.takeWhile_sublist _).subset hd))
    simp [this] at hd'
  have hlb : isLineBreak c = true := by simp [isLineBreak, hc]
  rw [readLines, writeLines_cons, hv, List.append_assoc, List.cons_append,
    splitlines_break _ hl hlb (by rintro rfl; revert hc; decide), List.mapM_cons,
    loads_cut hv hc]
  rfl

/-- Lines of values are read back when no string holds a raw break. -/
theorem readLines_writeLines {vs : List Json} (hw : ∀ v ∈ vs, v.Wf)
    (hi : ∀ v ∈ vs, v.intsFit = true) (hb : ∀ v ∈ vs, v.BreakFree) :
    readLines (writeLines vs) = some vs := by
  induction vs with
  | nil => rfl
  | cons v vs ih =>
    rw [List.forall_mem_cons] at hw hi hb
    have ih := ih hw.2 hi.2 hb.2
    rw [readLines] at ih ⊢
    rw [splitlines_writeLines_cons vs hb.1, List.mapM_cons, loads_dumps hw.1 hi.1, ih]
    rfl

/-- Lines of values that can be read hold no raw break. -/
theorem breakFree_of_readLines {vs ws : List Json}
    (h : readLines (writeLines vs) = some ws) : ∀ v ∈ vs, v.BreakFree := by
  induction vs generalizing ws with
  | nil => exact fun v hv => absurd hv List.not_mem_nil
  | cons v vs ih =>
    by_cases hv : v.BreakFree
    · rw [readLines, splitlines_writeLines_cons vs hv, List.mapM_cons] at h
      obtain ⟨w, -, h⟩ := Option.bind_eq_some_iff.1 h
      obtain ⟨ws', hws, -⟩ := Option.bind_eq_some_iff.1 h
      exact List.forall_mem_cons.2 ⟨hv, ih hws⟩
    · rw [readLines_of_not_breakFree vs hv] at h
      cases h

/-- Lines of values are read back exactly when no string holds a raw break. -/
theorem readLines_writeLines_iff {vs : List Json} (hw : ∀ v ∈ vs, v.Wf)
    (hi : ∀ v ∈ vs, v.intsFit = true) :
    readLines (writeLines vs) = some vs ↔ ∀ v ∈ vs, v.BreakFree :=
  ⟨breakFree_of_readLines, readLines_writeLines hw hi⟩

/-- What lines of values read as, if they can be read, is those values. -/
theorem readLines_writeLines_eq {vs ws : List Json} (hw : ∀ v ∈ vs, v.Wf)
    (hi : ∀ v ∈ vs, v.intsFit = true) (h : readLines (writeLines vs) = some ws) : ws = vs := by
  rw [readLines_writeLines hw hi (breakFree_of_readLines h)] at h
  exact (Option.some.inj h).symm

end PyJson
