import Mathlib.Data.List.Basic
import Mathlib.Data.List.TakeWhile
import Mathlib.Tactic.IntervalCases

/-!
# Base64 and hexadecimal

The two ways in which bytes are written as text.

* `b64encode`, `b64decode`: groups of three bytes as four characters, with padding.
* `b64decode_b64encode`: what is written is read back.
* `b64Shape`: the characters of the alphabet, at least one, and at most two signs of
  padding. It is the shape of every text that writes some bytes; no bytes are written
  as the empty text.
* `hex`: two lowercase digits a byte.
-/

namespace Base64

/-- Bytes. -/
abbrev Bytes := List UInt8

/-! ## The alphabet -/

/-- The character of six bits. -/
def sextet (n : ℕ) : Char :=
  if n < 26 then Char.ofNat (65 + n)
  else if n < 52 then Char.ofNat (71 + n)
  else if n < 62 then Char.ofNat (n - 4)
  else if n = 62 then '+'
  else '/'

/-- The six bits of a character. -/
def sextet? (c : Char) : Option ℕ :=
  let n := c.toNat
  if 65 ≤ n ∧ n ≤ 90 then some (n - 65)
  else if 97 ≤ n ∧ n ≤ 122 then some (n - 71)
  else if 48 ≤ n ∧ n ≤ 57 then some (n + 4)
  else if c = '+' then some 62
  else if c = '/' then some 63
  else none

theorem sextet?_sextet {n : ℕ} (h : n < 64) : sextet? (sextet n) = some n := by
  interval_cases n <;> decide

/-- A character of the alphabet. -/
def isSextet (c : Char) : Bool := (sextet? c).isSome

theorem isSextet_sextet {n : ℕ} (h : n < 64) : isSextet (sextet n) = true := by
  rw [isSextet, sextet?_sextet h]
  rfl

/-! ## Groups of bytes -/

/-- `base64.b64encode(raw)`. -/
def b64encode : Bytes → List Char
  | [] => []
  | [a] => [sextet (a.toNat / 4), sextet (a.toNat % 4 * 16), '=', '=']
  | [a, b] =>
    [sextet (a.toNat / 4), sextet (a.toNat % 4 * 16 + b.toNat / 16),
      sextet (b.toNat % 16 * 4), '=']
  | a :: b :: c :: rest =>
    sextet (a.toNat / 4) :: sextet (a.toNat % 4 * 16 + b.toNat / 16) ::
      sextet (b.toNat % 16 * 4 + c.toNat / 64) :: sextet (c.toNat % 64) :: b64encode rest

/-- `base64.b64decode(value, validate=True)`: padding stands only in the last group. -/
def b64decode : List Char → Option Bytes
  | [] => some []
  | w :: x :: y :: z :: rest =>
    match sextet? w, sextet? x with
    | some i, some j =>
      if z = '=' ∧ rest = [] then
        if y = '=' then some [UInt8.ofNat (i * 4 + j / 16)]
        else (sextet? y).map fun k => [UInt8.ofNat (i * 4 + j / 16), UInt8.ofNat (j % 16 * 16 + k / 4)]
      else
        match sextet? y, sextet? z with
        | some k, some l => (b64decode rest).map fun bytes =>
          UInt8.ofNat (i * 4 + j / 16) :: UInt8.ofNat (j % 16 * 16 + k / 4) ::
            UInt8.ofNat (k % 4 * 64 + l) :: bytes
        | _, _ => none
    | _, _ => none
  | _ => none

theorem ofNat_eq (a : UInt8) {n : ℕ} (h : n = a.toNat) : UInt8.ofNat n = a := by
  subst h
  exact UInt8.ofNat_toNat

theorem sextet_ne_pad {n : ℕ} (h : n < 64) : sextet n ≠ '=' := by
  intro he
  have hs := sextet?_sextet h
  rw [he, show sextet? '=' = none by decide] at hs
  cases hs

/-- What is written is read back. -/
theorem b64decode_b64encode (raw : Bytes) : b64decode (b64encode raw) = some raw := by
  fun_induction b64encode raw with
  | case1 => rfl
  | case2 a =>
    have ha := a.toNat_lt
    rw [b64decode, sextet?_sextet (by omega), sextet?_sextet (by omega)]
    simp only [and_self, if_true]
    rw [ofNat_eq a (by omega)]
  | case3 a b =>
    have ha := a.toNat_lt
    have hb := b.toNat_lt
    rw [b64decode, sextet?_sextet (by omega), sextet?_sextet (by omega),
      sextet?_sextet (by omega)]
    simp only [and_self, if_true, if_neg (sextet_ne_pad (n := b.toNat % 16 * 4) (by omega)),
      Option.map_some]
    rw [ofNat_eq a (by omega), ofNat_eq b (by omega)]
  | case4 a b c rest ih =>
    have ha := a.toNat_lt
    have hb := b.toNat_lt
    have hc := c.toNat_lt
    rw [b64decode, sextet?_sextet (by omega), sextet?_sextet (by omega),
      sextet?_sextet (by omega), sextet?_sextet (by omega), ih]
    simp only [sextet_ne_pad (n := c.toNat % 64) (by omega), false_and, if_false, Option.map_some]
    rw [ofNat_eq a (by omega), ofNat_eq b (by omega), ofNat_eq c (by omega)]

/-! ## The shape of an encoding -/

/-- `[A-Za-z0-9+/]+={0,2}`, matched against a whole text. -/
def b64Shape (s : List Char) : Bool :=
  let padding := s.dropWhile isSextet
  s.takeWhile isSextet ≠ [] && (padding = [] || padding = ['='] || padding = ['=', '='])

theorem b64Shape_cons {c : Char} {s : List Char} (hc : isSextet c = true)
    (hs : s = [] ∨ s = ['='] ∨ s = ['=', '='] ∨ b64Shape s = true) : b64Shape (c :: s) = true := by
  rw [b64Shape, List.takeWhile_cons_of_pos hc, List.dropWhile_cons_of_pos hc]
  simp only [ne_eq, reduceCtorEq, not_false_eq_true, decide_true, Bool.true_and]
  obtain rfl | rfl | rfl | hs := hs
  · decide
  · decide
  · decide
  · rw [b64Shape, Bool.and_eq_true] at hs
    exact hs.2

/-- What writes at least one byte has the shape. -/
theorem b64Shape_b64encode (raw : Bytes) : raw = [] ∨ b64Shape (b64encode raw) = true := by
  fun_induction b64encode raw with
  | case1 => exact .inl rfl
  | case2 a =>
    have ha := a.toNat_lt
    refine .inr (b64Shape_cons (isSextet_sextet (by omega)) (.inr (.inr (.inr ?_))))
    exact b64Shape_cons (isSextet_sextet (by omega)) (.inr (.inr (.inl rfl)))
  | case3 a b =>
    have ha := a.toNat_lt
    have hb := b.toNat_lt
    refine .inr (b64Shape_cons (isSextet_sextet (by omega)) (.inr (.inr (.inr ?_))))
    refine b64Shape_cons (isSextet_sextet (by omega)) (.inr (.inr (.inr ?_)))
    exact b64Shape_cons (isSextet_sextet (by omega)) (.inr (.inl rfl))
  | case4 a b c rest ih =>
    have ha := a.toNat_lt
    have hb := b.toNat_lt
    have hc := c.toNat_lt
    refine .inr (b64Shape_cons (isSextet_sextet (by omega)) (.inr (.inr (.inr ?_))))
    refine b64Shape_cons (isSextet_sextet (by omega)) (.inr (.inr (.inr ?_)))
    refine b64Shape_cons (isSextet_sextet (by omega)) (.inr (.inr (.inr ?_)))
    refine b64Shape_cons (isSextet_sextet (by omega)) ?_
    obtain rfl | ih := ih
    · exact .inl rfl
    · exact .inr (.inr (.inr ih))

/-- `_decode_canonical_b64`: the bytes of a text that is exactly how they are written. -/
def decodeCanonical (value : List Char) : Option Bytes :=
  (b64decode value).filter fun raw => b64encode raw = value

theorem decodeCanonical_iff {value : List Char} {raw : Bytes} :
    decodeCanonical value = some raw ↔ value = b64encode raw := by
  rw [decodeCanonical, Option.filter_eq_some_iff, decide_eq_true_eq]
  constructor
  · exact fun h => h.2.symm
  · rintro rfl
    exact ⟨b64decode_b64encode raw, rfl⟩

/-- A canonical text has the shape, unless it is empty. -/
theorem b64Shape_of_canonical {value : List Char} (h : (decodeCanonical value).isSome = true) :
    b64Shape value = true ↔ value ≠ [] := by
  obtain ⟨raw, hraw⟩ := Option.isSome_iff_exists.1 h
  obtain rfl := decodeCanonical_iff.1 hraw
  constructor
  · rintro hs he
    rw [he] at hs
    exact absurd hs (by decide)
  · intro hne
    obtain rfl | hs := b64Shape_b64encode raw
    · exact absurd rfl hne
    · exact hs

/-! ## Hexadecimal -/

/-- `raw.hex()`: two lowercase digits a byte. -/
def hex (raw : Bytes) : List Char :=
  raw.flatMap fun b => [(b.toNat / 16).digitChar, (b.toNat % 16).digitChar]

/-- A lowercase hexadecimal digit. -/
def isHexDigit (c : Char) : Bool := c.isDigit || ('a' ≤ c && c ≤ 'f')

theorem isHexDigit_digitChar {n : ℕ} (h : n < 16) : isHexDigit n.digitChar = true := by
  interval_cases n <;> decide

theorem length_hex (raw : Bytes) : (hex raw).length = 2 * raw.length := by
  induction raw with
  | nil => rfl
  | cons b raw ih =>
    rw [hex, List.flatMap_cons, List.length_append, ← hex, ih, List.length_cons]
    simp only [List.length_cons, List.length_nil]
    omega

theorem isHexDigit_hex (raw : Bytes) : (hex raw).all isHexDigit = true := by
  rw [List.all_eq_true]
  intro c hc
  obtain ⟨b, -, hc⟩ := List.mem_flatMap.1 hc
  have hb := b.toNat_lt
  simp only [List.mem_cons, List.not_mem_nil, or_false] at hc
  obtain rfl | rfl := hc
  · exact isHexDigit_digitChar (by omega)
  · exact isHexDigit_digitChar (by omega)

end Base64
