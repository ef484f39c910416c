import AnKla.Json.Text

/-!
# Reading JSON

A recursive-descent reader of the whole JSON syntax: white space between
tokens, the escapes of a string with surrogate pairs, numbers as the host
language lexes them, later items of an object overriding earlier ones.

A lone surrogate escape has no Unicode scalar value and is refused here, as are
the constants `NaN` and `Infinity`, which are not JSON.
-/

namespace PyJson

/-- White space between tokens. -/
def isWs (c : Char) : Bool := c = ' ' || c = '\t' || c = '\n' || c = '\r'

def skipWs (s : List Char) : List Char := s.dropWhile isWs

/-! ## Strings -/

def hexVal (c : Char) : Option ℕ :=
  if '0' ≤ c ∧ c ≤ '9' then some (c.toNat - 48)
  else if 'a' ≤ c ∧ c ≤ 'f' then some (c.toNat - 87)
  else if 'A' ≤ c ∧ c ≤ 'F' then some (c.toNat - 55)
  else none

/-- The number four hexadecimal digits write. -/
def hex4 (a b c d : Char) : Option ℕ :=
  match hexVal a, hexVal b, hexVal c, hexVal d with
  | some a, some b, some c, some d => some (((a * 16 + b) * 16 + c) * 16 + d)
  | _, _, _, _ => none

/-- The escapes of one letter. -/
def simpleEscape (e : Char) : Option Char :=
  if e = '"' then some '"'
  else if e = '\\' then some '\\'
  else if e = '/' then some '/'
  else if e = 'b' then some (Char.ofNat 0x08)
  else if e = 'f' then some (Char.ofNat 0x0c)
  else if e = 'n' then some '\n'
  else if e = 'r' then some '\r'
  else if e = 't' then some '\t'
  else none

/-- Put a character before the string read so far. -/
def consChar (c : Char) (p : List Char × List Char) : List Char × List Char := (c :: p.1, p.2)

/-- A string after its opening quote: its characters, and the text after the
    closing quote. -/
def parseString : List Char → Option (List Char × List Char)
  | [] => none
  | c :: s =>
    if c = '"' then some ([], s)
    else if c = '\\' then
      match s with
      | [] => none
      | e :: s =>
        match simpleEscape e with
        | some c' => (parseString s).map (consChar c')
        | none =>
          if e = 'u' then
            match s with
            | h₁ :: h₂ :: h₃ :: h₄ :: s =>
              match hex4 h₁ h₂ h₃ h₄ with
              | none => none
              | some n =>
                if 0xD800 ≤ n ∧ n < 0xDC00 then
                  match s with
                  | x :: y :: l₁ :: l₂ :: l₃ :: l₄ :: s =>
                    match hex4 l₁ l₂ l₃ l₄ with
                    | none => none
                    | some m =>
                      if x = '\\' ∧ y = 'u' ∧ 0xDC00 ≤ m ∧ m < 0xE000 then
                        (parseString s).map
                          (consChar (Char.ofNat (0x10000 + (n - 0xD800) * 0x400 + (m - 0xDC00))))
                      else none
                  | _ => none
                else if 0xDC00 ≤ n ∧ n < 0xE000 then none
                else (parseString s).map (consChar (Char.ofNat n))
            | _ => none
          else none
    else if c.toNat < 0x20 then none
    else (parseString s).map (consChar c)

/-! ## Numbers -/

/-- The most digits the host language converts to an integer. -/
def maxIntDigits : ℕ := 4300

/-- The integer a sign and decimal digits write. -/
def intOf : List Char → ℤ
  | [] => 0
  | c :: s => if c = '-' then -(Nat.ofDigitChars 10 s 0) else Nat.ofDigitChars 10 (c :: s) 0

def digitCount (s : List Char) : ℕ := s.countP Char.isDigit

def parseNumber (s : List Char) : Option (Json × List Char) :=
  match lexNumber s with
  | none => none
  | some (i, fe, r) =>
    if fe = [] then
      if digitCount i ≤ maxIntDigits then some (.int (intOf i), r) else none
    else if h : isFloatText (i ++ fe) = true then some (.float ⟨i ++ fe, h⟩, r)
    else none

/-! ## Values -/

/-- A literal name, whose first letter has been read. -/
def parseLit (rest : List Char) (v : Json) (s : List Char) : Option (Json × List Char) :=
  if rest.isPrefixOf s then some (v, s.drop rest.length) else none

mutual

/-- A value at the start of a text, and the rest. The first argument bounds the
    depth of the recursion: it decreases with every character that opens a
    value or an element. -/
def parseValue : ℕ → List Char → Option (Json × List Char)
  | 0, _ => none
  | _ + 1, [] => none
  | n + 1, c :: s =>
    if c = '"' then (parseString s).map fun p => (.str (String.ofList p.1), p.2)
    else if c = '{' then
      match skipWs s with
      | [] => none
      | d :: r =>
        if d = '}' then some (.obj [], r)
        else (parseItem n (d :: r)).bind fun p =>
          (parseObjRest n (skipWs p.2)).map fun q => (.obj (Json.ofItems (p.1 :: q.1)), q.2)
    else if c = '[' then
      match skipWs s with
      | [] => none
      | d :: r =>
        if d = ']' then some (.arr [], r)
        else (parseValue n (d :: r)).bind fun p =>
          (parseArrRest n (skipWs p.2)).map fun q => (.arr (p.1 :: q.1), q.2)
    else if c = 'n' then parseLit ['u', 'l', 'l'] .null s
    else if c = 't' then parseLit ['r', 'u', 'e'] (.bool true) s
    else if c = 'f' then parseLit ['a', 'l', 's', 'e'] (.bool false) s
    else parseNumber (c :: s)

/-- One item of an object: a key, a colon and a value. -/
def parseItem : ℕ → List Char → Option ((String × Json) × List Char)
  | 0, _ => none
  | _ + 1, [] => none
  | n + 1, c :: s =>
    if c = '"' then
      (parseString s).bind fun p =>
        match skipWs p.2 with
        | [] => none
        | d :: r =>
          if d = ':' then
            (parseValue n (skipWs r)).map fun q => ((String.ofList p.1, q.1), q.2)
          else none
    else none

/-- The later elements of an array, up to its closing bracket. -/
def parseArrRest : ℕ → List Char → Option (List Json × List Char)
  | 0, _ => none
  | _ + 1, [] => none
  | n + 1, c :: s =>
    if c = ']' then some ([], s)
    else if c = ',' then
      (parseValue n (skipWs s)).bind fun p =>
        (parseArrRest n (skipWs p.2)).map fun q => (p.1 :: q.1, q.2)
    else none

/-- The later items of an object, up to its closing brace. -/
def parseObjRest : ℕ → List Char → Option (List (String × Json) × List Char)
  | 0, _ => none
  | _ + 1, [] => none
  | n + 1, c :: s =>
    if c = '}' then some ([], s)
    else if c = ',' then
      (parseItem n (skipWs s)).bind fun p =>
        (parseObjRest n (skipWs p.2)).map fun q => (p.1 :: q.1, q.2)
    else none

end

mutual

/-- Every integer of the value is short enough to be read back. -/
def Json.intsFit : Json → Bool
  | .int i => decide (digitCount (dumpInt i) ≤ maxIntDigits)
  | .arr xs => intsFitList xs
  | .obj kvs => intsFitItems kvs
  | _ => true

def Json.intsFitList : List Json → Bool
  | [] => true
  | x :: xs => x.intsFit && intsFitList xs

def Json.intsFitItems : List (String × Json) → Bool
  | [] => true
  | (_, x) :: kvs => x.intsFit && intsFitItems kvs

end

theorem Json.intsFitList_iff {xs : List Json} :
    intsFitList xs = true ↔ ∀ x ∈ xs, x.intsFit = true := by
  induction xs with
  | nil => simp [intsFitList]
  | cons x xs ih => simp [intsFitList, ih]

theorem Json.intsFitItems_iff {kvs : List (String × Json)} :
    intsFitItems kvs = true ↔ ∀ kv ∈ kvs, kv.2.intsFit = true := by
  induction kvs with
  | nil => simp [intsFitItems]
  | cons kv kvs ih => simp [intsFitItems, ih]

/-- `json.loads`: one value, with nothing but white space around it. -/
def loads (s : List Char) : Option Json :=
  (parseValue (s.length + 1) (skipWs s)).bind fun p =>
    if skipWs p.2 = [] then some p.1 else none

end PyJson
