import AnKla.Json.Value

/-!
# Writing JSON

The canonical text of a value: items of an object by increasing key, the
separators `,` and `:` with no space, and every character above the control
range written as itself.

* `escapeChar`: how one character of a string is written.
* `dumps`: the text of a value.

Texts are lists of characters, so that a proof can walk along them.
-/

namespace PyJson

/-- One character inside a string: the quote, the backslash and the control
    characters are escaped, all others stand for themselves. -/
def escapeChar (c : Char) : List Char :=
  if c = '"' then ['\\', '"']
  else if c = '\\' then ['\\', '\\']
  else if c = '\n' then ['\\', 'n']
  else if c = '\r' then ['\\', 'r']
  else if c = '\t' then ['\\', 't']
  else if c.toNat = 0x0c then ['\\', 'f']
  else if c.toNat = 0x08 then ['\\', 'b']
  else if c.toNat < 0x20 then
    ['\\', 'u', '0', '0', (c.toNat / 16).digitChar, (c.toNat % 16).digitChar]
  else [c]

/-- A string between its quotes. -/
def dumpStr (s : String) : List Char := '"' :: (s.toList.flatMap escapeChar ++ ['"'])

/-- An integer in decimal. -/
def dumpInt : ℤ → List Char
  | .ofNat n => Nat.toDigits 10 n
  | .negSucc n => '-' :: Nat.toDigits 10 (n + 1)

mutual

/-- The canonical text of a value. -/
def dumps : Json → List Char
  | .null => ['n', 'u', 'l', 'l']
  | .bool true => ['t', 'r', 'u', 'e']
  | .bool false => ['f', 'a', 'l', 's', 'e']
  | .int i => dumpInt i
  | .float x => x.text
  | .str s => dumpStr s
  | .arr [] => ['[', ']']
  | .arr (x :: xs) => '[' :: (dumps x ++ dumpsArrRest xs)
  | .obj [] => ['{', '}']
  | .obj ((k, x) :: kvs) => '{' :: (dumpStr k ++ ':' :: (dumps x ++ dumpsObjRest kvs))

/-- The later elements of an array and its closing bracket. -/
def dumpsArrRest : List Json → List Char
  | [] => [']']
  | x :: xs => ',' :: (dumps x ++ dumpsArrRest xs)

/-- The later items of an object and its closing brace. -/
def dumpsObjRest : List (String × Json) → List Char
  | [] => ['}']
  | (k, x) :: kvs => ',' :: (dumpStr k ++ ':' :: (dumps x ++ dumpsObjRest kvs))

end

/-! ## Characters outside the string escapes -/

/-- The line separators that canonical text writes as themselves. -/
def isRawBreak (c : Char) : Bool := c.toNat = 0x85 || c.toNat = 0x2028 || c.toNat = 0x2029

mutual

/-- No string of the value, key or content, holds a raw line separator. -/
def Json.BreakFree : Json → Prop
  | .str s => ∀ c ∈ s.toList, isRawBreak c = false
  | .arr xs => BreakFreeList xs
  | .obj kvs => BreakFreeItems kvs
  | _ => True

def Json.BreakFreeList : List Json → Prop
  | [] => True
  | x :: xs => x.BreakFree ∧ BreakFreeList xs

def Json.BreakFreeItems : List (String × Json) → Prop
  | [] => True
  | (k, x) :: xs => (∀ c ∈ k.toList, isRawBreak c = false) ∧ x.BreakFree ∧ BreakFreeItems xs

end

theorem escapeChar_of_isRawBreak {c : Char} (h : isRawBreak c = true) : escapeChar c = [c] := by
  simp only [isRawBreak, Bool.or_eq_true, decide_eq_true_eq] at h
  have hne (d : Char) (hd : d.toNat < 0x80) : c ≠ d := by
    rintro rfl
    omega
  rw [escapeChar, if_neg (hne _ (by decide)), if_neg (hne _ (by decide)),
    if_neg (hne _ (by decide)), if_neg (hne _ (by decide)), if_neg (hne _ (by decide)),
    if_neg (by omega), if_neg (by omega), if_neg (by omega)]

end PyJson
