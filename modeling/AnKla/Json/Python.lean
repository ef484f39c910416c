import AnKla.Json.Parse

/-!
# What the host language reads as JSON

`json.loads` takes more than JSON: `NaN` and the infinities, and the escapes of lone surrogates. And
it fails in three ways, of which only one says that the text is no JSON.

* `PyValue`: what it returns.
* `LoadsError`: how it fails.
* `py_loads`: the text that is read, with so many levels of nesting at most.
* `PyValue.encode`: the JSON value that `json.dumps` writes, if it does.
-/

namespace PyJson

/-- A value of the host language. A string is a list of code points. -/
inductive PyValue
  | null
  | bool (b : Bool)
  | int (i : ℤ)
  | float (x : FloatText)
  /-- `NaN`, `Infinity` or `-Infinity`. -/
  | special (name : List Char)
  | str (s : List ℕ)
  | arr (xs : List PyValue)
  | obj (kvs : List (List ℕ × PyValue))

/-- How `json.loads` fails. -/
inductive LoadsError
  /-- `JSONDecodeError`. -/
  | decode
  /-- `ValueError`: an integer of too many digits. -/
  | digits
  /-- `RecursionError`. -/
  | recursion
  deriving DecidableEq, Repr

/-- The code points of a text. -/
def codes (s : List Char) : List ℕ := s.map Char.toNat

/-! ## Strings -/

def consCode (n : ℕ) (p : List ℕ × List Char) : List ℕ × List Char := (n :: p.1, p.2)

/-- The low surrogate that an escape writes. -/
def lowSurrogate (x y l₁ l₂ l₃ l₄ : Char) : Option ℕ :=
  if x = '\\' ∧ y = 'u' then (hex4 l₁ l₂ l₃ l₄).filter fun m => 0xDC00 ≤ m ∧ m < 0xE000 else none

/-- A string after its opening quote: its code points, and the text after the closing quote. -/
def pyString : List Char → Option (List ℕ × List Char)
  | [] => none
  | c :: s =>
    if c = '"' then some ([], s)
    else if c = '\\' then
      match s with
      | [] => none
      | e :: s =>
        match simpleEscape e with
        | some c' => (pyString s).map (consCode c'.toNat)
        | none =>
          if e = 'u' then
            match s with
            | h₁ :: h₂ :: h₃ :: h₄ :: s =>
              match hex4 h₁ h₂ h₃ h₄ with
              | none => none
              | some n =>
                if 0xD800 ≤ n ∧ n < 0xDC00 then
                  match s with
                  | x :: y :: l₁ :: l₂ :: l₃ :: l₄ :: t =>
                    match lowSurrogate x y l₁ l₂ l₃ l₄ with
                    | some m =>
                      (pyString t).map (consCode (0x10000 + (n - 0xD800) * 0x400 + (m - 0xDC00)))
                    | none => (pyString (x :: y :: l₁ :: l₂ :: l₃ :: l₄ :: t)).map (consCode n)
                  | _ => none
                else (pyString s).map (consCode n)
            | _ => none
          else none
    else if c.toNat < 0x20 then none
    else (pyString s).map (consCode c.toNat)

/-! ## Values -/

/-- A literal name, whose first letter has been read. -/
def pyLit (rest : List Char) (v : PyValue) (s : List Char) : Except LoadsError (PyValue × List Char) :=
  if rest.isPrefixOf s then .ok (v, s.drop rest.length) else .error .decode

def pyNumber (s : List Char) : Except LoadsError (PyValue × List Char) :=
  match lexNumber s with
  | none => .error .decode
  | some (i, fe, r) =>
    if fe = [] then
      if digitCount i ≤ maxIntDigits then .ok (.int (intOf i), r) else .error .digits
    else if h : isFloatText (i ++ fe) = true then .ok (.float ⟨i ++ fe, h⟩, r)
    else .error .decode

/-- The items of a dictionary, the last item of a key winning. -/
def lastItems (kvs : List (List ℕ × PyValue)) : List (List ℕ × PyValue) :=
  kvs.foldr (fun kv rest => if kv.1 ∈ rest.map Prod.fst then rest else kv :: rest) []

mutual

/-- A value at the start of a text, and the rest. The first argument bounds the depth of the
recursion, the second one is how many levels the interpreter may still enter. -/
def pyValue : ℕ → ℕ → List Char → Except LoadsError (PyValue × List Char)
  | 0, _, _ => .error .decode
  | _ + 1, _, [] => .error .decode
  | n + 1, levels, c :: s =>
    if c = '"' then
      match pyString s with
      | some (t, r) => .ok (.str t, r)
      | none => .error .decode
    else if c = '{' then
      match levels with
      | 0 => .error .recursion
      | levels + 1 =>
        match skipWs s with
        | [] => .error .decode
        | e :: r =>
          if e = '}' then .ok (.obj [], r)
          else do
            let (kv, r) ← pyItem n levels (e :: r)
            let (kvs, r) ← pyObjRest n levels (skipWs r)
            return (.obj (lastItems (kv :: kvs)), r)
    else if c = '[' then
      match levels with
      | 0 => .error .recursion
      | levels + 1 =>
        match skipWs s with
        | [] => .error .decode
        | e :: r =>
          if e = ']' then .ok (.arr [], r)
          else do
            let (x, r) ← pyValue n levels (e :: r)
            let (xs, r) ← pyArrRest n levels (skipWs r)
            return (.arr (x :: xs), r)
    else if c = 'n' then pyLit ['u', 'l', 'l'] .null s
    else if c = 't' then pyLit ['r', 'u', 'e'] (.bool true) s
    else if c = 'f' then pyLit ['a', 'l', 's', 'e'] (.bool false) s
    else if c = 'N' then pyLit ['a', 'N'] (.special "NaN".toList) s
    else if c = 'I' then pyLit "nfinity".toList (.special "Infinity".toList) s
    else if c = '-' ∧ "Infinity".toList.isPrefixOf s = true then
      .ok (.special "-Infinity".toList, s.drop 8)
    else pyNumber (c :: s)

/-- One item of an object: a key, a colon and a value. -/
def pyItem : ℕ → ℕ → List Char → Except LoadsError ((List ℕ × PyValue) × List Char)
  | 0, _, _ => .error .decode
  | _ + 1, _, [] => .error .decode
  | n + 1, levels, c :: s =>
    if c = '"' then
      match pyString s with
      | none => .error .decode
      | some (k, r) =>
        match skipWs r with
        | [] => .error .decode
        | e :: r =>
          if e = ':' then do
            let (v, r) ← pyValue n levels (skipWs r)
            return ((k, v), r)
          else .error .decode
    else .error .decode

/-- The later elements of an array, up to its closing bracket. -/
def pyArrRest : ℕ → ℕ → List Char → Except LoadsError (List PyValue × List Char)
  | 0, _, _ => .error .decode
  | _ + 1, _, [] => .error .decode
  | n + 1, levels, c :: s =>
    if c = ']' then .ok ([], s)
    else if c = ',' then do
      let (x, r) ← pyValue n levels (skipWs s)
      let (xs, r) ← pyArrRest n levels (skipWs r)
      return (x :: xs, r)
    else .error .decode

/-- The later items of an object, up to its closing brace. -/
def pyObjRest : ℕ → ℕ → List Char → Except LoadsError (List (List ℕ × PyValue) × List Char)
  | 0, _, _ => .error .decode
  | _ + 1, _, [] => .error .decode
  | n + 1, levels, c :: s =>
    if c = '}' then .ok ([], s)
    else if c = ',' then do
      let (kv, r) ← pyItem n levels (skipWs s)
      let (kvs, r) ← pyObjRest n levels (skipWs r)
      return (kv :: kvs, r)
    else .error .decode

end

/-- `json.loads(text)`, with so many levels of nesting at most. -/
def py_loads (levels : ℕ) (s : List Char) : Except LoadsError PyValue :=
  match pyValue (s.length + 1) levels (skipWs s) with
  | .error e => .error e
  | .ok (v, r) => if skipWs r = [] then .ok v else .error .decode

/-! ## Writing -/

/-- What the JSON module takes from its interpreter: how deep it reads and writes, and the text of
a float, if it is finite. -/
structure Interpreter where
  loads_levels : ℕ
  dumps_levels : ℕ
  repr : FloatText → Option FloatText

/-- The text of code points, without lone surrogates. -/
def charsOf (s : List ℕ) : Option (List Char) :=
  s.mapM fun n => if n.isValidChar then some (Char.ofNat n) else none

section

variable (F : Interpreter)

mutual

/-- The value that `json.dumps(value, allow_nan=False).encode("utf-8")` writes, if it raises
nothing, within so many levels. -/
def PyValue.encode : ℕ → PyValue → Option Json
  | _, .null => some .null
  | _, .bool b => some (.bool b)
  | _, .int i => some (.int i)
  | _, .float x => (F.repr x).map .float
  | _, .special _ => none
  | _, .str s => (charsOf s).map fun t => .str (String.ofList t)
  | 0, .arr _ => none
  | levels + 1, .arr xs => (encodeList levels xs).map .arr
  | 0, .obj _ => none
  | levels + 1, .obj kvs => (encodeItems levels kvs).map fun items => .obj (Json.ofItems items)

def encodeList : ℕ → List PyValue → Option (List Json)
  | _, [] => some []
  | levels, x :: xs => do
    let v ← x.encode levels
    let vs ← encodeList levels xs
    return v :: vs

def encodeItems : ℕ → List (List ℕ × PyValue) → Option (List (String × Json))
  | _, [] => some []
  | levels, (k, x) :: kvs => do
    let key ← charsOf k
    let v ← x.encode levels
    let items ← encodeItems levels kvs
    return (String.ofList key, v) :: items

end

end

/-! ## Dictionaries -/

namespace PyValue

/-- `value.get(key)`, for a dictionary. -/
def get? : PyValue → String → Option PyValue
  | .obj kvs, k => (kvs.find? fun kv => kv.1 = codes k.toList).map Prod.snd
  | _, _ => none

/-- `isinstance(value, dict) and set(value) == keys`. -/
def exact_keys : PyValue → List String → Bool
  | .obj kvs, keys => kvs.all (fun kv => keys.any fun k => kv.1 = codes k.toList) &&
      keys.all fun k => kvs.any fun kv => kv.1 = codes k.toList
  | _, _ => false

/-- `{k: v for k, v in value.items() if k != key}`. -/
def without : PyValue → String → PyValue
  | .obj kvs, k => .obj (kvs.filter fun kv => kv.1 ≠ codes k.toList)
  | v, _ => v

end PyValue

end PyJson
