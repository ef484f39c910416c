import Mathlib.Order.Basic
import Mathlib.Data.String.Basic
import Mathlib.Data.List.Basic

/-!
# JSON values

The values a JSON text denotes, with the distinctions a dynamically typed
program draws: integers are unbounded and apart from floats, and a string holds
Unicode scalar values.

An object is a dictionary: what matters is which keys it has, each once, not
the order they were inserted in. Its items are listed by increasing key
(`Json.Wf`), so that two objects are equal as dictionaries exactly when they are
equal here.

A finite float is represented by the text it is written as (`FloatText`), the
shortest one that reads back as the same number: values and such texts are in
bijection. Infinities and NaN are not JSON values.
-/

namespace PyJson

/-- What holds of all the characters of a text is decided along the text, not over all characters. -/
instance (priority := high) decidableForallMem (s : List Char) (p : Char → Prop) [DecidablePred p] :
    Decidable (∀ c ∈ s, p c) :=
  List.decidableBAll p s

/-- The code points of texts, and the parts of paths, are compared as lists of numbers. -/
instance lawfulBEqNumbers : LawfulBEq (List ℕ) := inferInstance

/-! ## Number tokens -/

/-- The decimal digits at the start of a text, and the rest. -/
def lexDigits (s : List Char) : List Char × List Char :=
  (s.takeWhile Char.isDigit, s.dropWhile Char.isDigit)

/-- The integer part of a number: `-?(?:0|[1-9][0-9]*)`. -/
def lexNat : List Char → Option (List Char × List Char)
  | [] => none
  | c :: s =>
    if c = '0' then some (['0'], s)
    else if c.isDigit then some (lexDigits (c :: s))
    else none

/-- The optional sign, then the integer part. -/
def lexInt : List Char → Option (List Char × List Char)
  | [] => none
  | c :: s =>
    if c = '-' then (lexNat s).map fun (ds, r) => ('-' :: ds, r)
    else lexNat (c :: s)

/-- The optional fraction: `(?:\.[0-9]+)?`. -/
def lexFrac : List Char → List Char × List Char
  | [] => ([], [])
  | c :: s =>
    if c = '.' ∧ (lexDigits s).1 ≠ [] then ('.' :: (lexDigits s).1, (lexDigits s).2)
    else ([], c :: s)

/-- The optional sign of an exponent. -/
def lexSign : List Char → List Char × List Char
  | [] => ([], [])
  | c :: s => if c = '+' ∨ c = '-' then ([c], s) else ([], c :: s)

/-- The optional exponent: `(?:[eE][-+]?[0-9]+)?`. -/
def lexExp : List Char → List Char × List Char
  | [] => ([], [])
  | c :: s =>
    let (sign, r) := lexSign s
    if (c = 'e' ∨ c = 'E') ∧ (lexDigits r).1 ≠ [] then
      (c :: sign ++ (lexDigits r).1, (lexDigits r).2)
    else ([], c :: s)

/-- A number: its integer part, its fraction and exponent together, and the rest. -/
def lexNumber (s : List Char) : Option (List Char × List Char × List Char) :=
  (lexInt s).map fun (i, r) =>
    let (f, r) := lexFrac r
    let (e, r) := lexExp r
    (i, f ++ e, r)

/-- A text that is one number, with a fraction or an exponent: a float, not an integer. -/
def isFloatText (s : List Char) : Bool :=
  match lexNumber s with
  | some (_, fe, []) => !fe.isEmpty
  | _ => false

/-- A finite float, by the text it is written as. -/
structure FloatText where
  text : List Char
  wf : isFloatText text = true
  deriving DecidableEq

/-! ## Values -/

/-- A JSON value. -/
inductive Json
  | null
  | bool (b : Bool)
  | int (i : ℤ)
  | float (x : FloatText)
  | str (s : String)
  | arr (xs : List Json)
  | obj (kvs : List (String × Json))
  deriving Inhabited

namespace Json

mutual

/-- Equality of JSON values is decidable. -/
def decEq : (v w : Json) → Decidable (v = w)
  | .null, .null => isTrue rfl
  | .bool a, .bool b => decidable_of_iff (a = b) (by simp)
  | .int a, .int b => decidable_of_iff (a = b) (by simp)
  | .float a, .float b => decidable_of_iff (a = b) (by simp)
  | .str a, .str b => decidable_of_iff (a = b) (by simp)
  | .arr a, .arr b => @decidable_of_iff _ (a = b) (by simp) (decEqList a b)
  | .obj a, .obj b => @decidable_of_iff _ (a = b) (by simp) (decEqItems a b)
  | .null, .bool _ | .null, .int _ | .null, .float _ | .null, .str _ | .null, .arr _
  | .null, .obj _ | .bool _, .null | .bool _, .int _ | .bool _, .float _ | .bool _, .str _
  | .bool _, .arr _ | .bool _, .obj _ | .int _, .null | .int _, .bool _ | .int _, .float _
  | .int _, .str _ | .int _, .arr _ | .int _, .obj _ | .float _, .null | .float _, .bool _
  | .float _, .int _ | .float _, .str _ | .float _, .arr _ | .float _, .obj _ | .str _, .null
  | .str _, .bool _ | .str _, .int _ | .str _, .float _ | .str _, .arr _ | .str _, .obj _
  | .arr _, .null | .arr _, .bool _ | .arr _, .int _ | .arr _, .float _ | .arr _, .str _
  | .arr _, .obj _ | .obj _, .null | .obj _, .bool _ | .obj _, .int _ | .obj _, .float _
  | .obj _, .str _ | .obj _, .arr _ => isFalse (by simp)

def decEqList : (xs ys : List Json) → Decidable (xs = ys)
  | [], [] => isTrue rfl
  | [], _ :: _ | _ :: _, [] => isFalse (by simp)
  | x :: xs, y :: ys =>
    @decidable_of_iff _ (x = y ∧ xs = ys) (by simp)
      (@instDecidableAnd _ _ (decEq x y) (decEqList xs ys))

def decEqItems : (xs ys : List (String × Json)) → Decidable (xs = ys)
  | [], [] => isTrue rfl
  | [], _ :: _ | _ :: _, [] => isFalse (by simp)
  | (k, x) :: xs, (l, y) :: ys =>
    @decidable_of_iff _ (k = l ∧ x = y ∧ xs = ys) (by simp [and_assoc])
      (@instDecidableAnd _ _ _ (@instDecidableAnd _ _ (decEq x y) (decEqItems xs ys)))

end

instance : DecidableEq Json := decEq

/-! ### Objects as dictionaries -/

/-- The keys of a list of items are in increasing order, each occurring once. -/
def KeysSorted (kvs : List (String × Json)) : Prop := kvs.Pairwise fun a b => a.1 < b.1

instance (kvs : List (String × Json)) : Decidable (KeysSorted kvs) := by
  unfold KeysSorted; infer_instance

mutual

/-- Every object in the value lists its keys in order, each once. -/
def Wf : Json → Prop
  | .arr xs => WfList xs
  | .obj kvs => KeysSorted kvs ∧ WfItems kvs
  | _ => True

def WfList : List Json → Prop
  | [] => True
  | x :: xs => x.Wf ∧ WfList xs

def WfItems : List (String × Json) → Prop
  | [] => True
  | (_, x) :: xs => x.Wf ∧ WfItems xs

end

mutual

def decWf : (v : Json) → Decidable v.Wf
  | .arr xs => by rw [Wf]; exact decWfList xs
  | .obj kvs => by rw [Wf]; exact @instDecidableAnd _ _ _ (decWfItems kvs)
  | .null | .bool _ | .int _ | .float _ | .str _ => isTrue (by simp [Wf])

def decWfList : (xs : List Json) → Decidable (WfList xs)
  | [] => isTrue (by simp [WfList])
  | x :: xs => by rw [WfList]; exact @instDecidableAnd _ _ (decWf x) (decWfList xs)

def decWfItems : (xs : List (String × Json)) → Decidable (WfItems xs)
  | [] => isTrue (by simp [WfItems])
  | (_, x) :: xs => by rw [WfItems]; exact @instDecidableAnd _ _ (decWf x) (decWfItems xs)

end

instance : DecidablePred Wf := decWf

/-- `d[key] = value` for a key that later items of the text may override: the
    item is only inserted where its key does not occur yet. -/
def insertItem (k : String) (v : Json) : List (String × Json) → List (String × Json)
  | [] => [(k, v)]
  | (l, w) :: kvs =>
    if k < l then (k, v) :: (l, w) :: kvs
    else if k = l then (l, w) :: kvs
    else (l, w) :: insertItem k v kvs

/-- The dictionary of a list of items, the last item of a key winning. -/
def ofItems : List (String × Json) → List (String × Json)
  | [] => []
  | (k, v) :: kvs => insertItem k v (ofItems kvs)

theorem ofItems_of_sorted {kvs : List (String × Json)} (h : KeysSorted kvs) :
    ofItems kvs = kvs := by
  induction kvs with
  | nil => rfl
  | cons kv kvs ih =>
    obtain ⟨k, v⟩ := kv
    rw [KeysSorted, List.pairwise_cons] at h
    rw [ofItems, ih h.2]
    cases kvs with
    | nil => rfl
    | cons lw kvs => rw [insertItem, if_pos (h.1 lw List.mem_cons_self)]

theorem mem_insertItem {k : String} {v : Json} {kvs : List (String × Json)} {kv : String × Json}
    (h : kv ∈ insertItem k v kvs) : kv = (k, v) ∨ kv ∈ kvs := by
  induction kvs with
  | nil => exact .inl (List.mem_singleton.1 h)
  | cons lw kvs ih =>
    rw [insertItem] at h
    split_ifs at h
    · exact List.mem_cons.1 h
    · exact .inr h
    · obtain rfl | h := List.mem_cons.1 h
      · exact .inr List.mem_cons_self
      · exact (ih h).imp id (List.mem_cons_of_mem _)

theorem keysSorted_insertItem {k : String} {v : Json} {kvs : List (String × Json)}
    (h : KeysSorted kvs) : KeysSorted (insertItem k v kvs) := by
  induction kvs with
  | nil => exact List.pairwise_singleton _ _
  | cons lw kvs ih =>
    obtain ⟨l, w⟩ := lw
    rw [KeysSorted, List.pairwise_cons] at h
    rw [insertItem]
    split_ifs with hkl hkl'
    · refine List.pairwise_cons.2 ⟨fun kv hkv => ?_, List.pairwise_cons.2 h⟩
      obtain rfl | hkv := List.mem_cons.1 hkv
      · exact hkl
      · exact hkl.trans (h.1 kv hkv)
    · exact List.pairwise_cons.2 h
    · refine List.pairwise_cons.2 ⟨fun kv hkv => ?_, ih h.2⟩
      obtain rfl | hkv := mem_insertItem hkv
      · exact lt_of_le_of_ne (not_lt.1 hkl) fun he => hkl' he.symm
      · exact h.1 kv hkv

theorem keysSorted_ofItems (kvs : List (String × Json)) : KeysSorted (ofItems kvs) := by
  induction kvs with
  | nil => exact List.Pairwise.nil
  | cons kv kvs ih => exact keysSorted_insertItem ih

/-- Under a new key, the items of a dictionary are the old ones and the new one. -/
theorem perm_insertItem {k : String} {v : Json} {kvs : List (String × Json)}
    (h : k ∉ kvs.map Prod.fst) : (insertItem k v kvs).Perm ((k, v) :: kvs) := by
  induction kvs with
  | nil => exact List.Perm.refl _
  | cons lw kvs ih =>
    obtain ⟨l, w⟩ := lw
    rw [List.map_cons, List.mem_cons, not_or] at h
    rw [insertItem, if_neg h.1]
    split_ifs
    · exact List.Perm.refl _
    · exact ((ih h.2).cons _).trans (List.Perm.swap _ _ _)

/-- Items under distinct keys are the items of their dictionary, in another order. -/
theorem perm_ofItems {kvs : List (String × Json)} (h : (kvs.map Prod.fst).Nodup) :
    (ofItems kvs).Perm kvs := by
  induction kvs with
  | nil => exact List.Perm.refl _
  | cons kv kvs ih =>
    rw [List.map_cons, List.nodup_cons] at h
    have hperm := ih h.2
    refine (perm_insertItem ?_).trans (hperm.cons _)
    rw [(hperm.map Prod.fst).mem_iff]
    exact h.1

theorem WfItems_iff {kvs : List (String × Json)} : WfItems kvs ↔ ∀ kv ∈ kvs, kv.2.Wf := by
  induction kvs with
  | nil => simp [WfItems]
  | cons kv kvs ih => rw [WfItems, ih, List.forall_mem_cons]

theorem WfList_iff {xs : List Json} : WfList xs ↔ ∀ x ∈ xs, x.Wf := by
  induction xs with
  | nil => simp [WfList]
  | cons x xs ih => rw [WfList, ih, List.forall_mem_cons]

/-- `value.get(key)`: the item of a key, for an object. -/
def get? : Json → String → Option Json
  | .obj kvs, k => (kvs.find? fun kv => kv.1 = k).map Prod.snd
  | _, _ => none

/-- The keys of an object. -/
def keys : Json → List String
  | .obj kvs => kvs.map Prod.fst
  | _ => []

/-- `isinstance(value, dict)`. -/
def isObj : Json → Bool
  | .obj _ => true
  | _ => false

/-- `{**value, key: item}`: an object with one item set. -/
def set : Json → String → Json → Json
  | .obj kvs, k, v => .obj (insertItem k v (kvs.filter fun kv => kv.1 ≠ k))
  | w, _, _ => w

theorem find?_insertItem (k : String) (v : Json) (kvs : List (String × Json))
    (h : ∀ kv ∈ kvs, kv.1 ≠ k) :
    ((insertItem k v kvs).find? fun kv => kv.1 = k) = some (k, v) := by
  induction kvs with
  | nil => simp [insertItem]
  | cons kv kvs ih =>
    obtain ⟨l, w⟩ := kv
    have hl : l ≠ k := h _ List.mem_cons_self
    rw [insertItem]
    split_ifs with h1 h2
    · simp
    · exact absurd h2.symm hl
    · rw [List.find?_cons_of_neg (by simpa using hl)]
      exact ih fun kv hkv => h kv (List.mem_cons_of_mem _ hkv)

/-- An object that an item was set in has the item. -/
theorem get?_set {v : Json} (hv : v.isObj = true) (k : String) (x : Json) :
    (v.set k x).get? k = some x := by
  cases v with
  | obj kvs =>
    have hne : ∀ kv ∈ kvs.filter fun kv => kv.1 ≠ k, kv.1 ≠ k := fun kv hkv =>
      of_decide_eq_true (List.mem_filter.1 hkv).2
    rw [set, get?, find?_insertItem k x _ hne]
    rfl
  | _ => cases hv

theorem find?_insertItem_ne {k l : String} (hl : l ≠ k) (v : Json) (kvs : List (String × Json)) :
    ((insertItem k v kvs).find? fun kv => kv.1 = l) = kvs.find? fun kv => kv.1 = l := by
  induction kvs with
  | nil => simp [insertItem, hl.symm]
  | cons kv kvs ih =>
    obtain ⟨m, w⟩ := kv
    rw [insertItem]
    split_ifs with h1 h2
    · rw [List.find?_cons_of_neg (by simpa using hl.symm)]
    · rfl
    · by_cases hm : m = l
      · rw [List.find?_cons_of_pos (by simpa using hm), List.find?_cons_of_pos (by simpa using hm)]
      · rw [List.find?_cons_of_neg (by simpa using hm), List.find?_cons_of_neg (by simpa using hm),
          ih]

/-- The other items of an object that an item was set in. -/
theorem get?_set_ne {k l : String} (hl : l ≠ k) (v : Json) (x : Json) :
    (v.set k x).get? l = v.get? l := by
  cases v with
  | obj kvs =>
    rw [set, get?, get?, find?_insertItem_ne hl, List.find?_filter]
    congr 2
    ext kv
    by_cases hkv : kv.1 = l
    · simp [hkv, hl]
    · simp [hkv]
  | _ => rfl

end Json

end PyJson
