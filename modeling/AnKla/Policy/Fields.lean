import AnKla.Storage
import AnKla.Json.Lines

/-!
# Checking the fields of an object

The closed formats list their keys and refuse any other. What the validators
of all of them are made of:

* `exact_keys`: an object with these keys and no others.
* `ensure`: refuse unless a test passes.
* `dict`: an object, from its items in any order.
-/

namespace AnKla

open PyJson

/-- `if not test: raise failure`. -/
def ensure (test : Bool) (failure : Failure) : Except Failure Unit :=
  if test then .ok () else .error failure

@[simp] theorem ensure_ok {test : Bool} {failure : Failure} {u : Unit} :
    ensure test failure = .ok u ↔ test = true := by
  rw [ensure]
  split_ifs with h <;> simp [h]

/-- A computation in steps succeeds when every step does. -/
theorem bind_ok {ε : Type*} {α β : Type _} {x : Except ε α} {f : α → Except ε β} {b : β} :
    (x >>= f) = .ok b ↔ ∃ a, x = .ok a ∧ f a = .ok b := by
  cases x with
  | error e => simp [bind, Except.bind]
  | ok a => simp [bind, Except.bind]

theorem pure_ok {ε : Type*} {α : Type _} {a b : α} :
    (pure a : Except ε α) = .ok b ↔ a = b := by
  simp [pure, Except.pure]

theorem map_ok {ε : Type*} {α β : Type*} {x : Except ε α} {f : α → β} {b : β} :
    x.map f = .ok b ↔ ∃ a, x = .ok a ∧ f a = b := by
  cases x <;> simp [Except.map]

theorem toOption_ok {ε : Type*} {α : Type*} {x : Except ε α} {a : α} :
    x.toOption = some a ↔ x = .ok a := by
  cases x <;> simp [Except.toOption]

theorem mapError_ok {ε ε' α : Type*} {x : Except ε α} {f : ε → ε'} {a : α} :
    x.mapError f = .ok a ↔ x = .ok a := by
  cases x <;> simp [Except.mapError]

theorem forM_ok {α : Type} {f : α → Except Failure PUnit} {xs : List α} {u : PUnit} :
    xs.forM f = .ok u ↔ ∀ x ∈ xs, f x = .ok () := by
  induction xs with
  | nil => simp [pure, Except.pure]
  | cons x xs ih =>
    rw [List.forall_mem_cons, ← ih]
    refine bind_ok.trans ⟨?_, fun h => ⟨(), h⟩⟩
    rintro ⟨⟨⟩, h⟩
    exact h

/-- Two computations that go on alike where their first part succeeds. -/
theorem bind_eq_of_ok {ε : Type*} {α β : Type _} {x : Except ε α} {f g : α → Except ε β}
    (h : ∀ a, x = .ok a → f a = g a) : x >>= f = x >>= g := by
  cases x with
  | error e => rfl
  | ok a => exact h a rfl

/-- What a computation returns, if it returns, has a property. -/
def Yields {α : Type*} (x : Except Failure α) (P : α → Prop) : Prop :=
  match x with
  | .ok a => P a
  | .error _ => True

theorem yields_iff {α : Type*} {x : Except Failure α} {P : α → Prop} :
    Yields x P ↔ ∀ a, x = .ok a → P a := by
  cases x <;> simp [Yields]

/-- An object, from its items in any order. -/
def dict (kvs : List (String × Json)) : Json := .obj (Json.ofItems kvs)

/-- `isinstance(value, dict) and set(value) == keys`. -/
def exact_keys (v : Json) (keys : List String) : Bool :=
  v.isObj && v.keys.all (keys.contains ·) && keys.all (v.keys.contains ·)

/-- `isinstance(value, dict)`, with the required keys and no others but the
    optional ones. -/
def keys_within (v : Json) (required optional : List String) : Bool :=
  v.isObj && v.keys.all ((required ++ optional).contains ·) && required.all (v.keys.contains ·)

/-- `value[key]`, of an object that has the key. -/
def item (v : Json) (key : String) : Json := (v.get? key).getD .null

theorem wf_dict {kvs : List (String × Json)} (h : ∀ kv ∈ kvs, kv.2.Wf) : (dict kvs).Wf := by
  refine ⟨Json.keysSorted_ofItems kvs, Json.WfItems_iff.2 fun kv hkv => ?_⟩
  have hmem : kv ∈ kvs := by
    clear h
    induction kvs with
    | nil => exact absurd hkv List.not_mem_nil
    | cons lw kvs ih =>
      obtain rfl | hkv := Json.mem_insertItem hkv
      · exact List.mem_cons_self
      · exact List.mem_cons_of_mem _ (ih hkv)
  exact h kv hmem

/-- The item of a key of an object made of items under distinct keys. -/
theorem item_dict {kvs : List (String × Json)} (h : (kvs.map Prod.fst).Nodup) {k : String}
    {v : Json} (hkv : (k, v) ∈ kvs) : item (dict kvs) k = v := by
  have hperm := Json.perm_ofItems h
  have hmem : (k, v) ∈ Json.ofItems kvs := hperm.mem_iff.2 hkv
  have hnd : ((Json.ofItems kvs).map Prod.fst).Nodup := (hperm.map Prod.fst).nodup_iff.2 h
  rw [item, dict, Json.get?]
  cases hf : (Json.ofItems kvs).find? fun kv => kv.1 = k with
  | none =>
    have hno := List.find?_eq_none.1 hf _ hmem
    simp at hno
  | some kv =>
    have hkey : kv.1 = k := by simpa using List.find?_some hf
    have hkv' := List.mem_of_find?_eq_some hf
    rw [List.inj_on_of_nodup_map hnd hkv' hmem hkey]
    rfl

theorem mem_keys_dict {kvs : List (String × Json)} (h : (kvs.map Prod.fst).Nodup) {k : String} :
    k ∈ (dict kvs).keys ↔ k ∈ kvs.map Prod.fst :=
  ((Json.perm_ofItems h).map Prod.fst).mem_iff

def is_str : Json → Bool
  | .str _ => true
  | _ => false

def is_nonempty_str : Json → Bool
  | .str s => s ≠ ""
  | _ => false

def is_list : Json → Bool
  | .arr _ => true
  | _ => false

def is_bool : Json → Bool
  | .bool _ => true
  | _ => false

/-- The elements of a list. -/
def elems : Json → List Json
  | .arr xs => xs
  | _ => []

/-- `value in {...}`, for a set of strings. -/
def one_of (v : Json) (names : List String) : Bool :=
  match v with
  | .str s => names.contains s
  | _ => false

/-- An identifier, or `None`. -/
def opt_ident : Option Digest → Json
  | some d => .str (ident d)
  | none => .null

def str_list (names : List String) : Json := .arr (names.map .str)

/-- `str(value)` of a value that stands where a text is expected. -/
def py_str : Json → String
  | .str s => s
  | .null => "None"
  | .bool true => "True"
  | .bool false => "False"
  | .int i => String.ofList (dumpInt i)
  | v => String.ofList (dumps v)

/-- `sorted(set(names))`. -/
def sorted_set (names : List String) : List String := (names.insertionSort (· ≤ ·)).dedup

/-! ## Values that records may hold -/

def max_json_depth : ℕ := 64

def max_json_nodes : ℕ := 10000

mutual

/-- The values in a value, itself included. -/
def node_count : Json → ℕ
  | .arr xs => 1 + node_count_list xs
  | .obj kvs => 1 + node_count_items kvs
  | _ => 1

def node_count_list : List Json → ℕ
  | [] => 0
  | x :: xs => node_count x + node_count_list xs

def node_count_items : List (String × Json) → ℕ
  | [] => 0
  | (_, x) :: kvs => node_count x + node_count_items kvs

end

mutual

/-- How deep the values in a value are nested, itself at 0. -/
def json_depth : Json → ℕ
  | .arr xs => json_depth_list xs
  | .obj kvs => json_depth_items kvs
  | _ => 0

def json_depth_list : List Json → ℕ
  | [] => 0
  | x :: xs => max (json_depth x + 1) (json_depth_list xs)

def json_depth_items : List (String × Json) → ℕ
  | [] => 0
  | (_, x) :: kvs => max (json_depth x + 1) (json_depth_items kvs)

end

/-- `_validate_json_value`: no more than so many values, no deeper than so many
    levels, and a value that has a canonical text: no integer is longer than the
    host writes. Floats are finite and strings hold scalar values by their type. -/
def validate_json_value (v : Json) (failure : Failure) : Except Failure Unit :=
  ensure (decide (node_count v ≤ max_json_nodes) && decide (json_depth v ≤ max_json_depth) &&
    v.intsFit && decide v.Wf) failure

/-- A value that its canonical text stands for. -/
def Storable (v : Json) : Prop := v.Wf ∧ v.intsFit = true

theorem validate_json_value_ok {v : Json} {failure : Failure} {u : Unit}
    (h : validate_json_value v failure = .ok u) : v.Wf ∧ v.intsFit = true := by
  rw [validate_json_value, ensure_ok] at h
  simp only [Bool.and_eq_true, decide_eq_true_eq] at h
  exact ⟨h.2, h.1.2⟩

end AnKla
