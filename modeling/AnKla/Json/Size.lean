import AnKla.Json.Text
import Mathlib.Algebra.BigOperators.Group.List.Basic
import Mathlib.Algebra.GroupWithZero.Nat

/-!
# The size of a JSON text

How many bytes the canonical text of a value takes in UTF-8, by the size of its
parts: an array and an object cost one byte for each element or item besides
their content, and one byte for the opening bracket. So the size of an object
depends on its items only, not on the order they are listed in, and a change of
one item changes the size by as much as that item.
-/

namespace PyJson

/-- The bytes of a text in UTF-8. -/
def textSize (s : List Char) : ℕ := (s.map fun c => c.utf8Size).sum

@[simp] theorem textSize_nil : textSize [] = 0 := rfl

@[simp] theorem textSize_cons (c : Char) (s : List Char) :
    textSize (c :: s) = c.utf8Size + textSize s := by
  rw [textSize, List.map_cons, List.sum_cons, textSize]

@[simp] theorem textSize_append (s t : List Char) :
    textSize (s ++ t) = textSize s + textSize t := by
  rw [textSize, List.map_append, List.sum_append, textSize, textSize]

/-- The decimal digits of a number are one byte each. -/
theorem textSize_toDigits (n : ℕ) : textSize (Nat.toDigits 10 n) = (Nat.toDigits 10 n).length := by
  have hone (c : Char) (hc : c ∈ Nat.toDigits 10 n) : c.utf8Size = 1 := by
    have hdigit := Nat.isDigit_of_mem_toDigits (by decide) (by decide) hc
    simp only [Char.isDigit, Bool.and_eq_true, decide_eq_true_eq, UInt32.le_iff_toNat_le] at hdigit
    have hlt : c.val.toNat ≤ 57 := hdigit.2
    rw [Char.utf8Size, if_pos (by rw [UInt32.le_iff_toNat_le]; exact hlt.trans (by decide))]
  rw [textSize, List.map_congr_left hone, List.map_const', List.sum_replicate_nat, Nat.mul_one]

namespace Json

/-- The bytes of the canonical text of a value. -/
def size (v : Json) : ℕ := textSize (dumps v)

/-- What the items of an object cost: key, colon, value, and a comma or bracket. -/
def itemsSize (kvs : List (String × Json)) : ℕ :=
  (kvs.map fun kv => textSize (dumpStr kv.1) + kv.2.size + 2).sum

/-- What the elements of an array cost, each with a comma or bracket. -/
def elemsSize (xs : List Json) : ℕ := (xs.map fun x => x.size + 1).sum

@[simp] theorem itemsSize_nil : itemsSize [] = 0 := rfl

@[simp] theorem itemsSize_cons (k : String) (v : Json) (kvs : List (String × Json)) :
    itemsSize ((k, v) :: kvs) = textSize (dumpStr k) + v.size + 2 + itemsSize kvs := by
  rw [itemsSize, List.map_cons, List.sum_cons, itemsSize]

@[simp] theorem itemsSize_append (kvs lws : List (String × Json)) :
    itemsSize (kvs ++ lws) = itemsSize kvs + itemsSize lws := by
  rw [itemsSize, List.map_append, List.sum_append, itemsSize, itemsSize]

theorem itemsSize_perm {kvs lws : List (String × Json)} (h : kvs.Perm lws) :
    itemsSize kvs = itemsSize lws := (h.map _).sum_eq

@[simp] theorem elemsSize_nil : elemsSize [] = 0 := rfl

@[simp] theorem elemsSize_cons (x : Json) (xs : List Json) :
    elemsSize (x :: xs) = x.size + 1 + elemsSize xs := by
  rw [elemsSize, List.map_cons, List.sum_cons, elemsSize]

@[simp] theorem elemsSize_append (xs ys : List Json) :
    elemsSize (xs ++ ys) = elemsSize xs + elemsSize ys := by
  rw [elemsSize, List.map_append, List.sum_append, elemsSize, elemsSize]

theorem textSize_dumpsObjRest (kvs : List (String × Json)) :
    textSize (dumpsObjRest kvs) = 1 + itemsSize kvs := by
  induction kvs with
  | nil => rfl
  | cons kv kvs ih =>
    obtain ⟨k, v⟩ := kv
    rw [dumpsObjRest, textSize_cons, textSize_append, textSize_cons, textSize_append, ih,
      itemsSize_cons, ← size]
    simp only [show ','.utf8Size = 1 from rfl, show ':'.utf8Size = 1 from rfl]
    omega

theorem textSize_dumpsArrRest (xs : List Json) :
    textSize (dumpsArrRest xs) = 1 + elemsSize xs := by
  induction xs with
  | nil => rfl
  | cons x xs ih =>
    rw [dumpsArrRest, textSize_cons, textSize_append, ih, elemsSize_cons, ← size]
    simp only [show ','.utf8Size = 1 from rfl]
    omega

/-- An object that has items. -/
theorem size_obj {kvs : List (String × Json)} (h : kvs ≠ []) :
    (obj kvs).size = 1 + itemsSize kvs := by
  cases kvs with
  | nil => exact absurd rfl h
  | cons kv kvs =>
    obtain ⟨k, v⟩ := kv
    rw [size, dumps, textSize_cons, textSize_append, textSize_cons, textSize_append,
      textSize_dumpsObjRest, itemsSize_cons, ← size]
    simp only [show '{'.utf8Size = 1 from rfl, show ':'.utf8Size = 1 from rfl]
    omega

/-- An array, whether or not it has elements. -/
theorem size_arr (xs : List Json) :
    (arr xs).size = if xs = [] then 2 else 1 + elemsSize xs := by
  cases xs with
  | nil => rfl
  | cons x xs =>
    rw [if_neg (List.cons_ne_nil _ _), size, dumps, textSize_cons, textSize_append,
      textSize_dumpsArrRest, elemsSize_cons, ← size]
    simp only [show '['.utf8Size = 1 from rfl]
    omega

/-- The dictionary of items under distinct keys. -/
theorem size_ofItems {kvs : List (String × Json)} (hk : (kvs.map Prod.fst).Nodup)
    (h : kvs ≠ []) : (obj (ofItems kvs)).size = 1 + itemsSize kvs := by
  have hperm := perm_ofItems hk
  rw [size_obj fun he => h (List.perm_nil.1 (he ▸ hperm.symm)), itemsSize_perm hperm]

/-- A number takes as many bytes as it has digits. -/
theorem size_natCast (n : ℕ) : (int n).size = (Nat.toDigits 10 n).length := by
  rw [size, dumps]
  exact textSize_toDigits n

end Json

end PyJson
