import AnKla.Json.Size

/-!
# A value with a hole

A value in which one place is left open, at any depth of its arrays and objects.

* `Hole`, `Hole.fill`: the place, and the value with something in it.
* `Hole.exists_size_fill`: the text is as much longer as what is put in.
* `exists_hole_set`: an item of an object is such a place.
-/

namespace PyJson

/-- A place in a value: the elements or items around it, from the outside in. -/
inductive Hole
  | here
  | element (before : List Json) (hole : Hole) (after : List Json)
  | item (before : List (String × Json)) (key : String) (hole : Hole) (after : List (String × Json))

namespace Hole

/-- The value with another one in its hole. -/
def fill : Hole → Json → Json
  | here, v => v
  | element before hole after, v => .arr (before ++ hole.fill v :: after)
  | item before key hole after, v => .obj (before ++ (key, hole.fill v) :: after)

/-- Filling a hole costs as many bytes as what is put in, besides a base. -/
theorem exists_size_fill (hole : Hole) : ∃ base, ∀ v, (hole.fill v).size = base + v.size := by
  induction hole with
  | here => exact ⟨0, fun v => (Nat.zero_add _).symm⟩
  | element before hole after ih =>
    obtain ⟨base, hbase⟩ := ih
    refine ⟨2 + Json.elemsSize before + Json.elemsSize after + base, fun v => ?_⟩
    rw [fill, Json.size_arr, if_neg (by simp), Json.elemsSize_append, Json.elemsSize_cons, hbase]
    omega
  | item before key hole after ih =>
    obtain ⟨base, hbase⟩ := ih
    refine ⟨3 + Json.itemsSize before + Json.itemsSize after + textSize (dumpStr key) + base,
      fun v => ?_⟩
    rw [fill, Json.size_obj (by simp), Json.itemsSize_append, Json.itemsSize_cons, hbase]
    omega

end Hole

/-- A new item goes to one place, whatever it is. -/
theorem exists_insertItem {k : String} {kvs : List (String × Json)} (h : ∀ kv ∈ kvs, kv.1 ≠ k) :
    ∃ before after, ∀ v, Json.insertItem k v kvs = before ++ (k, v) :: after := by
  induction kvs with
  | nil => exact ⟨[], [], fun v => rfl⟩
  | cons kv kvs ih =>
    obtain ⟨l, w⟩ := kv
    obtain ⟨before, after, hrest⟩ := ih fun x hx => h x (List.mem_cons_of_mem _ hx)
    have hl : k ≠ l := (h (l, w) List.mem_cons_self).symm
    by_cases hlt : k < l
    · refine ⟨[], (l, w) :: kvs, fun v => ?_⟩
      rw [Json.insertItem, if_pos hlt, List.nil_append]
    · refine ⟨(l, w) :: before, after, fun v => ?_⟩
      rw [Json.insertItem, if_neg hlt, if_neg hl, hrest, List.cons_append]

/-- The item of a key is a hole of the object. -/
theorem exists_hole_set (kvs : List (String × Json)) (k : String) :
    ∃ hole : Hole, ∀ v, (Json.obj kvs).set k v = hole.fill v := by
  obtain ⟨before, after, h⟩ := @exists_insertItem k (kvs.filter fun kv => kv.1 ≠ k) fun kv hkv => by
    simpa using List.of_mem_filter hkv
  exact ⟨.item before k .here after, fun v => by rw [Json.set, h, Hole.fill, Hole.fill]⟩

end PyJson
