import Mathlib.Data.List.AList
import Mathlib.Data.List.Sort
import Mathlib.Data.List.Perm.Basic

/-!
# Disks

The files of a store as a finite map from paths to contents, over any type of
paths and of contents.

* `Disk`: at most one content a path; `read`, `write` and `remove`.
* `Dir`: a directory, by what its entries are called; `listing` is its entries
  in order.
* `listing_congr`: a listing depends on nothing but which entries exist.
-/

namespace Durable

variable {P C α : Type*} [DecidableEq P]

/-- The files of a store: at most one content a path. -/
abbrev Disk (P C : Type*) := AList fun _ : P => C

namespace Disk

/-- The content of a path, if it exists. -/
def read (d : Disk P C) (p : P) : Option C := d.lookup p

/-- The disk with a content put at a path, in place of what was there. -/
def write (d : Disk P C) (p : P) (c : C) : Disk P C := d.insert p c

/-- The disk without a path. -/
def remove (d : Disk P C) (p : P) : Disk P C := d.erase p

@[simp] theorem read_write (d : Disk P C) (p : P) (c : C) : (d.write p c).read p = some c :=
  AList.lookup_insert d

theorem read_write_ne {d : Disk P C} {p q : P} (c : C) (h : q ≠ p) :
    (d.write p c).read q = d.read q := AList.lookup_insert_ne h

@[simp] theorem read_remove (d : Disk P C) (p : P) : (d.remove p).read p = none :=
  AList.lookup_erase p d

theorem read_remove_ne {d : Disk P C} {p q : P} (h : q ≠ p) :
    (d.remove p).read q = d.read q := AList.lookup_erase_ne h

theorem read_write_eq (d : Disk P C) (p q : P) (c : C) :
    (d.write p c).read q = if q = p then some c else d.read q := by
  split_ifs with h
  · rw [h, read_write]
  · exact read_write_ne c h

theorem read_remove_eq (d : Disk P C) (p q : P) :
    (d.remove p).read q = if q = p then none else d.read q := by
  split_ifs with h
  · rw [h, read_remove]
  · exact read_remove_ne h

theorem mem_keys (d : Disk P C) (p : P) : p ∈ d.keys ↔ (d.read p).isSome = true := by
  rw [← AList.mem_keys, ← AList.lookup_isSome, read]

end Disk

/-! ## Directories -/

/-- A directory: the paths in it, each with the name of its entry. -/
structure Dir (P α : Type*) where
  /-- The path of a name. -/
  path : α → P
  /-- The name of a path that lies in the directory. -/
  entry : P → Option α
  entry_iff : ∀ {p x}, entry p = some x ↔ p = path x

namespace Dir

variable [LinearOrder α] (dir : Dir P α)

/-- `sorted(directory.glob(...))`: the names of the files of a directory. -/
def listing (d : Disk P C) : List α := (d.keys.filterMap dir.entry).insertionSort (· ≤ ·)

variable {dir}

theorem mem_listing {d : Disk P C} {x : α} :
    x ∈ dir.listing d ↔ (d.read (dir.path x)).isSome = true := by
  rw [listing, List.mem_insertionSort, List.mem_filterMap]
  simp only [Disk.mem_keys, dir.entry_iff, exists_eq_right]

omit [DecidableEq P] in
theorem nodup_listing (d : Disk P C) : (dir.listing d).Nodup := by
  refine (List.perm_insertionSort _ _).nodup_iff.2 ?_
  exact d.keys_nodup.filterMap fun p q x hp hq => by
    rw [dir.entry_iff.1 hp, dir.entry_iff.1 hq]

omit [DecidableEq P] in
theorem sorted_listing (d : Disk P C) : (dir.listing d).Pairwise (· ≤ ·) :=
  List.pairwise_insertionSort _ _

/-- A listing depends on nothing but which entries exist. -/
theorem listing_congr {d e : Disk P C}
    (h : ∀ x, (d.read (dir.path x)).isSome = true ↔ (e.read (dir.path x)).isSome = true) :
    dir.listing d = dir.listing e := by
  have hmem (x : α) : x ∈ dir.listing d ↔ x ∈ dir.listing e := by
    rw [mem_listing, mem_listing, h]
  have hperm := (List.perm_ext_iff_of_nodup (nodup_listing d) (nodup_listing e)).2 hmem
  exact hperm.eq_of_pairwise' (sorted_listing d) (sorted_listing e)

/-- The entries of a listing that pass a test depend on nothing but these entries. -/
theorem listing_filter_congr {d e : Disk P C} {f g : α → Bool}
    (h : ∀ x, (d.read (dir.path x)).isSome = true ∧ f x = true ↔
      (e.read (dir.path x)).isSome = true ∧ g x = true) :
    (dir.listing d).filter f = (dir.listing e).filter g := by
  have hmem (x : α) : x ∈ (dir.listing d).filter f ↔ x ∈ (dir.listing e).filter g := by
    rw [List.mem_filter, List.mem_filter, mem_listing, mem_listing, h]
  have hperm := (List.perm_ext_iff_of_nodup ((nodup_listing d).filter f)
    ((nodup_listing e).filter g)).2 hmem
  exact hperm.eq_of_pairwise' ((sorted_listing d).filter f) ((sorted_listing e).filter g)

/-- A directory with one file. -/
theorem listing_eq_singleton {d : Disk P C} {x : α}
    (h : ∀ y, (d.read (dir.path y)).isSome = true ↔ y = x) : dir.listing d = [x] := by
  have hmem (y : α) : y ∈ dir.listing d ↔ y ∈ [x] := by
    rw [mem_listing, List.mem_singleton, h]
  have hperm := (List.perm_ext_iff_of_nodup (nodup_listing d) (List.nodup_singleton x)).2 hmem
  exact List.perm_singleton.1 hperm

/-- A listing with one entry that passes a test. -/
theorem listing_filter_eq_singleton {d : Disk P C} {f : α → Bool} {x : α}
    (h : ∀ y, (d.read (dir.path y)).isSome = true ∧ f y = true ↔ y = x) :
    (dir.listing d).filter f = [x] := by
  have hmem (y : α) : y ∈ (dir.listing d).filter f ↔ y ∈ [x] := by
    rw [List.mem_filter, mem_listing, List.mem_singleton, h]
  have hperm := (List.perm_ext_iff_of_nodup ((nodup_listing d).filter f)
    (List.nodup_singleton x)).2 hmem
  exact List.perm_singleton.1 hperm

theorem listing_filterMap_eq_singleton {β : Type*} {d : Disk P C} {f : α → Option β} {x : α} {b : β}
    (hx : (d.read (dir.path x)).isSome = true) (hb : f x = some b)
    (h : ∀ y, (d.read (dir.path y)).isSome = true → (f y).isSome = true → y = x) :
    (dir.listing d).filterMap f = [b] := by
  have hone : (dir.listing d).filter (fun y => (f y).isSome) = [x] := by
    refine listing_filter_eq_singleton fun y => ⟨fun hy => h y hy.1 hy.2, ?_⟩
    rintro rfl
    exact ⟨hx, by rw [hb]; rfl⟩
  have hf : (fun y => if (f y).isSome = true then f y else none) = f := by
    funext y
    cases f y <;> rfl
  rw [← hf, ← List.filterMap_filter, hone, List.filterMap_cons, hb, List.filterMap_nil]

/-- An empty directory. -/
theorem listing_eq_nil {d : Disk P C} (h : ∀ y, d.read (dir.path y) = none) :
    dir.listing d = [] := by
  rw [List.eq_nil_iff_forall_not_mem]
  intro y hy
  rw [mem_listing, h y] at hy
  cases hy

end Dir

end Durable
