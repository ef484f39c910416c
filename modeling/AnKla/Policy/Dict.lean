import AnKla.Policy.Fields
import Mathlib.Algebra.BigOperators.Group.List.Basic
import Mathlib.Data.List.Dedup

/-!
# Objects made of items

What the size, the depth and the form of an object say of the items that it was made of,
and how it looks when one item is set.

* `node_count_dict`, `json_depth_le_dict`: the measures that the limits are on.
* `set_dict`, `set_item_self`, `set_set`: one item set.
* `exact_keys_iff`, `eq_dict_of_keys`: an object of a closed format is made of the items that
  the format names.
-/

namespace AnKla

open PyJson

/-! ## Items in order -/

/-- Two orders of the same items under increasing keys are one. -/
theorem eq_of_keysSorted {kvs lws : List (String × Json)} (h : kvs.Perm lws)
    (hk : Json.KeysSorted kvs) (hl : Json.KeysSorted lws) : kvs = lws :=
  h.eq_of_pairwise (fun _ _ _ _ hab hba => absurd hba (lt_asymm hab)) hk hl

/-- The order of the items does not matter. -/
theorem dict_perm {kvs lws : List (String × Json)} (h : kvs.Perm lws)
    (hk : (kvs.map Prod.fst).Nodup) : dict kvs = dict lws := by
  have hl : (lws.map Prod.fst).Nodup := (h.map Prod.fst).nodup_iff.1 hk
  have hperm := (Json.perm_ofItems hk).trans (h.trans (Json.perm_ofItems hl).symm)
  rw [dict, dict, eq_of_keysSorted hperm (Json.keysSorted_ofItems _) (Json.keysSorted_ofItems _)]

theorem keys_nodup {v : Json} (hw : v.Wf) : v.keys.Nodup := by
  cases v with
  | obj kvs =>
    have hs : Json.KeysSorted kvs := hw.1
    rw [Json.keys, List.nodup_iff_pairwise_ne, List.pairwise_map]
    exact hs.imp fun h => ne_of_lt h
  | _ => exact List.nodup_nil

theorem item_of_mem {kvs : List (String × Json)} (h : (kvs.map Prod.fst).Nodup)
    {kv : String × Json} (hkv : kv ∈ kvs) : item (.obj kvs) kv.1 = kv.2 := by
  rw [item, Json.get?]
  cases hf : kvs.find? fun x => x.1 = kv.1 with
  | none => exact (by simpa using List.find?_eq_none.1 hf kv hkv : False).elim
  | some lw =>
    have hlw : lw.1 = kv.1 := by simpa using List.find?_some hf
    rw [List.inj_on_of_nodup_map h (List.mem_of_find?_eq_some hf) hkv hlw]
    rfl

/-- The items of an object without the one of a key. -/
def drop_key (k : String) (kvs : List (String × Json)) : List (String × Json) :=
  kvs.filter fun kv => kv.1 ≠ k

theorem not_mem_keys_drop (k : String) (kvs : List (String × Json)) :
    k ∉ (drop_key k kvs).map Prod.fst := by
  intro h
  obtain ⟨kv, hkv, he⟩ := List.mem_map.1 h
  exact of_decide_eq_true (List.mem_filter.1 hkv).2 he

theorem set_obj (k : String) (v : Json) (kvs : List (String × Json)) :
    (Json.obj kvs).set k v = .obj (Json.insertItem k v (drop_key k kvs)) := rfl

/-- An object of items, with one more item or another item of a key. -/
theorem set_dict {kvs : List (String × Json)} (h : (kvs.map Prod.fst).Nodup) (k : String)
    (v : Json) : (dict kvs).set k v = dict ((k, v) :: drop_key k kvs) := by
  have hw : ((drop_key k kvs).map Prod.fst).Nodup :=
    h.sublist (List.filter_sublist.map Prod.fst)
  have hperm : (drop_key k (Json.ofItems kvs)).Perm (Json.ofItems (drop_key k kvs)) :=
    ((Json.perm_ofItems h).filter _).trans (Json.perm_ofItems hw).symm
  rw [dict, set_obj, dict, Json.ofItems,
    eq_of_keysSorted hperm ((Json.keysSorted_ofItems kvs).filter _) (Json.keysSorted_ofItems _)]

/-- The item that an object has, set again. -/
theorem set_item_self {a : Json} {k : String} (hw : a.Wf) (hk : k ∈ a.keys) :
    a.set k (item a k) = a := by
  cases a with
  | obj kvs =>
    obtain ⟨kv, hkv, hkey⟩ := List.mem_map.1 hk
    have hsorted : Json.KeysSorted kvs := hw.1
    have hfind : item (.obj kvs) k = kv.2 := hkey ▸ item_of_mem (keys_nodup hw) hkv
    have hfilter : (kv :: drop_key k kvs).Perm kvs := by
      clear hfind hk hw
      induction kvs with
      | nil => exact absurd hkv List.not_mem_nil
      | cons lw kvs ih =>
        rw [Json.KeysSorted, List.pairwise_cons] at hsorted
        obtain rfl | hmem := List.mem_cons.1 hkv
        · have hrest : drop_key k kvs = kvs := List.filter_eq_self.2 fun x hx => by
            rw [← hkey]
            exact decide_eq_true (ne_of_gt (hsorted.1 x hx))
          rw [drop_key, List.filter_cons_of_neg (by simpa using hkey)]
          rw [show kvs.filter (fun x => x.1 ≠ k) = drop_key k kvs from rfl, hrest]
        · have hne : lw.1 ≠ k := fun he => ne_of_lt (hsorted.1 kv hmem) (he.trans hkey.symm)
          rw [drop_key, List.filter_cons_of_pos (by simpa using hne)]
          exact (List.Perm.swap _ _ _).trans ((ih hmem hsorted.2).cons _)
    have hins : (Json.insertItem k kv.2 (drop_key k kvs)).Perm kvs := by
      refine (Json.perm_insertItem (not_mem_keys_drop k kvs)).trans ?_
      rw [← hkey]
      rw [← hkey] at hfilter
      exact hfilter
    rw [set_obj, hfind, eq_of_keysSorted hins
      (Json.keysSorted_insertItem (hsorted.filter _)) hsorted]
  | _ => exact absurd hk List.not_mem_nil

/-- Of two items set under one key, the last one stays. -/
theorem set_set (a : Json) (k : String) (v w : Json) : (a.set k v).set k w = a.set k w := by
  cases a with
  | obj kvs =>
    have hins (l : List (String × Json)) (hl : ∀ kv ∈ l, kv.1 ≠ k) :
        drop_key k (Json.insertItem k v l) = l := by
      induction l with
      | nil => simp [Json.insertItem, drop_key]
      | cons lw l ih =>
        have hlw : lw.1 ≠ k := hl lw List.mem_cons_self
        have hrest : drop_key k l = l := List.filter_eq_self.2 fun x hx =>
          decide_eq_true (hl x (List.mem_cons_of_mem _ hx))
        rw [Json.insertItem]
        split_ifs with h1 h2
        · rw [drop_key, List.filter_cons_of_neg (by simp), List.filter_cons_of_pos (by simpa using hlw)]
          exact congrArg _ hrest
        · exact absurd h2.symm hlw
        · rw [drop_key, List.filter_cons_of_pos (by simpa using hlw)]
          exact congrArg _ (ih fun x hx => hl x (List.mem_cons_of_mem _ hx))
    rw [set_obj, set_obj, set_obj,
      hins (drop_key k kvs) fun kv hkv => of_decide_eq_true (List.mem_filter.1 hkv).2]
  | _ => rfl

theorem keys_insertItem (k : String) (v w : Json) (kvs : List (String × Json)) :
    (Json.insertItem k v kvs).map Prod.fst = (Json.insertItem k w kvs).map Prod.fst := by
  induction kvs with
  | nil => rfl
  | cons lw kvs ih =>
    rw [Json.insertItem, Json.insertItem]
    split_ifs
    · rfl
    · rfl
    · rw [List.map_cons, List.map_cons, ih]

/-- Which keys there are does not depend on the item that is set. -/
theorem keys_set (a : Json) (k : String) (v w : Json) : (a.set k v).keys = (a.set k w).keys := by
  cases a with
  | obj kvs => exact keys_insertItem k v w _
  | _ => rfl

theorem isObj_set (a : Json) (k : String) (v : Json) : (a.set k v).isObj = a.isObj := by
  cases a <;> rfl

theorem item_set {a : Json} (ha : a.isObj = true) (k : String) (v : Json) :
    item (a.set k v) k = v := by
  rw [item, Json.get?_set ha]
  rfl

theorem item_set_ne {k l : String} (hl : l ≠ k) (a v : Json) : item (a.set k v) l = item a l := by
  rw [item, item, Json.get?_set_ne hl]

/-! ## Measures -/

@[simp] theorem node_count_str (s : String) : node_count (.str s) = 1 := by
  simp [node_count]

theorem node_count_list_eq (xs : List Json) : node_count_list xs = (xs.map node_count).sum := by
  induction xs with
  | nil => rfl
  | cons x xs ih => rw [node_count_list, List.map_cons, List.sum_cons, ih]

theorem node_count_items_eq (kvs : List (String × Json)) :
    node_count_items kvs = (kvs.map fun kv => node_count kv.2).sum := by
  induction kvs with
  | nil => rfl
  | cons kv kvs ih => rw [node_count_items, List.map_cons, List.sum_cons, ih]

theorem node_count_items_perm {kvs lws : List (String × Json)} (h : kvs.Perm lws) :
    node_count_items kvs = node_count_items lws := by
  rw [node_count_items_eq, node_count_items_eq]
  exact (h.map _).sum_eq

/-- An object has as many values as its items, and itself. -/
theorem node_count_dict {kvs : List (String × Json)} (h : (kvs.map Prod.fst).Nodup) :
    node_count (dict kvs) = 1 + node_count_items kvs := by
  rw [dict, node_count, node_count_items_perm (Json.perm_ofItems h)]

theorem node_count_str_list (names : List String) :
    node_count (str_list names) = 1 + names.length := by
  rw [str_list, node_count, node_count_list_eq, List.map_map]
  congr 1
  induction names with
  | nil => rfl
  | cons s names ih => rw [List.map_cons, List.sum_cons, ih, List.length_cons]; exact Nat.add_comm _ _

theorem json_depth_list_le {xs : List Json} {n : ℕ} :
    json_depth_list xs ≤ n ↔ ∀ x ∈ xs, json_depth x + 1 ≤ n := by
  induction xs with
  | nil => simp [json_depth_list]
  | cons x xs ih => rw [json_depth_list, max_le_iff, ih, List.forall_mem_cons]

theorem json_depth_items_le {kvs : List (String × Json)} {n : ℕ} :
    json_depth_items kvs ≤ n ↔ ∀ kv ∈ kvs, json_depth kv.2 + 1 ≤ n := by
  induction kvs with
  | nil => simp [json_depth_items]
  | cons kv kvs ih => rw [json_depth_items, max_le_iff, ih, List.forall_mem_cons]

/-- An object is as deep as its items, and one level more. -/
theorem json_depth_le_dict {kvs : List (String × Json)} (h : (kvs.map Prod.fst).Nodup) {n : ℕ} :
    json_depth (dict kvs) ≤ n ↔ ∀ kv ∈ kvs, json_depth kv.2 + 1 ≤ n := by
  rw [dict, json_depth, json_depth_items_le]
  exact forall_congr' fun kv => by rw [(Json.perm_ofItems h).mem_iff]

theorem intsFit_dict {kvs : List (String × Json)} (h : (kvs.map Prod.fst).Nodup) :
    (dict kvs).intsFit = true ↔ ∀ kv ∈ kvs, kv.2.intsFit = true := by
  rw [dict, Json.intsFit, Json.intsFitItems_iff]
  exact forall_congr' fun kv => by rw [(Json.perm_ofItems h).mem_iff]

theorem wf_dict_iff {kvs : List (String × Json)} (h : (kvs.map Prod.fst).Nodup) :
    (dict kvs).Wf ↔ ∀ kv ∈ kvs, kv.2.Wf := by
  refine ⟨fun hw kv hkv => ?_, wf_dict⟩
  rw [dict, Json.Wf] at hw
  exact Json.WfItems_iff.1 hw.2 kv ((Json.perm_ofItems h).mem_iff.2 hkv)

/-- A value passes the limits whatever text one of its items is. -/
theorem validate_json_value_set (a : Json) (k s t : String) (failure : Failure) :
    validate_json_value (a.set k (.str s)) failure =
      validate_json_value (a.set k (.str t)) failure := by
  cases a with
  | obj kvs =>
    have hnot := not_mem_keys_drop k kvs
    have hcount (u : String) : node_count_items (Json.insertItem k (.str u) (drop_key k kvs)) =
        1 + node_count_items (drop_key k kvs) := node_count_items_perm (Json.perm_insertItem hnot)
    have hmem (u : String) (kv : String × Json) :
        kv ∈ Json.insertItem k (.str u) (drop_key k kvs) ↔ kv ∈ (k, .str u) :: drop_key k kvs :=
      (Json.perm_insertItem hnot).mem_iff
    have hdepth : json_depth_items (Json.insertItem k (.str s) (drop_key k kvs)) =
        json_depth_items (Json.insertItem k (.str t) (drop_key k kvs)) := by
      refine eq_of_forall_ge_iff fun n => ?_
      have hle (u : String) : json_depth_items (Json.insertItem k (.str u) (drop_key k kvs)) ≤ n ↔
          1 ≤ n ∧ ∀ kv ∈ drop_key k kvs, json_depth kv.2 + 1 ≤ n := by
        rw [json_depth_items_le]
        simp only [hmem, List.forall_mem_cons]
        rfl
      rw [hle, hle]
    have hfit (u : String) : Json.intsFitItems (Json.insertItem k (.str u) (drop_key k kvs)) = true ↔
        ∀ kv ∈ drop_key k kvs, kv.2.intsFit = true := by
      rw [Json.intsFitItems_iff]
      simp only [hmem, List.forall_mem_cons]
      exact and_iff_right rfl
    have hwf (u : String) : Json.WfItems (Json.insertItem k (.str u) (drop_key k kvs)) ↔
        ∀ kv ∈ drop_key k kvs, kv.2.Wf := by
      rw [Json.WfItems_iff]
      simp only [hmem, List.forall_mem_cons]
      exact and_iff_right trivial
    have hsorted : Json.KeysSorted (Json.insertItem k (.str s) (drop_key k kvs)) ↔
        Json.KeysSorted (Json.insertItem k (.str t) (drop_key k kvs)) := by
      rw [Json.KeysSorted, Json.KeysSorted, ← List.pairwise_map (f := Prod.fst) (R := (· < ·)),
        ← List.pairwise_map (f := Prod.fst) (R := (· < ·)), keys_insertItem]
    have hfit' : (Json.obj (Json.insertItem k (.str s) (drop_key k kvs))).intsFit =
        (Json.obj (Json.insertItem k (.str t) (drop_key k kvs))).intsFit := by
      rw [Bool.eq_iff_iff, Json.intsFit, Json.intsFit, hfit, hfit]
    have hwf' : (Json.obj (Json.insertItem k (.str s) (drop_key k kvs))).Wf ↔
        (Json.obj (Json.insertItem k (.str t) (drop_key k kvs))).Wf := by
      rw [Json.Wf, Json.Wf, hsorted, hwf, hwf]
    rw [set_obj, set_obj, validate_json_value, validate_json_value, hfit', decide_eq_decide.2 hwf',
      node_count, node_count, hcount, hcount, json_depth, json_depth, hdepth]
  | _ => rfl

/-! ## Parts of a value -/

theorem storable_item {v : Json} (h : Storable v) (k : String) : Storable (item v k) := by
  cases v with
  | obj kvs =>
    rw [item, Json.get?]
    cases hf : kvs.find? fun kv => kv.1 = k with
    | none => exact ⟨by simp [Json.Wf], rfl⟩
    | some kv =>
      have hmem := List.mem_of_find?_eq_some hf
      obtain ⟨hw, hi⟩ := h
      simp only [Json.Wf] at hw
      simp only [Json.intsFit] at hi
      exact ⟨Json.WfItems_iff.1 hw.2 kv hmem, Json.intsFitItems_iff.1 hi kv hmem⟩
  | _ => exact ⟨by simp [item, Json.get?, Json.Wf], by simp [item, Json.get?, Json.intsFit]⟩

theorem storable_elems {v : Json} (h : Storable v) : ∀ x ∈ elems v, Storable x := by
  cases v with
  | arr xs =>
    intro x hx
    obtain ⟨hw, hi⟩ := h
    simp only [Json.Wf] at hw
    simp only [Json.intsFit] at hi
    exact ⟨Json.WfList_iff.1 hw x hx, Json.intsFitList_iff.1 hi x hx⟩
  | _ => exact fun x hx => absurd hx List.not_mem_nil

theorem storable_dict {kvs : List (String × Json)} (h : (kvs.map Prod.fst).Nodup) :
    Storable (dict kvs) ↔ ∀ kv ∈ kvs, Storable kv.2 := by
  simp only [Storable, wf_dict_iff h, intsFit_dict h, forall_and]

theorem storable_arr {xs : List Json} : Storable (.arr xs) ↔ ∀ x ∈ xs, Storable x := by
  simp only [Storable, Json.Wf, Json.intsFit, Json.WfList_iff, Json.intsFitList_iff, forall_and]

@[simp] theorem storable_str (s : String) : Storable (.str s) := ⟨trivial, rfl⟩

@[simp] theorem storable_str_list (names : List String) : Storable (str_list names) := by
  refine storable_arr.2 fun v hv => ?_
  obtain ⟨s, -, rfl⟩ := List.mem_map.1 hv
  exact storable_str s

@[simp] theorem json_depth_str (s : String) : json_depth (.str s) = 0 := by
  simp [json_depth]

theorem json_depth_str_list (names : List String) : json_depth (str_list names) ≤ 1 := by
  rw [str_list, json_depth, json_depth_list_le]
  intro v hv
  obtain ⟨s, -, rfl⟩ := List.mem_map.1 hv
  simp

/-! ## Closed formats -/

theorem sorted_set_eq_nil {names : List String} : sorted_set names = [] ↔ names = [] := by
  rw [sorted_set]
  constructor
  · intro h
    cases names with
    | nil => rfl
    | cons s names =>
      have hmem : s ∈ ((s :: names).insertionSort (· ≤ ·)).dedup :=
        List.mem_dedup.2 ((List.mem_insertionSort _).2 List.mem_cons_self)
      rw [h] at hmem
      exact absurd hmem List.not_mem_nil
  · rintro rfl
    rfl

/-- The keys of an object made of items, against a list of the same keys. -/
theorem exact_keys_dict {kvs : List (String × Json)} (h : (kvs.map Prod.fst).Nodup)
    {keys : List String} (hkeys : ∀ k, k ∈ keys ↔ k ∈ kvs.map Prod.fst) :
    exact_keys (dict kvs) keys = true := by
  simp only [exact_keys, Bool.and_eq_true, List.all_eq_true, List.contains_iff_mem]
  exact ⟨⟨rfl, fun k hk => (hkeys k).2 ((mem_keys_dict h).1 hk)⟩,
    fun k hk => (mem_keys_dict h).2 ((hkeys k).1 hk)⟩

theorem exact_keys_iff {v : Json} {keys : List String} :
    exact_keys v keys = true ↔ v.isObj = true ∧ ∀ k, k ∈ v.keys ↔ k ∈ keys := by
  simp only [exact_keys, Bool.and_eq_true, List.all_eq_true, List.contains_iff_mem, and_assoc]
  refine and_congr_right fun _ => ⟨fun h k => ⟨h.1 k, h.2 k⟩, fun h => ⟨fun k => (h k).1, fun k => (h k).2⟩⟩

/-- An object is made of its items. -/
theorem eq_dict_of_keys {v : Json} (ho : v.isObj = true) (hw : v.Wf) {keys : List String}
    (hn : keys.Nodup) (hk : ∀ k, k ∈ v.keys ↔ k ∈ keys) :
    v = dict (keys.map fun k => (k, item v k)) := by
  cases v with
  | obj kvs =>
    have hnd := keys_nodup hw
    have hkeys : ((keys.map fun k => (k, item (.obj kvs) k)).map Prod.fst) = keys := by
      rw [List.map_map]
      exact List.map_id _
    have hn' : ((keys.map fun k => (k, item (.obj kvs) k)).map Prod.fst).Nodup := by
      rw [hkeys]
      exact hn
    have hperm : kvs.Perm (keys.map fun k => (k, item (.obj kvs) k)) := by
      refine (List.perm_ext_iff_of_nodup (hnd.of_map _) (hn'.of_map _)).2 fun kv => ?_
      rw [List.mem_map]
      constructor
      · intro hkv
        refine ⟨kv.1, (hk kv.1).1 (List.mem_map_of_mem hkv), ?_⟩
        rw [item_of_mem hnd hkv]
      · rintro ⟨k, hmem, rfl⟩
        obtain ⟨kv, hkv, rfl⟩ := List.mem_map.1 ((hk k).2 hmem)
        rw [item_of_mem hnd hkv]
        exact hkv
    rw [dict, Json.obj.injEq]
    exact eq_of_keysSorted (hperm.trans (Json.perm_ofItems hn').symm) hw.1
      (Json.keysSorted_ofItems _)
  | _ => cases ho

theorem intsFit_arr {vs : List Json} (h : ∀ v ∈ vs, v.intsFit = true) :
    (Json.arr vs).intsFit = true := by
  rw [Json.intsFit, Json.intsFitList_iff]
  exact h

end AnKla
