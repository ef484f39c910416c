import AnKla.Policy.Dict
import AnKla.Policy.Evaluate
import Mathlib.Algebra.Order.BigOperators.Group.List

/-!
# Valid proposals

What the validators of proposals and of authorities accept, as propositions with a field a
rule.

* `RecordFields`, `ProposalLineage`, `WithinLimits`: the parts that both kinds of proposal share.
* `SingleProposal`, `BatchProposal`: the two kinds.
* `single_of_twin`: the twin of a valid batch is valid.
-/

namespace AnKla

open PyJson

/-! ## Parts -/

theorem require_exact_keys_ok {v : Json} {required optional : List String} {code detail : String}
    {u : Unit} : require_exact_keys v required optional code detail = .ok u ↔
      (∀ k ∈ required, k ∈ v.keys) ∧ ∀ k ∈ v.keys, k ∈ required ++ optional := by
  simp only [require_exact_keys, ensure_ok, Bool.and_eq_true, decide_eq_true_eq, sorted_set_eq_nil,
    List.filter_eq_nil_iff, Bool.not_eq_true', Bool.not_eq_false, List.contains_iff_mem]

/-- A value that the limits allow. -/
structure WithinLimits (v : Json) : Prop where
  nodes : node_count v ≤ max_json_nodes
  depth : json_depth v ≤ max_json_depth
  ints : v.intsFit = true
  wf : v.Wf

theorem validate_json_value_iff {v : Json} {failure : Failure} {u : Unit} :
    validate_json_value v failure = .ok u ↔ WithinLimits v := by
  rw [validate_json_value, ensure_ok]
  simp only [Bool.and_eq_true, decide_eq_true_eq]
  exact ⟨fun h => ⟨h.1.1.1, h.1.1.2, h.1.2, h.2⟩, fun h => ⟨⟨⟨h.nodes, h.depth⟩, h.ints⟩, h.wf⟩⟩

/-- A record that a proposal may hold. -/
structure RecordFields (record : Json) : Prop where
  obj : record.isObj = true
  keys : record.keys ≠ []
  id : is_nonempty_str (item record "id") = true
  verified_at : "verified_at" ∉ record.keys ∨ is_verified_at (item record "verified_at") = true
  texts : ∀ k ∈ ["status", "nu"], item record k = .null ∨ is_str (item record k) = true
  subject_ref : "subject_ref" ∉ record.keys ∨
    (parse_subject_ref (item record "subject_ref")).isSome = true

theorem validate_record_fields_ok {record : Json} {code place : String} {u : Unit} :
    validate_record_fields record code place = .ok u ↔ RecordFields record := by
  simp only [validate_record_fields, bind_ok, ensure_ok, exists_const, forM_ok, Bool.and_eq_true,
    Bool.or_eq_true, Bool.not_eq_true', ← Bool.not_eq_true, List.contains_iff_mem, decide_eq_true_eq]
  refine ⟨?_, fun h => ⟨⟨h.obj, h.keys⟩, h.id, h.verified_at, h.texts, h.subject_ref⟩⟩
  rintro ⟨⟨h1, h2⟩, h3, h4, h5, h6⟩
  exact ⟨h1, h2, h3, h4, h5, h6⟩

/-- The lineage of a proposal. -/
structure ProposalLineage (lineage : Json) : Prop where
  obj : lineage.isObj = true
  keys : ∀ k, k ∈ lineage.keys ↔ k ∈ ["derived_from_retrieval", "refs"]
  derived : is_bool (item lineage "derived_from_retrieval") = true
  refs : is_list (item lineage "refs") = true
  valid : ∀ r ∈ elems (item lineage "refs"),
    validate_reference r "invalid_write_proposal" "lineage.refs[]:invalid" = .ok ()

/-- What both kinds of proposal have. -/
structure ProposalFrame (p : Json) : Prop where
  obj : p.isObj = true
  base : is_digest (item p "base_revision") = true
  stream : one_of (item p "stream") stream_names = true
  representation : one_of (item p "requested_representation") representation_names = true
  lineage : ProposalLineage (item p "lineage")
  limits : WithinLimits p

theorem lineage_iff {lineage : Json} :
    (lineage.isObj = true ∧
      ((∀ k ∈ ["derived_from_retrieval", "refs"], k ∈ lineage.keys) ∧
        ∀ k ∈ lineage.keys, k ∈ ["derived_from_retrieval", "refs"] ++ []) ∧
      is_bool (item lineage "derived_from_retrieval") = true ∧
      is_list (item lineage "refs") = true ∧
      ∃ u, validate_lineage_refs (item lineage "refs") "invalid_write_proposal" = .ok u) ↔
      ProposalLineage lineage := by
  simp only [validate_lineage_refs, forM_ok, exists_const, List.append_nil]
  exact ⟨fun ⟨ho, ⟨h1, h2⟩, hd, hr, hv⟩ => ⟨ho, fun k => ⟨h2 k, h1 k⟩, hd, hr, hv⟩,
    fun h => ⟨h.obj, ⟨fun k => (h.keys k).2, fun k => (h.keys k).1⟩, h.derived, h.refs, h.valid⟩⟩

/-! ## Proposals of one record -/

/-- The keys that every proposal has, around the one of its records. -/
def proposal_keys (records : String) : List String :=
  ["schema", "base_revision", "stream", "operation", "requested_representation", records, "lineage"]

/-- A proposal of one record that the policy looks at. -/
structure SingleProposal (p : Json) : Prop extends ProposalFrame p where
  keys_required : ∀ k ∈ proposal_keys "record", k ∈ p.keys
  keys_allowed : ∀ k ∈ p.keys, k ∈ proposal_keys "record" ++ ["supersedes"]
  schema : item p "schema" = .str "an-kla/write-proposal-v1"
  operation : one_of (item p "operation") operation_names = true
  record : RecordFields (item p "record")
  target : item p "operation" = .str "supersede" →
    is_nonempty_str (item p "supersedes") = true ∧ item p "supersedes" ≠ item (item p "record") "id"
  no_target : item p "operation" ≠ .str "supersede" → "supersedes" ∉ p.keys

theorem validate_single_proposal_ok {p : Json} {u : Unit} :
    validate_single_proposal p = .ok u ↔ SingleProposal p := by
  simp only [validate_single_proposal, bind_ok, ensure_ok, exists_const, require_exact_keys_ok,
    validate_record_fields_ok, decide_eq_true_eq]
  by_cases hop : item p "operation" = .str "supersede"
  · rw [if_pos hop]
    simp only [bind_ok, ensure_ok, exists_const, decide_eq_true_eq, require_exact_keys_ok,
      validate_json_value_iff, exists_and_right]
    constructor
    · rintro ⟨obj, ⟨hreq, hall⟩, schema, base, stream, operation, representation, record, h1, h2,
        l1, l2, l3, l4, l5, limits⟩
      exact { obj, base, stream, representation, limits, schema, operation, record
              lineage := lineage_iff.1 ⟨l1, l2, l3, l4, l5⟩
              keys_required := hreq
              keys_allowed := hall
              target := fun _ => ⟨h1, h2⟩
              no_target := fun h => absurd hop h }
    · intro h
      obtain ⟨l1, l2, l3, l4, l5⟩ := lineage_iff.2 h.lineage
      exact ⟨h.obj, ⟨h.keys_required, h.keys_allowed⟩, h.schema, h.base, h.stream, h.operation,
        h.representation, h.record, (h.target hop).1, (h.target hop).2, l1, l2, l3, l4, l5, h.limits⟩
  · rw [if_neg hop]
    simp only [bind_ok, ensure_ok, exists_const, require_exact_keys_ok, validate_json_value_iff,
      exists_and_right, Bool.not_eq_true', ← Bool.not_eq_true, List.contains_iff_mem]
    constructor
    · rintro ⟨obj, ⟨hreq, hall⟩, schema, base, stream, operation, representation, record, h1,
        l1, l2, l3, l4, l5, limits⟩
      exact { obj, base, stream, representation, limits, schema, operation, record
              lineage := lineage_iff.1 ⟨l1, l2, l3, l4, l5⟩
              keys_required := hreq
              keys_allowed := hall
              target := fun h => absurd h hop
              no_target := fun _ => h1 }
    · intro h
      obtain ⟨l1, l2, l3, l4, l5⟩ := lineage_iff.2 h.lineage
      exact ⟨h.obj, ⟨h.keys_required, h.keys_allowed⟩, h.schema, h.base, h.stream, h.operation,
        h.representation, h.record, h.no_target hop, l1, l2, l3, l4, l5, h.limits⟩

/-! ## Batches -/

/-- The ids of the records of a batch. -/
def batch_ids (p : Json) : List String := (elems (item p "records")).map fun r => py_str (item r "id")

/-- The targets of a batch that supersedes: one for each of its records, and none of them
    in the batch. -/
structure BatchTargets (p : Json) : Prop where
  obj : (item p "supersedes").isObj = true
  keys : ∀ k, k ∈ (item p "supersedes").keys ↔ k ∈ batch_ids p
  valid : ∀ k ∈ (item p "supersedes").keys, is_nonempty_str (item (item p "supersedes") k) = true
  self : ∀ k ∈ (item p "supersedes").keys, item (item p "supersedes") k ≠ .str k
  outside : ∀ k ∈ (item p "supersedes").keys,
    one_of (item (item p "supersedes") k) (batch_ids p) = false
  nodup : ((item p "supersedes").keys.map (item (item p "supersedes"))).Nodup

/-- A batch that the policy looks at. -/
structure BatchProposal (p : Json) : Prop extends ProposalFrame p where
  keys_required : ∀ k ∈ proposal_keys "records", k ∈ p.keys
  keys_allowed : ∀ k ∈ p.keys, k ∈ proposal_keys "records" ++ ["supersedes"]
  schema : item p "schema" = .str "an-kla/write-proposal-v2"
  operation : one_of (item p "operation") ["add", "supersede"] = true
  list : is_list (item p "records") = true
  records_ne : elems (item p "records") ≠ []
  records_le : (elems (item p "records")).length ≤ max_batch_records
  records : ∀ r ∈ elems (item p "records"), RecordFields r
  ids : (batch_ids p).Nodup
  targets : item p "operation" = .str "supersede" → BatchTargets p
  no_target : item p "operation" ≠ .str "supersede" → "supersedes" ∉ p.keys

theorem validate_batch_proposal_ok {p : Json} {u : Unit}
    (h : validate_batch_proposal p = .ok u) : BatchProposal p := by
  simp only [validate_batch_proposal, bind_ok, ensure_ok, exists_const, require_exact_keys_ok,
    decide_eq_true_eq] at h
  obtain ⟨obj, ⟨hreq, hall⟩, schema, stream, operation, representation, base, hlist, hlen, _, hrec,
    ids, h⟩ := h
  rw [Bool.and_eq_true, decide_eq_true_eq] at hlist
  have records : ∀ r ∈ elems (item p "records"), RecordFields r := by
    intro r hr
    rw [← List.zipIdx_map_fst 0 (elems (item p "records"))] at hr
    obtain ⟨x, hx, rfl⟩ := List.mem_map.1 hr
    exact validate_record_fields_ok.1 (forM_ok.1 hrec x hx)
  by_cases hop : item p "operation" = .str "supersede"
  · rw [if_pos hop] at h
    simp only [bind_ok, ensure_ok, exists_const, decide_eq_true_eq, exact_keys_iff,
      validate_json_value_iff, exists_and_right, Bool.and_eq_true, List.all_eq_true,
      List.contains_iff_mem] at h
    obtain ⟨⟨⟨t1, t2⟩, t3⟩, t4, t5, t6, t7, ⟨l1, l2⟩, l3, l4, ⟨_, l5⟩, limits⟩ := h
    exact { obj, base, stream, representation, limits, schema, operation, records, ids
            lineage := ⟨l1, l2, l3, l4, forM_ok.1 l5⟩
            keys_required := hreq
            keys_allowed := hall
            list := hlist.1
            records_ne := hlist.2
            records_le := hlen
            targets := fun _ =>
              { obj := t1
                keys := fun k => ⟨t2 k, t3 k⟩
                valid := fun k hk => t4 _ (List.mem_map_of_mem hk)
                self := t5
                outside := fun k hk => by simpa [batch_ids] using t6 _ (List.mem_map_of_mem hk)
                nodup := t7 }
            no_target := fun h => absurd hop h }
  · rw [if_neg hop] at h
    simp only [bind_ok, ensure_ok, exists_const, exact_keys_iff, validate_json_value_iff,
      exists_and_right, Bool.not_eq_true', ← Bool.not_eq_true, List.contains_iff_mem] at h
    obtain ⟨t1, ⟨l1, l2⟩, l3, l4, ⟨_, l5⟩, limits⟩ := h
    exact { obj, base, stream, representation, limits, schema, operation, records, ids
            lineage := ⟨l1, l2, l3, l4, forM_ok.1 l5⟩
            keys_required := hreq
            keys_allowed := hall
            list := hlist.1
            records_ne := hlist.2
            records_le := hlen
            targets := fun h => absurd h hop
            no_target := fun _ => t1 }

/-! ## Items of a valid object -/

theorem item_of_not_mem {v : Json} {k : String} (h : k ∉ v.keys) : item v k = .null := by
  cases v with
  | obj kvs =>
    rw [item, Json.get?, List.find?_eq_none.2]
    · rfl
    · intro kv hkv he
      exact h (List.mem_map.2 ⟨kv, hkv, by simpa using he⟩)
  | _ => rfl

/-- The items of a value are smaller than it is. -/
theorem item_le {v : Json} {k : String} (hk : k ∈ v.keys) :
    node_count (item v k) < node_count v ∧ json_depth (item v k) < json_depth v := by
  cases v with
  | obj kvs =>
    obtain ⟨kv, hkv, rfl⟩ := List.mem_map.1 hk
    have hmem : ∃ lw ∈ kvs, item (.obj kvs) kv.1 = lw.2 := by
      rw [item, Json.get?]
      cases hf : kvs.find? fun x => x.1 = kv.1 with
      | none => exact (by simpa using List.find?_eq_none.1 hf kv hkv : False).elim
      | some lw => exact ⟨lw, List.mem_of_find?_eq_some hf, rfl⟩
    obtain ⟨lw, hlw, he⟩ := hmem
    rw [he, node_count, json_depth]
    refine ⟨?_, Nat.lt_of_succ_le (json_depth_items_le.1 le_rfl lw hlw)⟩
    have hle : node_count lw.2 ≤ node_count_items kvs := by
      rw [node_count_items_eq]
      exact List.single_le_sum (by simp) _ (List.mem_map_of_mem (f := fun x => node_count x.2) hlw)
    omega
  | _ => exact absurd hk List.not_mem_nil

/-! ## Twins -/

/-- The items of a twin. -/
def twin_items (p : Json) : List (String × Json) :=
  let record := (elems (item p "records")).headD .null
  [("schema", .str "an-kla/write-proposal-v1"), ("base_revision", item p "base_revision"),
    ("stream", item p "stream"), ("operation", item p "operation"),
    ("requested_representation", item p "requested_representation"), ("record", record),
    ("lineage", item p "lineage")] ++
  if item p "operation" = .str "supersede" then
    [("supersedes", item (item p "supersedes") (py_str (item record "id")))] else []

theorem twin_v1_eq (p : Json) : twin_v1 p = dict (twin_items p) := rfl

theorem nodup_twin (p : Json) : ((twin_items p).map Prod.fst).Nodup := by
  rw [twin_items]
  split_ifs <;> simp

theorem item_twin {p : Json} {k : String} {v : Json} (h : (k, v) ∈ twin_items p) :
    item (twin_v1 p) k = v := item_dict (nodup_twin p) h

/-- The twin repeats the frame of the batch. -/
theorem item_twin_frame (p : Json) {k : String}
    (hk : k ∈ ["base_revision", "stream", "operation", "requested_representation", "lineage"]) :
    item (twin_v1 p) k = item p k := by
  refine item_twin ?_
  simp only [List.mem_cons, List.not_mem_nil, or_false] at hk
  obtain rfl | rfl | rfl | rfl | rfl := hk <;> simp [twin_items]

theorem py_str_of_nonempty {v : Json} (h : is_nonempty_str v = true) : v = .str (py_str v) := by
  cases v with
  | str s => rfl
  | _ => cases h

theorem one_of_mono {v : Json} {names names' : List String} (h : names ⊆ names')
    (hv : one_of v names = true) : one_of v names' = true := by
  cases v with
  | str s => exact List.contains_iff_mem.2 (h (List.contains_iff_mem.1 hv))
  | _ => cases hv

theorem node_count_pos (v : Json) : 1 ≤ node_count v := by
  cases v <;> simp [node_count]

/-- The keys of a batch. -/
def batch_keys (p : Json) : List String :=
  proposal_keys "records" ++ if item p "operation" = .str "supersede" then ["supersedes"] else []

theorem BatchProposal.mem_keys {p : Json} (h : BatchProposal p) (k : String) :
    k ∈ p.keys ↔ k ∈ batch_keys p := by
  rw [batch_keys, List.mem_append]
  constructor
  · intro hk
    obtain hk' | hk' := List.mem_append.1 (h.keys_allowed k hk)
    · exact .inl hk'
    · obtain rfl := List.mem_singleton.1 hk'
      by_cases hop : item p "operation" = .str "supersede"
      · rw [if_pos hop]
        exact .inr hk'
      · exact absurd hk (h.no_target hop)
  · rintro (hk | hk)
    · exact h.keys_required k hk
    · split_ifs at hk with hop
      · obtain rfl := List.mem_singleton.1 hk
        by_contra hno
        have hobj := (h.targets hop).obj
        rw [item_of_not_mem hno] at hobj
        cases hobj
      · exact absurd hk List.not_mem_nil

/-- What the twin repeats is in the batch. -/
theorem mem_of_mem_twin {p : Json} (h : BatchProposal p) {kv : String × Json}
    (hkv : kv ∈ twin_items p) : (∃ s, kv.2 = .str s) ∨ kv.2 ∈ elems (item p "records") ∨
      ∃ k ∈ p.keys, kv.2 = item p k := by
  obtain ⟨record, rest, hrecords⟩ := List.exists_cons_of_ne_nil h.records_ne
  have hrec : record ∈ elems (item p "records") := hrecords ▸ List.mem_cons_self
  have hhead : (elems (item p "records")).headD .null = record := by rw [hrecords]; rfl
  have hframe {k : String} (hk : k ∈ proposal_keys "records") : k ∈ p.keys := h.keys_required k hk
  rw [twin_items, hhead, List.mem_append] at hkv
  obtain hkv | hkv := hkv
  · simp only [List.mem_cons, List.not_mem_nil, or_false] at hkv
    obtain rfl | rfl | rfl | rfl | rfl | rfl | rfl := hkv
    · exact .inl ⟨_, rfl⟩
    · exact .inr (.inr ⟨"base_revision", hframe (by simp [proposal_keys]), rfl⟩)
    · exact .inr (.inr ⟨"stream", hframe (by simp [proposal_keys]), rfl⟩)
    · exact .inr (.inr ⟨"operation", hframe (by simp [proposal_keys]), rfl⟩)
    · exact .inr (.inr ⟨"requested_representation", hframe (by simp [proposal_keys]), rfl⟩)
    · exact .inr (.inl hrec)
    · exact .inr (.inr ⟨"lineage", hframe (by simp [proposal_keys]), rfl⟩)
  · split_ifs at hkv with hop
    · obtain rfl := List.mem_singleton.1 hkv
      have ht := h.targets hop
      exact .inl ⟨_, py_str_of_nonempty (ht.valid _ ((ht.keys _).2 (List.mem_map_of_mem hrec)))⟩
    · exact absurd hkv List.not_mem_nil

theorem eq_arr_of_list {v : Json} (h : is_list v = true) : v = .arr (elems v) := by
  cases v with
  | arr xs => rfl
  | _ => cases h

/-- A twin has no more values than its batch. -/
theorem node_count_twin {p : Json} (h : BatchProposal p) :
    node_count (twin_v1 p) ≤ node_count p := by
  obtain ⟨record, rest, hrecords⟩ := List.exists_cons_of_ne_nil h.records_ne
  have hhead : (elems (item p "records")).headD .null = record := by rw [hrecords]; rfl
  have hn : (batch_keys p).Nodup := by
    rw [batch_keys, proposal_keys]
    split_ifs <;> simp
  have hp : node_count p = 1 + node_count_items ((batch_keys p).map fun k => (k, item p k)) := by
    conv_lhs => rw [eq_dict_of_keys h.obj h.limits.wf hn h.mem_keys]
    refine node_count_dict ?_
    rw [List.map_map]
    exact (List.map_id _).symm ▸ hn
  have hlist : node_count (item p "records") = 1 + (node_count record + node_count_list rest) := by
    rw [eq_arr_of_list h.list, node_count, hrecords, node_count_list]
  rw [hp, twin_v1_eq, node_count_dict (nodup_twin p), twin_items, hhead, batch_keys, proposal_keys]
  have hstr := node_count_pos (item p "schema")
  by_cases hop : item p "operation" = .str "supersede"
  · have ht := h.targets hop
    have hmem : record ∈ elems (item p "records") := hrecords ▸ List.mem_cons_self
    have hone : node_count (item (item p "supersedes") (py_str (item record "id"))) = 1 := by
      rw [py_str_of_nonempty (ht.valid _ ((ht.keys _).2 (List.mem_map_of_mem hmem))), node_count_str]
    have hsup := node_count_pos (item p "supersedes")
    simp only [if_pos hop, List.cons_append, List.nil_append, List.map_cons, List.map_nil,
      node_count_items, node_count_str, hone, hlist]
    omega
  · simp only [if_neg hop, List.append_nil, List.map_cons, List.map_nil, node_count_items,
      node_count_str, hlist]
    omega

/-- The limits allow the twin of a batch. -/
theorem limits_of_twin {p : Json} (h : BatchProposal p) : WithinLimits (twin_v1 p) := by
  have hstorable : Storable p := ⟨h.limits.wf, h.limits.ints⟩
  have hitem {kv : String × Json} (hkv : kv ∈ twin_items p) :
      Storable kv.2 ∧ json_depth kv.2 + 1 ≤ json_depth p := by
    have hpos : 1 ≤ json_depth p := by
      have := (item_le (h.keys_required "schema" (by simp [proposal_keys]))).2
      omega
    obtain ⟨s, hs⟩ | hr | ⟨k, hk, hs⟩ := mem_of_mem_twin h hkv
    · rw [hs]
      exact ⟨⟨trivial, rfl⟩, hpos⟩
    · refine ⟨storable_elems (storable_item hstorable _) _ hr, ?_⟩
      have hlt := (item_le (h.keys_required "records" (by simp [proposal_keys]))).2
      rw [eq_arr_of_list h.list, json_depth] at hlt
      have := json_depth_list_le.1 le_rfl _ hr
      omega
    · rw [hs]
      exact ⟨storable_item hstorable k, (item_le hk).2⟩
  refine ⟨(node_count_twin h).trans h.limits.nodes, ?_, ?_, ?_⟩
  · rw [twin_v1_eq, json_depth_le_dict (nodup_twin p)]
    exact fun kv hkv => (hitem hkv).2.trans h.limits.depth
  · rw [twin_v1_eq, intsFit_dict (nodup_twin p)]
    exact fun kv hkv => (hitem hkv).1.2
  · rw [twin_v1_eq, wf_dict_iff (nodup_twin p)]
    exact fun kv hkv => (hitem hkv).1.1

/-- The twin of a valid batch is a valid proposal of one record. -/
theorem single_of_twin {p : Json} (h : BatchProposal p) : SingleProposal (twin_v1 p) := by
  obtain ⟨record, rest, hrecords⟩ := List.exists_cons_of_ne_nil h.records_ne
  have hrec : record ∈ elems (item p "records") := hrecords ▸ List.mem_cons_self
  have hhead : (elems (item p "records")).headD .null = record := by rw [hrecords]; rfl
  have hvalid := h.records record hrec
  have hid : item record "id" = .str (py_str (item record "id")) := py_str_of_nonempty hvalid.id
  have hrecord : item (twin_v1 p) "record" = record := by
    rw [← hhead]
    exact item_twin (by simp [twin_items])
  have hop := item_twin_frame p (k := "operation") (by simp)
  have hkey : py_str (item record "id") ∈ batch_ids p := List.mem_map_of_mem hrec
  have htarget (hs : item p "operation" = .str "supersede") :
      item (twin_v1 p) "supersedes" = item (item p "supersedes") (py_str (item record "id")) := by
    rw [← hhead]
    exact item_twin (by simp [twin_items, hs])
  have hkeys (k : String) : k ∈ (twin_v1 p).keys ↔ k ∈ (twin_items p).map Prod.fst :=
    mem_keys_dict (nodup_twin p)
  refine { obj := rfl, base := ?_, stream := ?_, representation := ?_, lineage := ?_, limits := ?_
           keys_required := ?_, keys_allowed := ?_, schema := ?_, operation := ?_, record := ?_
           target := ?_, no_target := ?_ }
  · rw [item_twin_frame p (by simp)]
    exact h.base
  · rw [item_twin_frame p (by simp)]
    exact h.stream
  · rw [item_twin_frame p (by simp)]
    exact h.representation
  · rw [item_twin_frame p (by simp)]
    exact h.lineage
  · exact limits_of_twin h
  · intro k hk
    rw [hkeys, twin_items, List.map_append]
    exact List.mem_append_left _ hk
  · intro k hk
    rw [hkeys, twin_items, List.map_append, List.mem_append] at hk
    obtain hk | hk := hk
    · exact List.mem_append_left _ hk
    · refine List.mem_append_right _ ?_
      split_ifs at hk
      · exact hk
      · exact absurd hk List.not_mem_nil
  · exact item_twin (by simp [twin_items])
  · rw [hop]
    exact one_of_mono (by simp [operation_names]) h.operation
  · rw [hrecord]
    exact hvalid
  · intro hs
    rw [hop] at hs
    have ht := h.targets hs
    have hk := (ht.keys _).2 hkey
    rw [htarget hs, hrecord, hid]
    exact ⟨ht.valid _ hk, ht.self _ hk⟩
  · intro hs hmem
    rw [hop] at hs
    rw [hkeys, twin_items, if_neg hs] at hmem
    simp at hmem

end AnKla
