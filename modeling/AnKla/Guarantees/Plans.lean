import AnKla.Guarantees.Authority
import AnKla.Guarantees.Segments

/-!
# Plans are verified

The planner embeds the records of a proposal in a plan, and the commit checks the plan as a
whole: its limits are the ones of the proposal, on more values and deeper ones.

* `policy_decision`: what the policy decides is a valid decision.
* `planned_records`, `plan_size`: the records that a plan should hold, and its size.
* `PlansVerified`: what the planner builds is what the commit accepts.
* `plans_verified_iff`: when it is so.
-/

namespace AnKla

open PyJson

variable {H : Crypto}

/-! ## Decisions of the policy -/

/-- The reason codes of the policy. -/
def reason_codes : List String :=
  ["authority_scope_mismatch", "channel_confirmation_resolved",
    "channel_confirmed_requires_adapter", "derived_authority_capped",
    "derived_from_retrieval", "operation_not_supported", "record_without_indexable_text",
    "representation_accepted", "self_asserted_authority_ignored",
    "summary_required_for_authority_ceiling", "supersede_requires_non_derived_authority",
    "tool_evidence_verified", "unresolved_authority"]

theorem texts_str_list (names : List String) : texts (str_list names) = names := by
  rw [texts, str_list, elems, List.map_map]
  exact List.map_id _

theorem mem_sorted_set {names : List String} {s : String} : s ∈ sorted_set names ↔ s ∈ names := by
  rw [sorted_set, List.mem_dedup, List.mem_insertionSort]

theorem nodup_sorted_set (names : List String) : (sorted_set names).Nodup := List.nodup_dedup _

theorem sorted_sorted_set (names : List String) : (sorted_set names).Pairwise (· ≤ ·) :=
  (List.pairwise_insertionSort _ _).sublist (List.dedup_sublist _)

theorem sorted_set_idem (names : List String) :
    sorted_set (sorted_set names) = sorted_set names := by
  conv_lhs => rw [sorted_set, List.Pairwise.insertionSort_eq (sorted_sorted_set names)]
  exact (nodup_sorted_set names).dedup

/-- The reasons of the policy are some of its codes, and there is one. -/
theorem decide_single_snd (p a : Json) :
    (decide_single H p a).2 ⊆ reason_codes ∧ (decide_single H p a).2 ≠ [] := by
  have hif {c : Prop} [Decidable c] {s : String} {l : List String} (hs : s ∈ reason_codes)
      (hl : l ⊆ reason_codes) : (if c then s :: l else l) ⊆ reason_codes := by
    split_ifs
    · exact List.cons_subset.2 ⟨hs, hl⟩
    · exact hl
  have hcons {s : String} {l : List String} (hs : s ∈ reason_codes) (hl : l ⊆ reason_codes) :
      s :: l ⊆ reason_codes ∧ s :: l ≠ [] := ⟨List.cons_subset.2 ⟨hs, hl⟩, List.cons_ne_nil _ _⟩
  have hself : (if contains_self_asserted_authority (item p "record") = true then
      ["self_asserted_authority_ignored"] else []) ⊆ reason_codes :=
    hif (by simp [reason_codes]) (List.nil_subset _)
  simp only [decide_single, apply_ite Prod.snd]
  generalize (if contains_self_asserted_authority (item p "record") = true then
    ["self_asserted_authority_ignored"] else []) = self at hself ⊢
  have hder : (if item (item p "lineage") "derived_from_retrieval" = .bool true then
      "derived_from_retrieval" :: self else self) ⊆ reason_codes :=
    hif (by simp [reason_codes]) hself
  generalize (if item (item p "lineage") "derived_from_retrieval" = .bool true then
    "derived_from_retrieval" :: self else self) = derived at hder ⊢
  have hclass : (if item a "authority_class" ≠ .str "tool_observed" then
      "derived_authority_capped" else "tool_evidence_verified") ∈ reason_codes := by
    split_ifs <;> simp [reason_codes]
  generalize (if item a "authority_class" ≠ .str "tool_observed" then
    "derived_authority_capped" else "tool_evidence_verified") = class_code at hclass ⊢
  have hcapped : class_code :: derived ⊆ reason_codes := (hcons hclass hder).1
  have htext : (if record_text (item p "record") = "" then
      "record_without_indexable_text" :: class_code :: derived else class_code :: derived) ⊆
        reason_codes := hif (by simp [reason_codes]) hcapped
  generalize (if record_text (item p "record") = "" then
    "record_without_indexable_text" :: class_code :: derived else class_code :: derived) = accepted
    at htext ⊢
  split_ifs
  · exact hcons (by simp [reason_codes]) hself
  · exact hcons (by simp [reason_codes]) hself
  · exact hcons (by simp [reason_codes]) hder
  · exact hcons (by simp [reason_codes]) hder
  · exact hcons (by simp [reason_codes]) hder
  · exact hcons (by simp [reason_codes]) hcapped
  · exact hcons (by simp [reason_codes]) hcapped
  · exact hcons (by simp [reason_codes]) htext

/-- What the policy decides is a decision with reasons of its own. -/
structure PolicyDecision (H : Crypto) (p a x : Json) (decision : String) (reasons : List String) :
    Prop where
  eq : x = decision_object H (H.json_ident p) (H.json_ident a) decision reasons
  name : decision ∈ decision_names
  reasons_ne : reasons ≠ []
  codes : reasons ⊆ reason_codes

theorem policy_decision {p a x : Json} (h : evaluate_write H p a = .ok x) :
    ∃ decision reasons, PolicyDecision H p a x decision reasons := by
  have hname {q b : Json} : (decide_single H q b).1 ∈ decision_names := by
    rw [decide_single_fst]
    split_ifs
    · obtain hl | hl | hl := ladder_cases q b <;> simp [hl, decision_names]
    · simp [decision_names]
  rw [evaluate_write] at h
  split_ifs at h
  · rw [evaluate_batch] at h
    obtain ⟨_, hp, h⟩ := bind_ok.1 h
    obtain ⟨_, ha, h⟩ := bind_ok.1 h
    obtain ⟨twin, htwin, h⟩ := bind_ok.1 h
    rw [evaluate_single_eq (single_of_twin (validate_batch_proposal_ok hp))] at htwin
    obtain ⟨_, -, rfl⟩ := map_ok.1 htwin
    have hreasons : texts (item (decision_object H (H.json_ident (twin_v1 p))
        (H.json_ident (twin_authority H (twin_v1 p) a))
        (decide_single H (twin_v1 p) (twin_authority H (twin_v1 p) a)).1
        (decide_single H (twin_v1 p) (twin_authority H (twin_v1 p) a)).2) "reason_codes") =
        sorted_set (decide_single H (twin_v1 p) (twin_authority H (twin_v1 p) a)).2 := by
      rw [decision_object, item_dict (k := "reason_codes") (by simp) (by simp; rfl), texts_str_list]
    obtain ⟨hcodes, hne⟩ := decide_single_snd (H := H) (twin_v1 p) (twin_authority H (twin_v1 p) a)
    have hsub : sorted_set (decide_single H (twin_v1 p) (twin_authority H (twin_v1 p) a)).2 ⊆
        reason_codes := fun s hs => hcodes (mem_sorted_set.1 hs)
    have hne' : sorted_set (decide_single H (twin_v1 p) (twin_authority H (twin_v1 p) a)).2 ≠ [] :=
      fun h => hne (sorted_set_eq_nil.1 h)
    simp only [hreasons, item_decision_object, py_str] at h
    split at h
    · obtain rfl := pure_ok.1 h
      exact ⟨_, _, rfl, by simp [decision_names], by simp,
        List.append_subset.2 ⟨hsub, by simp [reason_codes]⟩⟩
    · obtain rfl := pure_ok.1 h
      refine ⟨_, _, rfl, hname, by simp [hne'],
        List.append_subset.2 ⟨List.append_subset.2 ⟨hsub, ?_⟩, ?_⟩⟩
      · split_ifs <;> simp [reason_codes]
      · split_ifs <;> simp [reason_codes]
  · rw [evaluate_single] at h
    obtain ⟨_, -, h⟩ := bind_ok.1 h
    obtain ⟨_, -, h⟩ := bind_ok.1 h
    obtain rfl := pure_ok.1 h
    obtain ⟨hcodes, hne⟩ := decide_single_snd (H := H) p a
    exact ⟨_, _, rfl, hname, hne, hcodes⟩

namespace PolicyDecision

variable {p a x : Json} {decision : String} {reasons : List String}
variable (h : PolicyDecision H p a x decision reasons)
include h

theorem item_decision : item x "decision" = .str decision := by
  rw [h.eq]
  exact item_decision_object _ _ _ _

theorem item_proposal : item x "proposal_sha256" = H.json_ident p := by
  rw [h.eq]
  exact item_dict (by simp) (by simp)

theorem item_authority : item x "authority_sha256" = H.json_ident a := by
  rw [h.eq]
  exact item_dict (by simp) (by simp)

theorem item_profile : item x "policy_profile" = .str write_policy_profile := by
  rw [h.eq]
  exact item_dict (by simp) (by simp)

theorem item_fingerprint : item x "policy_fingerprint" = write_policy_fingerprint H := by
  rw [h.eq]
  exact item_dict (by simp) (by simp)

theorem item_reasons : item x "reason_codes" = str_list (sorted_set reasons) := by
  rw [h.eq]
  exact item_dict (by simp) (by simp)

theorem length_le : (sorted_set reasons).length ≤ 13 := by
  have hsub : sorted_set reasons ⊆ reason_codes := fun s hs => h.codes (mem_sorted_set.1 hs)
  exact (List.subperm_of_subset (nodup_sorted_set reasons) hsub).length_le

theorem limits : WithinLimits x := by
  have hlen := h.length_le
  have hdepth := json_depth_str_list (sorted_set reasons)
  rw [h.eq, decision_object, write_policy_fingerprint]
  simp only [Crypto.json_ident]
  have hstorable : Storable (dict
      [("schema", .str "an-kla/write-decision-v1"),
        ("proposal_sha256", .str (ident (H.digest_json p))),
        ("authority_sha256", .str (ident (H.digest_json a))),
        ("policy_profile", .str write_policy_profile),
        ("policy_fingerprint", .str (ident (H.digest_json policy_configuration))),
        ("decision", .str decision), ("reason_codes", str_list (sorted_set reasons))]) := by
    rw [storable_dict (by simp)]
    simp
  refine ⟨?_, ?_, hstorable.2, hstorable.1⟩
  · rw [node_count_dict (by simp)]
    simp only [node_count_items, node_count_str, node_count_str_list, max_json_nodes]
    omega
  · rw [json_depth_le_dict (by simp)]
    simp only [List.forall_mem_cons, json_depth_str, max_json_depth]
    refine ⟨by omega, by omega, by omega, by omega, by omega, by omega, by omega, ?_⟩
    exact fun _ hkv => absurd hkv List.not_mem_nil

/-- What the policy decides is a valid decision. -/
theorem valid : validate_write_decision x = .ok () := by
  have hlist : item x "reason_codes" = .arr ((sorted_set reasons).map .str) := h.item_reasons
  have hkeys (k : String) : k ∈ x.keys ↔ k ∈ ["schema", "proposal_sha256", "authority_sha256",
      "policy_profile", "policy_fingerprint", "decision", "reason_codes"] := by
    rw [h.eq]
    exact mem_keys_dict (by simp)
  have hschema : item x "schema" = .str "an-kla/write-decision-v1" := by
    rw [h.eq]
    exact item_dict (by simp) (by simp)
  have hobj : x.isObj = true := by
    rw [h.eq]
    rfl
  have hne : sorted_set reasons ≠ [] := fun hs => h.reasons_ne (sorted_set_eq_nil.1 hs)
  have hcodes : ∀ s ∈ reason_codes, is_reason_code (.str s) = true := by decide
  have hall : ((sorted_set reasons).map Json.str).all is_reason_code = true := by
    rw [List.all_map, List.all_eq_true]
    exact fun s hs => hcodes s (h.codes (mem_sorted_set.1 hs))
  have htexts : texts (item x "reason_codes") = sorted_set reasons := by
    rw [h.item_reasons, texts_str_list]
  simp only [validate_write_decision, bind_ok, ensure_ok, exists_const, require_exact_keys_ok,
    Bool.and_eq_true, decide_eq_true_eq, validate_json_value_iff, htexts]
  rw [hlist]
  refine ⟨hobj, ⟨fun k => (hkeys k).2, fun k hk => List.mem_append_left _ ((hkeys k).1 hk)⟩, hschema,
    ⟨?_, ?_⟩, ⟨h.item_profile, ?_⟩, ?_, ⟨⟨⟨rfl, ?_⟩, hall⟩, (sorted_set_idem reasons).symm⟩,
    h.limits⟩
  · rw [h.item_proposal]
    exact is_digest_json_ident p
  · rw [h.item_authority]
    exact is_digest_json_ident a
  · rw [h.item_fingerprint]
    exact is_digest_json_ident _
  · rw [h.item_decision]
    exact List.contains_iff_mem.2 h.name
  · simpa [elems] using hne

end PolicyDecision

/-! ## The decision of a caller -/

/-- The decision of the caller, if there is one, is the one of the policy. -/
def RightDecision (decision : Option Json) (x : Json) : Prop := ∀ y, decision = some y → y = x

theorem verified_decision_ok {p a : Json} {decision : Option Json} {x : Json} :
    verified_decision H p a decision = .ok x ↔
      evaluate_write H p a = .ok x ∧ RightDecision decision x := by
  rw [verified_decision, bind_ok]
  cases decision with
  | none =>
    simp only [pure_ok, RightDecision, reduceCtorEq, false_implies, implies_true, and_true,
      exists_eq_right]
  | some y =>
    simp only [bind_ok, ensure_ok, exists_const, decide_eq_true_eq, Bool.and_eq_true, pure_ok,
      RightDecision, Option.some.injEq, forall_eq']
    constructor
    · rintro ⟨z, hz, -, -, -, -, rfl, rfl⟩
      exact ⟨hz, rfl⟩
    · rintro ⟨hx, rfl⟩
      obtain ⟨_, _, hd⟩ := policy_decision hx
      exact ⟨y, hx, (), hd.valid, rfl, ⟨rfl, rfl⟩, rfl, rfl⟩

/-! ## What a plan should hold -/

/-- The records of a proposal. -/
def proposal_records (p : Json) : List Json :=
  if is_batch p then elems (item p "records") else [item p "record"]

/-- What a record of a proposal supersedes. -/
def record_target (p r : Json) : Option Json :=
  if item p "operation" = .str "supersede" then
    some (if is_batch p then item (item p "supersedes") (py_str (item r "id"))
      else item p "supersedes")
  else none

/-- A planned event. -/
def planned_event (record : Json) : Json := dict
  [("stream", .str "events"), ("operation", .str "add"), ("representation", .str "summary"),
    ("record", record)]

/-- The record of a policy event, of the digest of a proposal. -/
def event_record (proposal_sha256 payload : Json) : Json := dict
  [("schema", .str "an-kla/event-v1"),
    ("id", .str ("e-write-policy-" ++
      String.ofList ((py_str proposal_sha256).toList.drop 7))),
    ("type", .str "write_policy_decision"), ("payload", payload)]

/-- The payload of a policy event. -/
def event_payload (a d : Json) : Json := dict
  [("authority_class", item a "authority_class"), ("authority_sha256", item d "authority_sha256"),
    ("decision", item d "decision"), ("policy_fingerprint", item d "policy_fingerprint"),
    ("policy_profile", item d "policy_profile"), ("proposal_sha256", item d "proposal_sha256"),
    ("reason_codes", item d "reason_codes")]

theorem policy_event_eq (a d : Json) : policy_event a d =
    planned_event (event_record (item d "proposal_sha256") (event_payload a d)) := rfl

variable (H) in
/-- The payload of the policy event of a batch: what the batch was decided, on the
    authority of its twin, and the digests of its records. -/
def batch_event_payload (p a x : Json) : Json :=
  let digests := (elems (item p "records")).map fun r => py_str (H.json_ident r)
  dict
    [("batch_records_sha256", str_list (digests.insertionSort (· ≤ ·))),
      ("reason_codes", item x "reason_codes"),
      ("decision", item x "decision"),
      ("proposal_sha256", item x "proposal_sha256"),
      ("authority_class", item a "authority_class"),
      ("authority_sha256", H.json_ident (rebind H a (twin_v1 p))),
      ("policy_fingerprint", item x "policy_fingerprint"),
      ("policy_profile", item x "policy_profile")]

variable (H) in
/-- The policy event of a batch, under the digest of its twin. -/
def batch_policy_event (p a x : Json) : Json :=
  planned_event (event_record (H.json_ident (twin_v1 p)) (batch_event_payload H p a x))

variable (H) in
/-- The records that a plan should hold: those of the proposal and one policy event. -/
def planned_records (p a x : Json) : List Json :=
  if item x "decision" = .str "skip" then []
  else (proposal_records p).map (fun r => planned_item p r (record_target p r)) ++
    [if is_batch p then batch_policy_event H p a x else policy_event a x]

/-- The first record of a batch poses as a policy event. -/
def Misled (p : Json) : Prop :=
  is_batch p = true ∧ item p "stream" = .str "events" ∧
    item ((elems (item p "records")).headD .null) "type" = .str "write_policy_decision"

theorem single_records_eq {p : Json} (hb : is_batch p = false) (a x : Json) :
    single_records p a x = planned_records H p a x := by
  simp only [single_records, planned_records, proposal_records, record_target, hb,
    Bool.false_eq_true, if_false, List.map_cons, List.map_nil, List.cons_append, List.nil_append]

theorem batch_items_eq {p : Json} (hb : is_batch p = true) :
    batch_items p = (proposal_records p).map fun r => planned_item p r (record_target p r) := by
  simp only [batch_items, proposal_records, record_target, hb, if_true]

theorem is_batch_twin (p : Json) : is_batch (twin_v1 p) = false := by
  rw [is_batch, twin_v1_eq, item_dict (nodup_twin p) (v := .str "an-kla/write-proposal-v1")]
  · simp
  · simp [twin_items]

theorem nodup_planned (p r : Json) (target : Option Json) :
    (([("stream", item p "stream"), ("operation", item p "operation"),
      ("representation", item p "requested_representation"), ("record", r)] ++
      match target with
      | some target => [("supersedes", target)]
      | none => []).map Prod.fst).Nodup := by
  cases target <;> simp

theorem item_planned_stream (p r : Json) (target : Option Json) :
    item (planned_item p r target) "stream" = item p "stream" :=
  item_dict (nodup_planned p r target) (by simp)

theorem item_planned_record (p r : Json) (target : Option Json) :
    item (planned_item p r target) "record" = r :=
  item_dict (nodup_planned p r target) (by simp)

/-- What the planner takes for a policy event. -/
def is_policy_event (x : Json) : Bool :=
  item x "stream" = .str "events" && item (item x "record") "type" = .str "write_policy_decision"

variable (H) in
/-- A payload with the fields of a batch. -/
def batch_payload (p x payload : Json) : Json :=
  let digests := (elems (item p "records")).map fun r => py_str (H.json_ident r)
  (((payload.set "proposal_sha256" (item x "proposal_sha256")).set
    "decision" (item x "decision")).set
    "reason_codes" (item x "reason_codes")).set
    "batch_records_sha256" (str_list (digests.insertionSort (· ≤ ·)))

variable (H) in
/-- The event of a batch, from what was taken for the event of its twin. -/
def event_of (p x event : Json) : Except Failure Json :=
  let record := item event "record"
  if (item record "payload").isObj then
    .ok (event.set "record" (record.set "payload" (batch_payload H p x (item record "payload"))))
  else .error (.value "payload")

theorem batch_event_cons (p x event : Json) (events : List Json) :
    batch_event H p x (event :: events) =
      if is_policy_event event then event_of H p x event else batch_event H p x events := by
  rw [batch_event, List.find?_cons, ← is_policy_event]
  cases is_policy_event event <;> rfl

theorem item_planned_event (record : Json) : item (planned_event record) "record" = record :=
  item_dict (by simp) (by simp)

theorem item_event_record (sha payload : Json) : item (event_record sha payload) "payload" = payload :=
  item_dict (by simp) (by simp)

theorem is_policy_event_policy (a d : Json) : is_policy_event (policy_event a d) = true := by
  rw [is_policy_event, policy_event_eq, item_planned_event, planned_event, event_record,
    item_dict (v := .str "events") (by simp) (by simp),
    item_dict (v := .str "write_policy_decision") (by simp) (by simp)]
  rfl

theorem set_planned_event (record record' : Json) :
    (planned_event record).set "record" record' = planned_event record' := by
  rw [planned_event, set_dict (by simp), planned_event]
  exact dict_perm (List.perm_append_singleton _ _).symm (by simp [drop_key])

theorem set_event_record (sha payload payload' : Json) :
    (event_record sha payload).set "payload" payload' = event_record sha payload' := by
  rw [event_record, set_dict (by simp), event_record]
  exact dict_perm (List.perm_append_singleton _ _).symm (by simp [drop_key])

/-- The event of a twin becomes the policy event of the batch. -/
theorem event_of_policy {p a x d : Json} {decision decision' : String} {reasons reasons' : List String}
    (hx : PolicyDecision H p a x decision reasons)
    (hd : PolicyDecision H (twin_v1 p) (rebind H a (twin_v1 p)) d decision' reasons') :
    event_of H p x (policy_event (rebind H a (twin_v1 p)) d) = .ok (batch_policy_event H p a x) := by
  have hclass : item (rebind H a (twin_v1 p)) "authority_class" = item a "authority_class" :=
    item_rebind_ne (by simp) _ _
  have hobj : (event_payload (rebind H a (twin_v1 p)) d).isObj = true := rfl
  have hpayload : batch_payload H p x (event_payload (rebind H a (twin_v1 p)) d) =
      batch_event_payload H p a x := by
    rw [batch_payload, event_payload, hclass, hd.item_authority, hd.item_fingerprint,
      hd.item_profile, hd.item_proposal, ← hx.item_fingerprint, ← hx.item_profile]
    simp only [set_dict, drop_key, List.map_cons, List.map_nil, List.nodup_cons, List.mem_cons,
      String.reduceEq, List.not_mem_nil, or_self, not_false_eq_true, List.nodup_nil, and_self,
      List.filter_cons, List.filter_nil, ne_eq, decide_true, decide_false, if_true, if_false,
      Bool.false_eq_true, not_true_eq_false]
    rfl
  rw [event_of, policy_event_eq, item_planned_event, item_event_record, if_pos hobj, hpayload,
    set_event_record, set_planned_event, hd.item_proposal, batch_policy_event]

/-! ## What the planner builds -/

/-- The twin of a batch is decided as the batch is, once the authority is bound to it. -/
theorem twin_evaluated {p a x : Json} (hb : is_batch p = true) (h : evaluate_write H p a = .ok x) :
    ∃ d reasons, evaluate_single H (twin_v1 p) (rebind H a (twin_v1 p)) = .ok d ∧
      PolicyDecision H (twin_v1 p) (rebind H a (twin_v1 p)) d (ladder p a) reasons := by
  obtain ⟨hp, ha⟩ := proposal_of_evaluate h
  rw [validate_write_proposal, if_pos hb] at hp
  have hbound : item (rebind H a (twin_v1 p)) "proposal_sha256" = H.json_ident (twin_v1 p) :=
    item_set (validate_write_authority_ok ha).obj _ _
  have heval := evaluate_single_eq (H := H) (single_of_twin (validate_batch_proposal_ok hp))
    (rebind H a (twin_v1 p))
  rw [validate_rebind_of_valid ha, Except.map] at heval
  have hwrite : evaluate_write H (twin_v1 p) (rebind H a (twin_v1 p)) =
      evaluate_single H (twin_v1 p) (rebind H a (twin_v1 p)) := by
    rw [evaluate_write, if_neg (by rw [is_batch_twin]; simp)]
  obtain ⟨decision, reasons, hd⟩ := policy_decision (hwrite.trans heval)
  have hdecision : decision = ladder p a := by
    have hitem := hd.item_decision
    rw [item_decision_object, decide_single_fst, if_pos hbound, ladder_twin] at hitem
    exact (Json.str.inj hitem).symm
  exact ⟨_, reasons, heval, hdecision ▸ hd⟩

theorem ladder_ne_skip {p a x : Json} (h : evaluate_write H p a = .ok x)
    (hskip : item x "decision" ≠ .str "skip") : ladder p a ≠ "skip" := by
  intro hl
  rw [decision_of_evaluate h, hl, ite_self] at hskip
  exact hskip rfl

/-- The planner builds the plan of a batch from what it takes for the event of its twin. -/
theorem build_batch_plan_eq {p a x : Json} (hb : is_batch p = true)
    (h : evaluate_write H p a = .ok x) (hskip : item x "decision" ≠ .str "skip") :
    build_batch_plan H p a = (if item p "stream" = .str "events" ∧
        item ((elems (item p "records")).headD .null) "type" = .str "write_policy_decision" then
      event_of H p x (planned_item (twin_v1 p) ((elems (item p "records")).headD .null)
        (record_target (twin_v1 p) ((elems (item p "records")).headD .null)))
      else .ok (batch_policy_event H p a x)).map fun event =>
        plan_object H p x (batch_items p ++ [event]) := by
  obtain ⟨_, _, hx⟩ := policy_decision h
  obtain ⟨d, reasons, hd, hpolicy⟩ := twin_evaluated hb h
  have hrecord : item (twin_v1 p) "record" = (elems (item p "records")).headD .null :=
    item_twin (by simp [twin_items])
  have htwin : single_records (twin_v1 p) (rebind H a (twin_v1 p)) d =
      [planned_item (twin_v1 p) ((elems (item p "records")).headD .null)
          (record_target (twin_v1 p) ((elems (item p "records")).headD .null)),
        policy_event (rebind H a (twin_v1 p)) d] := by
    have hno : ¬item d "decision" = .str "skip" := by
      rw [hpolicy.item_decision]
      simpa using ladder_ne_skip h hskip
    rw [single_records, if_neg hno, record_target, is_batch_twin, hrecord]
    rfl
  have hfirst : is_policy_event (planned_item (twin_v1 p) ((elems (item p "records")).headD .null)
      (record_target (twin_v1 p) ((elems (item p "records")).headD .null))) = true ↔
        item p "stream" = .str "events" ∧
          item ((elems (item p "records")).headD .null) "type" = .str "write_policy_decision" := by
    rw [is_policy_event, item_planned_stream, item_planned_record,
      item_twin_frame p (k := "stream") (by simp), Bool.and_eq_true, decide_eq_true_eq,
      decide_eq_true_eq]
  rw [build_batch_plan, h]
  simp only [bind, Except.bind, if_neg hskip, twin_authority_eq, hd, htwin]
  rw [batch_event_cons, batch_event_cons, if_pos (is_policy_event_policy _ _),
    event_of_policy hx hpolicy]
  simp only [hfirst]
  split_ifs
  · cases event_of H p x _ <;> rfl
  · rfl

/-- The plan of a skipped proposal, and of one whose records are no policy event. -/
theorem build_write_plan_eq {p a x : Json} {decision : Option Json}
    (h : evaluate_write H p a = .ok x) (hm : item x "decision" = .str "skip" ∨ ¬Misled p)
    (hd : is_batch p = true ∨ RightDecision decision x) :
    build_write_plan H p a decision = .ok (plan_object H p x (planned_records H p a x)) := by
  rw [build_write_plan]
  split_ifs with hb
  · by_cases hskip : item x "decision" = .str "skip"
    · rw [build_batch_plan, h, planned_records, if_pos hskip]
      simp only [bind, Except.bind, if_pos hskip]
      rfl
    · have hno := hm.resolve_left hskip
      rw [build_batch_plan_eq hb h hskip, if_neg fun hstream => hno ⟨hb, hstream⟩,
        planned_records, if_neg hskip, if_pos hb, batch_items_eq hb]
      rfl
  · have hright := hd.resolve_left hb
    rw [build_single_plan, verified_decision_ok.2 ⟨h, hright⟩]
    simp only [bind, Except.bind, pure, Except.pure]
    rw [single_records_eq (H := H) (by simpa using hb)]

/-- What the planner accepts, it decided. -/
theorem evaluated_of_build {p a plan : Json} {decision : Option Json}
    (h : build_write_plan H p a decision = .ok plan) :
    ∃ x, evaluate_write H p a = .ok x ∧ (is_batch p = true ∨ RightDecision decision x) := by
  rw [build_write_plan] at h
  split_ifs at h with hb
  · rw [build_batch_plan] at h
    obtain ⟨x, hx, -⟩ := bind_ok.1 h
    exact ⟨x, hx, .inl hb⟩
  · rw [build_single_plan] at h
    obtain ⟨x, hx, -⟩ := bind_ok.1 h
    obtain ⟨hx, hright⟩ := verified_decision_ok.1 hx
    exact ⟨x, hx, .inr hright⟩

/-! ## Planned records -/

theorem str_of_one_of {v : Json} {names : List String} (h : one_of v names = true) :
    ∃ s, v = .str s := by
  cases v with
  | str s => exact ⟨s, rfl⟩
  | _ => cases h

theorem str_of_digest {v : Json} (h : is_digest v = true) : ∃ s, v = .str s := by
  cases v with
  | str s => exact ⟨s, rfl⟩
  | _ => cases h

/-- A record of a valid proposal, with what it supersedes. -/
structure ProposalRecord (p r : Json) : Prop where
  fields : RecordFields r
  storable : Storable r
  target : item p "operation" = .str "supersede" →
    ∃ t, record_target p r = some (.str t) ∧ t ≠ "" ∧ .str t ≠ item r "id"

/-- What a plan relies on in a valid proposal. -/
structure Plannable (p : Json) : Prop extends ProposalFrame p where
  operation : one_of (item p "operation") operation_names = true
  records : ∀ r ∈ proposal_records p, ProposalRecord p r

theorem plannable_of_valid {p : Json} (h : validate_write_proposal p = .ok ()) : Plannable p := by
  rw [validate_write_proposal] at h
  split_ifs at h with hb
  · have hp := validate_batch_proposal_ok h
    refine { hp.toProposalFrame with
             operation := one_of_mono (by simp [operation_names]) hp.operation
             records := fun r hr => ?_ }
    rw [proposal_records, if_pos hb] at hr
    refine ⟨hp.records r hr, storable_elems (storable_item ⟨hp.limits.wf, hp.limits.ints⟩ _) r hr,
      fun hop => ?_⟩
    have ht := hp.targets hop
    have hid := py_str_of_nonempty (hp.records r hr).id
    have hkey : py_str (item r "id") ∈ (item p "supersedes").keys :=
      (ht.keys _).2 (List.mem_map_of_mem hr)
    have hvalid := ht.valid _ hkey
    have htarget := py_str_of_nonempty hvalid
    refine ⟨_, by rw [record_target, if_pos hop, if_pos hb, ← htarget], fun he => ?_, ?_⟩
    · rw [htarget, he] at hvalid
      simp [is_nonempty_str] at hvalid
    · rw [← htarget, hid]
      exact ht.self _ hkey
  · have hp := validate_single_proposal_ok.1 h
    refine { hp.toProposalFrame with operation := hp.operation, records := fun r hr => ?_ }
    rw [proposal_records, if_neg hb] at hr
    obtain rfl := List.mem_singleton.1 hr
    refine ⟨hp.record, storable_item ⟨hp.limits.wf, hp.limits.ints⟩ _, fun hop => ?_⟩
    obtain ⟨hvalid, hself⟩ := hp.target hop
    have htarget := py_str_of_nonempty hvalid
    refine ⟨_, by rw [record_target, if_pos hop, if_neg hb, ← htarget], fun he => ?_, ?_⟩
    · rw [htarget, he] at hvalid
      simp [is_nonempty_str] at hvalid
    · rw [← htarget]
      exact hself

/-- The planned item of a record is made of texts and of the record. -/
theorem planned_item_eq {p r : Json} (hp : Plannable p) (hr : ProposalRecord p r) :
    ∃ stream operation representation, item p "stream" = .str stream ∧
      item p "operation" = .str operation ∧
      item p "requested_representation" = .str representation ∧
      ((operation ≠ "supersede" ∧ planned_item p r (record_target p r) = dict
        [("stream", .str stream), ("operation", .str operation),
          ("representation", .str representation), ("record", r)]) ∨
      operation = "supersede" ∧ ∃ t, t ≠ "" ∧ .str t ≠ item r "id" ∧
        planned_item p r (record_target p r) = dict
          [("stream", .str stream), ("operation", .str operation),
            ("representation", .str representation), ("record", r), ("supersedes", .str t)]) := by
  obtain ⟨stream, hstream⟩ := str_of_one_of hp.stream
  obtain ⟨operation, hop⟩ := str_of_one_of hp.operation
  obtain ⟨representation, hrep⟩ := str_of_one_of hp.representation
  refine ⟨stream, operation, representation, hstream, hop, hrep, ?_⟩
  by_cases hs : operation = "supersede"
  · obtain ⟨t, ht, hne, hself⟩ := hr.target (by rw [hop, hs])
    refine .inr ⟨hs, t, hne, hself, ?_⟩
    rw [planned_item.eq_def, ht, hstream, hop, hrep]
    rfl
  · refine .inl ⟨hs, ?_⟩
    rw [planned_item.eq_def, record_target, if_neg (by simpa [hop] using hs), hstream, hop, hrep]
    rfl

theorem node_count_planned {p r : Json} (hp : Plannable p) (hr : ProposalRecord p r) :
    node_count (planned_item p r (record_target p r)) =
      node_count r + if item p "operation" = .str "supersede" then 5 else 4 := by
  obtain ⟨_, operation, _, -, hop, -, ⟨hs, h⟩ | ⟨hs, _, -, -, h⟩⟩ := planned_item_eq hp hr
  · rw [h, node_count_dict (by simp), hop, if_neg (by simpa using hs)]
    simp only [node_count_items, node_count_str]
    omega
  · rw [h, node_count_dict (by simp), hop, if_pos (by rw [hs])]
    simp only [node_count_items, node_count_str]
    omega

theorem json_depth_planned_le {p r : Json} (hp : Plannable p) (hr : ProposalRecord p r) {n : ℕ} :
    json_depth (planned_item p r (record_target p r)) ≤ n ↔ json_depth r + 1 ≤ n := by
  obtain ⟨_, _, _, -, -, -, ⟨-, h⟩ | ⟨-, _, -, -, h⟩⟩ := planned_item_eq hp hr
  · rw [h, json_depth_le_dict (by simp)]
    simp only [List.forall_mem_cons, json_depth_str, List.not_mem_nil, false_implies, implies_true,
      and_true]
    omega
  · rw [h, json_depth_le_dict (by simp)]
    simp only [List.forall_mem_cons, json_depth_str, List.not_mem_nil, false_implies, implies_true,
      and_true]
    omega

theorem storable_planned {p r : Json} (hp : Plannable p) (hr : ProposalRecord p r) :
    Storable (planned_item p r (record_target p r)) := by
  obtain ⟨_, _, _, -, -, -, ⟨-, h⟩ | ⟨-, _, -, -, h⟩⟩ := planned_item_eq hp hr
  · rw [h, storable_dict (by simp)]
    simpa using hr.storable
  · rw [h, storable_dict (by simp)]
    simpa using hr.storable

/-- What makes a planned record valid. -/
theorem planned_item_valid {v : Json} (obj : v.isObj = true)
    (required : ∀ k ∈ ["stream", "operation", "representation", "record"], k ∈ v.keys)
    (allowed : ∀ k ∈ v.keys, k ∈ ["stream", "operation", "representation", "record", "supersedes"])
    (stream : one_of (item v "stream") stream_names = true)
    (operation : one_of (item v "operation") operation_names = true)
    (representation : one_of (item v "representation") representation_names = true)
    (record : (item v "record").isObj = true ∧ (item v "record").keys ≠ [])
    (target : item v "operation" = .str "supersede" → is_nonempty_str (item v "supersedes") = true ∧
      item v "supersedes" ≠ item (item v "record") "id")
    (no_target : item v "operation" ≠ .str "supersede" → "supersedes" ∉ v.keys) :
    validate_planned_item v = .ok () := by
  by_cases hop : item v "operation" = .str "supersede"
  · simp only [validate_planned_item, if_pos hop, bind_ok, ensure_ok, exists_const,
      require_exact_keys_ok, Bool.and_eq_true, decide_eq_true_eq]
    exact ⟨obj, ⟨required, allowed⟩, ⟨stream, operation⟩, representation, record, target hop⟩
  · simp only [validate_planned_item, if_neg hop, bind_ok, ensure_ok, exists_const,
      require_exact_keys_ok, Bool.and_eq_true, decide_eq_true_eq, Bool.not_eq_true',
      ← Bool.not_eq_true, List.contains_iff_mem]
    exact ⟨obj, ⟨required, allowed⟩, ⟨stream, operation⟩, representation, record, no_target hop⟩

/-- The planned item of a record of a valid proposal is valid. -/
theorem validate_planned {p r : Json} (hp : Plannable p) (hr : ProposalRecord p r) :
    validate_planned_item (planned_item p r (record_target p r)) = .ok () := by
  have hstream := hp.stream
  have hoper := hp.operation
  have hrepr := hp.representation
  obtain ⟨stream, operation, representation, hs, ho, hp, ⟨hop, h⟩ | ⟨hop, t, hne, hself, h⟩⟩ :=
    planned_item_eq hp hr
  · rw [hs] at hstream
    rw [ho] at hoper
    rw [hp] at hrepr
    have hitem {k : String} {v : Json} (hkv : (k, v) ∈ [("stream", Json.str stream),
        ("operation", .str operation), ("representation", .str representation), ("record", r)]) :
        item (planned_item p r (record_target p r)) k = v := by
      rw [h]
      exact item_dict (by simp) hkv
    have hkeys (k : String) : k ∈ (planned_item p r (record_target p r)).keys ↔
        k ∈ ["stream", "operation", "representation", "record"] := by
      rw [h]
      exact mem_keys_dict (by simp)
    have hoperation := hitem (k := "operation") (v := .str operation) (by simp)
    have hrecord := hitem (k := "record") (v := r) (by simp)
    refine planned_item_valid (by rw [h]; rfl) (fun k => (hkeys k).2)
      (fun k hk => List.mem_append_left ["supersedes"] ((hkeys k).1 hk)) ?_ ?_ ?_ ?_ ?_ ?_
    · rwa [hitem (k := "stream") (v := .str stream) (by simp)]
    · rwa [hoperation]
    · rwa [hitem (k := "representation") (v := .str representation) (by simp)]
    · rw [hrecord]
      exact ⟨hr.fields.obj, hr.fields.keys⟩
    · intro he
      rw [hoperation, Json.str.injEq] at he
      exact absurd he hop
    · intro _ hmem
      simpa using (hkeys _).1 hmem
  · rw [hs] at hstream
    rw [ho] at hoper
    rw [hp] at hrepr
    have hitem {k : String} {v : Json} (hkv : (k, v) ∈ [("stream", Json.str stream),
        ("operation", .str operation), ("representation", .str representation), ("record", r),
        ("supersedes", .str t)]) : item (planned_item p r (record_target p r)) k = v := by
      rw [h]
      exact item_dict (by simp) hkv
    have hkeys (k : String) : k ∈ (planned_item p r (record_target p r)).keys ↔
        k ∈ ["stream", "operation", "representation", "record", "supersedes"] := by
      rw [h]
      exact mem_keys_dict (by simp)
    have hoperation := hitem (k := "operation") (v := .str operation) (by simp)
    have hrecord := hitem (k := "record") (v := r) (by simp)
    have htarget := hitem (k := "supersedes") (v := .str t) (by simp)
    refine planned_item_valid (by rw [h]; rfl)
      (fun k hk => (hkeys k).2 (List.mem_append_left ["supersedes"] hk)) (fun k => (hkeys k).1)
      ?_ ?_ ?_ ?_ ?_ ?_
    · rwa [hitem (k := "stream") (v := .str stream) (by simp)]
    · rwa [hoperation]
    · rwa [hitem (k := "representation") (v := .str representation) (by simp)]
    · rw [hrecord]
      exact ⟨hr.fields.obj, hr.fields.keys⟩
    · intro _
      rw [htarget, hrecord]
      exact ⟨by simpa [is_nonempty_str] using hne, hself⟩
    · intro he
      rw [hoperation, hop] at he
      exact absurd rfl he

/-! ## Policy events -/

/-- How many reasons a decision has. -/
def reason_count (x : Json) : ℕ := (elems (item x "reason_codes")).length

theorem node_count_event (sha payload : Json) :
    node_count (planned_event (event_record sha payload)) = 8 + node_count payload := by
  rw [planned_event, node_count_dict (by simp), event_record]
  simp only [node_count_items, node_count_str, node_count_dict, List.map_cons, List.map_nil,
    List.nodup_cons, List.mem_cons, String.reduceEq, List.not_mem_nil, or_self, not_false_eq_true,
    List.nodup_nil, and_self]
  omega

theorem json_depth_event {sha payload : Json} {n : ℕ} (h : json_depth payload ≤ n) :
    json_depth (planned_event (event_record sha payload)) ≤ n + 2 := by
  rw [planned_event, json_depth_le_dict (by simp), event_record]
  simp only [List.forall_mem_cons, json_depth_str, List.not_mem_nil, false_implies, implies_true,
    and_true]
  refine ⟨by omega, by omega, by omega, Nat.succ_le_succ ?_⟩
  rw [json_depth_le_dict (by simp)]
  simp only [List.forall_mem_cons, json_depth_str, List.not_mem_nil, false_implies, implies_true,
    and_true]
  omega

theorem storable_event {sha payload : Json} (h : Storable payload) :
    Storable (planned_event (event_record sha payload)) := by
  rw [planned_event, storable_dict (by simp), event_record]
  simp only [List.forall_mem_cons, storable_str, true_and, List.not_mem_nil, false_implies,
    implies_true, and_true]
  rw [storable_dict (by simp)]
  simpa using h

theorem validate_event (sha payload : Json) :
    validate_planned_item (planned_event (event_record sha payload)) = .ok () := by
  have hitem {k : String} {v : Json} (hkv : (k, v) ∈ [("stream", Json.str "events"),
      ("operation", .str "add"), ("representation", .str "summary"),
      ("record", event_record sha payload)]) :
      item (planned_event (event_record sha payload)) k = v := item_dict (by simp) hkv
  have hkeys (k : String) : k ∈ (planned_event (event_record sha payload)).keys ↔
      k ∈ ["stream", "operation", "representation", "record"] := mem_keys_dict (by simp)
  have hoperation := hitem (k := "operation") (v := .str "add") (by simp)
  refine planned_item_valid rfl (fun k => (hkeys k).2)
    (fun k hk => List.mem_append_left ["supersedes"] ((hkeys k).1 hk)) ?_ ?_ ?_ ?_ ?_ ?_
  · rw [hitem (k := "stream") (v := .str "events") (by simp)]
    rfl
  · rw [hoperation]
    rfl
  · rw [hitem (k := "representation") (v := .str "summary") (by simp)]
    rfl
  · rw [item_planned_event]
    refine ⟨rfl, List.ne_nil_of_mem (a := "type") ?_⟩
    exact (mem_keys_dict (by simp)).2 (by simp)
  · intro he
    rw [hoperation] at he
    simp at he
  · intro _ hmem
    simpa using (hkeys _).1 hmem

/-- The payload of the policy event that a plan should hold. -/
theorem policy_payload {p a x : Json} {decision : String} {reasons : List String}
    (ha : ValidAuthority a) (hx : PolicyDecision H p a x decision reasons) :
    ∃ sha payload, (if is_batch p then batch_policy_event H p a x else policy_event a x) =
        planned_event (event_record sha payload) ∧ Storable payload ∧ json_depth payload ≤ 2 ∧
      node_count payload = 8 + reason_count x +
        if is_batch p then 1 + (proposal_records p).length else 0 := by
  obtain ⟨authority_class, hclass⟩ := str_of_one_of ha.authority_class
  have hreasons : (sorted_set reasons).length = reason_count x := by
    rw [reason_count, hx.item_reasons, str_list, elems, List.length_map]
  have hcodes := json_depth_str_list (sorted_set reasons)
  split_ifs with hb
  · refine ⟨_, _, rfl, ?_, ?_, ?_⟩
    · rw [batch_event_payload, storable_dict (by simp)]
      simp [hclass, hx.item_reasons, hx.item_decision, hx.item_proposal, hx.item_fingerprint,
        hx.item_profile, Crypto.json_ident, write_policy_fingerprint]
    · rw [batch_event_payload, json_depth_le_dict (by simp)]
      have hdigests := json_depth_str_list (((elems (item p "records")).map fun r =>
        py_str (H.json_ident r)).insertionSort (· ≤ ·))
      simp only [Crypto.json_ident] at hdigests
      simp only [hclass, hx.item_reasons, hx.item_decision, hx.item_proposal, hx.item_fingerprint,
        hx.item_profile, Crypto.json_ident, write_policy_fingerprint, List.forall_mem_cons,
        json_depth_str, List.not_mem_nil, false_implies, implies_true, and_true]
      omega
    · rw [batch_event_payload, node_count_dict (by simp)]
      simp only [hclass, hx.item_reasons, hx.item_decision, hx.item_proposal, hx.item_fingerprint,
        hx.item_profile, Crypto.json_ident, write_policy_fingerprint, node_count_items,
        node_count_str, node_count_str_list, List.length_insertionSort, List.length_map,
        proposal_records, if_pos hb, ← hreasons]
      omega
  · refine ⟨_, _, policy_event_eq a x, ?_, ?_, ?_⟩
    · rw [event_payload, storable_dict (by simp)]
      simp [hclass, hx.item_reasons, hx.item_decision, hx.item_proposal, hx.item_fingerprint,
        hx.item_profile, hx.item_authority, Crypto.json_ident, write_policy_fingerprint]
    · rw [event_payload, json_depth_le_dict (by simp)]
      simp only [hclass, hx.item_reasons, hx.item_decision, hx.item_proposal, hx.item_fingerprint,
        hx.item_profile, hx.item_authority, Crypto.json_ident, write_policy_fingerprint,
        List.forall_mem_cons, json_depth_str, List.not_mem_nil, false_implies, implies_true,
        and_true]
      omega
    · rw [event_payload, node_count_dict (by simp)]
      simp only [hclass, hx.item_reasons, hx.item_decision, hx.item_proposal, hx.item_fingerprint,
        hx.item_profile, hx.item_authority, Crypto.json_ident, write_policy_fingerprint,
        node_count_items, node_count_str, node_count_str_list, ← hreasons]
      omega

/-! ## Plans -/

variable (H) in
/-- The core of a plan. -/
def plan_core (p x : Json) (records : List Json) : Json := dict
  [("base_revision", item p "base_revision"), ("proposal_sha256", item x "proposal_sha256"),
    ("authority_sha256", item x "authority_sha256"),
    ("policy_fingerprint", item x "policy_fingerprint"), ("decision", item x "decision"),
    ("decision_sha256", H.json_ident x), ("planned_records_sha256", H.json_ident (.arr records))]

theorem plan_object_eq (p x : Json) (records : List Json) : plan_object H p x records = dict
    [("schema", .str "an-kla/write-plan-v1"), ("core", plan_core H p x records),
      ("records", .arr records), ("plan_fingerprint", H.json_ident (plan_core H p x records))] :=
  rfl

theorem item_plan {p x : Json} {records : List Json} {k : String} {v : Json}
    (h : (k, v) ∈ [("schema", Json.str "an-kla/write-plan-v1"), ("core", plan_core H p x records),
      ("records", .arr records), ("plan_fingerprint", H.json_ident (plan_core H p x records))]) :
    item (plan_object H p x records) k = v := by
  rw [plan_object_eq]
  exact item_dict (by simp) h

section

variable {p a x : Json} {decision : String} {reasons : List String} {records : List Json}

theorem node_count_plan (hp : Plannable p) (hx : PolicyDecision H p a x decision reasons) :
    node_count (plan_object H p x records) = 12 + node_count_list records := by
  obtain ⟨base, hbase⟩ := str_of_digest hp.base
  rw [plan_object_eq, node_count_dict (by simp)]
  simp only [node_count_items, node_count_str, Crypto.json_ident]
  rw [plan_core, node_count_dict (by simp), node_count]
  simp only [hbase, hx.item_proposal, hx.item_authority, hx.item_fingerprint, hx.item_decision,
    write_policy_fingerprint, Crypto.json_ident, node_count_items, node_count_str]
  omega

theorem json_depth_plan_le (hp : Plannable p) (hx : PolicyDecision H p a x decision reasons) {n : ℕ}
    (hn : 2 ≤ n) : json_depth (plan_object H p x records) ≤ n ↔
      ∀ r ∈ records, json_depth r + 2 ≤ n := by
  obtain ⟨base, hbase⟩ := str_of_digest hp.base
  have hcore : json_depth (plan_core H p x records) ≤ 1 := by
    rw [plan_core, json_depth_le_dict (by simp)]
    simp [hbase, hx.item_proposal, hx.item_authority, hx.item_fingerprint, hx.item_decision,
      write_policy_fingerprint, Crypto.json_ident]
  obtain ⟨n, rfl⟩ := Nat.exists_eq_add_of_le' hn
  rw [plan_object_eq, json_depth_le_dict (by simp)]
  simp only [List.forall_mem_cons, Crypto.json_ident, List.not_mem_nil, false_implies,
    implies_true, and_true, json_depth, Nat.succ_le_succ_iff, json_depth_list_le]
  exact ⟨fun h => h.2.2.1, fun h => ⟨by omega, by omega, h, by omega⟩⟩

theorem storable_plan (hp : Plannable p) (hx : PolicyDecision H p a x decision reasons)
    (h : ∀ r ∈ records, Storable r) : Storable (plan_object H p x records) := by
  obtain ⟨base, hbase⟩ := str_of_digest hp.base
  have hcore : Storable (plan_core H p x records) := by
    rw [plan_core, storable_dict (by simp)]
    simp [hbase, hx.item_proposal, hx.item_authority, hx.item_fingerprint, hx.item_decision,
      write_policy_fingerprint, Crypto.json_ident]
  rw [plan_object_eq, storable_dict (by simp)]
  simp only [List.forall_mem_cons, storable_str, Crypto.json_ident, List.not_mem_nil,
    false_implies, implies_true, and_true, true_and]
  exact ⟨hcore, storable_arr.2 h⟩

/-- A plan of valid planned records is valid if the limits allow it. -/
theorem validate_plan (hp : Plannable p) (hx : PolicyDecision H p a x decision reasons)
    (h : ∀ r ∈ records, validate_planned_item r = .ok ()) :
    validate_write_plan (plan_object H p x records) = .ok () ↔
      WithinLimits (plan_object H p x records) := by
  have hkeys (k : String) : k ∈ (plan_object H p x records).keys ↔
      k ∈ ["schema", "core", "records", "plan_fingerprint"] := by
    rw [plan_object_eq]
    exact mem_keys_dict (by simp)
  have hcore_keys (k : String) : k ∈ (plan_core H p x records).keys ↔
      k ∈ ["base_revision", "proposal_sha256", "authority_sha256", "policy_fingerprint", "decision",
        "decision_sha256", "planned_records_sha256"] := mem_keys_dict (by simp)
  have hitem {k : String} {v : Json} (hkv : (k, v) ∈ [("base_revision", item p "base_revision"),
      ("proposal_sha256", item x "proposal_sha256"),
      ("authority_sha256", item x "authority_sha256"),
      ("policy_fingerprint", item x "policy_fingerprint"), ("decision", item x "decision"),
      ("decision_sha256", H.json_ident x),
      ("planned_records_sha256", H.json_ident (.arr records))]) :
      item (plan_core H p x records) k = v := item_dict (by simp) hkv
  have hcore : item (plan_object H p x records) "core" = plan_core H p x records :=
    item_plan (by simp)
  simp only [validate_write_plan, bind_ok, ensure_ok, exists_const, require_exact_keys_ok, hcore,
    Bool.and_eq_true, decide_eq_true_eq, forM_ok, validate_json_value_iff]
  refine ⟨?_, fun hlimits => ⟨rfl, ?_, ?_, rfl, ?_, ?_, ?_, ?_, ?_, hlimits⟩⟩
  · rintro ⟨-, -, -, -, -, -, -, -, -, hlimits⟩
    exact hlimits
  · exact ⟨fun k => (hkeys k).2, fun k hk => List.mem_append_left _ ((hkeys k).1 hk)⟩
  · refine ⟨item_plan (by simp), ?_⟩
    rw [item_plan (k := "plan_fingerprint") (by simp; rfl)]
    exact is_digest_json_ident _
  · exact ⟨fun k => (hcore_keys k).2, fun k hk => List.mem_append_left _ ((hcore_keys k).1 hk)⟩
  · simp only [List.forall_mem_cons]
    refine ⟨?_, ?_, ?_, ?_, ?_, ?_, fun _ hk => absurd hk List.not_mem_nil⟩
    · rw [hitem (k := "base_revision") (v := item p "base_revision") (by simp)]
      exact hp.base
    · rw [hitem (k := "proposal_sha256") (v := item x "proposal_sha256") (by simp), hx.item_proposal]
      exact is_digest_json_ident _
    · rw [hitem (k := "authority_sha256") (v := item x "authority_sha256") (by simp),
        hx.item_authority]
      exact is_digest_json_ident _
    · rw [hitem (k := "policy_fingerprint") (v := item x "policy_fingerprint") (by simp),
        hx.item_fingerprint]
      exact is_digest_json_ident _
    · rw [hitem (k := "decision_sha256") (v := H.json_ident x) (by simp)]
      exact is_digest_json_ident _
    · rw [hitem (k := "planned_records_sha256") (v := H.json_ident (.arr records)) (by simp)]
      exact is_digest_json_ident _
  · rw [hitem (k := "decision") (v := item x "decision") (by simp), hx.item_decision]
    exact List.contains_iff_mem.2 hx.name
  · rw [item_plan (k := "records") (v := .arr records) (by simp)]
    rfl
  · rw [item_plan (k := "records") (v := .arr records) (by simp)]
    exact h

end

/-- What the planner builds is a plan on its decision. -/
theorem plan_object_of_build {p a plan : Json} {decision : Option Json}
    (h : build_write_plan H p a decision = .ok plan) :
    ∃ x records, evaluate_write H p a = .ok x ∧ plan = plan_object H p x records := by
  rw [build_write_plan] at h
  split_ifs at h with hb
  · rw [build_batch_plan] at h
    obtain ⟨x, hx, h⟩ := bind_ok.1 h
    split_ifs at h
    · exact ⟨x, _, hx, (pure_ok.1 h).symm⟩
    · obtain ⟨_, -, h⟩ := bind_ok.1 h
      obtain ⟨_, -, h⟩ := bind_ok.1 h
      exact ⟨x, _, hx, (pure_ok.1 h).symm⟩
  · rw [build_single_plan] at h
    obtain ⟨x, hx, h⟩ := bind_ok.1 h
    exact ⟨x, _, (verified_decision_ok.1 hx).1, (pure_ok.1 h).symm⟩

/-- The commit accepts the plans that are valid and that the planner builds again. -/
theorem verify_write_plan_ok {plan p a : Json} {decision : Option Json} {u : Unit} :
    verify_write_plan H plan p a decision = .ok u ↔ validate_write_plan plan = .ok () ∧
      ∃ x, evaluate_write H p a = .ok x ∧ RightDecision decision x ∧
        build_write_plan H p a (some x) = .ok plan := by
  rw [verify_write_plan, mapError_ok, check_write_plan]
  simp only [bind_ok, ensure_ok, exists_const, decide_eq_true_eq, verified_decision_ok]
  constructor
  · rintro ⟨⟨⟩, hv, x, ⟨hx, hright⟩, -, -, expected, hb, rfl⟩
    exact ⟨hv, x, hx, hright, hb⟩
  · rintro ⟨hv, x, hx, hright, hb⟩
    obtain ⟨y, records, -, rfl⟩ := plan_object_of_build hb
    refine ⟨(), hv, x, ⟨hx, hright⟩, ?_, ?_, _, hb, rfl⟩
    · rw [item_plan (k := "plan_fingerprint") (by simp; rfl), item_plan (k := "core") (by simp; rfl)]
    · rw [item_plan (k := "core") (by simp; rfl), item_plan (k := "records") (by simp; rfl)]
      exact item_dict (by simp) (by simp)

/-! ## Limits -/

/-- How many values a plan holds that skips nothing. -/
def plan_size (p x : Json) : ℕ :=
  28 + reason_count x + (if is_batch p then 1 + (proposal_records p).length else 0) +
    ((proposal_records p).map fun r =>
      node_count r + if item p "operation" = .str "supersede" then 5 else 4).sum

/-- The limits allow the plan of a proposal that is not skipped: the proposal itself is
    smaller, and its records are not as deep in it. -/
structure Fits (p x : Json) : Prop where
  nodes : plan_size p x ≤ max_json_nodes
  depth : ∀ r ∈ proposal_records p, json_depth r + 3 ≤ max_json_depth

theorem limits_of_storable {v : Json} (h : Storable v) :
    WithinLimits v ↔ node_count v ≤ max_json_nodes ∧ json_depth v ≤ max_json_depth :=
  ⟨fun hv => ⟨hv.nodes, hv.depth⟩, fun hv => ⟨hv.1, hv.2, h.2, h.1⟩⟩

theorem node_count_list_append (xs ys : List Json) :
    node_count_list (xs ++ ys) = node_count_list xs + node_count_list ys := by
  rw [node_count_list_eq, node_count_list_eq, node_count_list_eq, List.map_append, List.sum_append]

/-- The plan that should be built is valid if it is small enough. -/
theorem validate_plan_iff {p a x : Json} (h : evaluate_write H p a = .ok x) :
    validate_write_plan (plan_object H p x (planned_records H p a x)) = .ok () ↔
      item x "decision" = .str "skip" ∨ Fits p x := by
  obtain ⟨hv, ha⟩ := proposal_of_evaluate h
  have hp := plannable_of_valid hv
  obtain ⟨_, _, hx⟩ := policy_decision h
  by_cases hskip : item x "decision" = .str "skip"
  · rw [planned_records, if_pos hskip, validate_plan hp hx (by simp),
      limits_of_storable (storable_plan hp hx (by simp)), node_count_plan hp hx,
      json_depth_plan_le hp hx (by simp [max_json_depth])]
    simp [hskip, node_count_list, max_json_nodes]
  · obtain ⟨sha, payload, hevent, hstorable, hdepth, hnodes⟩ :=
      policy_payload (validate_write_authority_ok ha) hx
    have hrecords {P : Json → Prop} : (∀ v ∈ (proposal_records p).map (fun r =>
        planned_item p r (record_target p r)) ++ [planned_event (event_record sha payload)], P v) ↔
          (∀ r ∈ proposal_records p, P (planned_item p r (record_target p r))) ∧
            P (planned_event (event_record sha payload)) := by
      rw [List.forall_mem_append, List.forall_mem_map, List.forall_mem_singleton]
    have hsum : node_count_list ((proposal_records p).map fun r =>
        planned_item p r (record_target p r)) = ((proposal_records p).map fun r =>
          node_count r + if item p "operation" = .str "supersede" then 5 else 4).sum := by
      rw [node_count_list_eq, List.map_map]
      exact congrArg _ (List.map_congr_left fun r hr => node_count_planned hp (hp.records r hr))
    rw [planned_records, if_neg hskip, hevent, validate_plan hp hx
        (hrecords.2 ⟨fun r hr => validate_planned hp (hp.records r hr), validate_event _ _⟩),
      limits_of_storable (storable_plan hp hx
        (hrecords.2 ⟨fun r hr => storable_planned hp (hp.records r hr), storable_event hstorable⟩)),
      node_count_plan hp hx, json_depth_plan_le hp hx (by simp [max_json_depth]), hrecords,
      node_count_list_append, hsum, node_count_list, node_count_list, node_count_event, hnodes,
      or_iff_right hskip]
    have hdeep : json_depth (planned_event (event_record sha payload)) ≤ 4 := json_depth_event hdepth
    constructor
    · rintro ⟨hn, hd, -⟩
      refine ⟨by rw [plan_size]; omega, fun r hr => ?_⟩
      have hr' := (json_depth_planned_le hp (hp.records r hr) (n := 62)).1
        (by have := hd r hr; simp only [max_json_depth] at this; omega)
      simp only [max_json_depth]
      omega
    · rintro ⟨hn, hd⟩
      refine ⟨by rw [plan_size] at hn; omega, fun r hr => ?_, by simp only [max_json_depth]; omega⟩
      have hr' := (json_depth_planned_le hp (hp.records r hr) (n := 62)).2
        (by have := hd r hr; simp only [max_json_depth] at this; omega)
      simp only [max_json_depth]
      omega

/-! ## A first record that poses as the event -/

theorem mem_idents_json_ident (v : Json) : H.digest_json v ∈ idents (H.json_ident v) := by
  rw [Crypto.json_ident, idents, bare_digest_ident]
  simp

/-- No record of a twin holds the digest of an authority that is bound to the twin. -/
theorem no_forged_event {p a : Json} (ha : a.isObj = true) :
    item (item (item (twin_v1 p) "record") "payload") "authority_sha256" ≠
      H.json_ident (rebind H a (twin_v1 p)) := by
  intro h
  have hinner : H.digest_json (rebind H a (twin_v1 p)) ∈ idents (twin_v1 p) :=
    mem_idents_item (mem_idents_item (mem_idents_item (h ▸ mem_idents_json_ident _)))
  have houter : H.digest_json (twin_v1 p) ∈ idents (rebind H a (twin_v1 p)) := by
    refine mem_idents_item (k := "proposal_sha256") ?_
    rw [rebind, item_set ha]
    exact mem_idents_json_ident _
  have hlt : H.rank (H.digest_json (rebind H a (twin_v1 p))) < H.rank (H.digest_json (twin_v1 p)) :=
    H.rank_lt hinner
  exact lt_asymm hlt (H.rank_lt houter)

/-! ## Built and verified -/

/-- The planner goes through with a decision of the policy: it checks the one of the caller
    for one record only, and it needs a payload in what it takes for the event. -/
structure Accepts (p : Json) (decision : Option Json) (x : Json) : Prop where
  caller : is_batch p = true ∨ RightDecision decision x
  payload : item x "decision" = .str "skip" ∨
    (Misled p → (item ((elems (item p "records")).headD .null) "payload").isObj = true)

theorem event_of_ok {p x event : Json} :
    (∃ y, event_of H p x event = .ok y) ↔ (item (item event "record") "payload").isObj = true := by
  rw [event_of]
  split_ifs with h
  · exact iff_of_true ⟨_, rfl⟩ h
  · exact iff_of_false (fun ⟨_, hy⟩ => nomatch hy) h

/-- When the planner accepts. -/
theorem accepts_iff {p a x : Json} {decision : Option Json} (h : evaluate_write H p a = .ok x) :
    (∃ plan, build_write_plan H p a decision = .ok plan) ↔ Accepts p decision x := by
  have hfst : (∃ plan, build_write_plan H p a decision = .ok plan) →
      is_batch p = true ∨ RightDecision decision x := by
    rintro ⟨plan, hplan⟩
    obtain ⟨y, hy, hor⟩ := evaluated_of_build hplan
    rw [h] at hy
    obtain rfl := Except.ok.inj hy
    exact hor
  by_cases hm : item x "decision" = .str "skip" ∨ ¬Misled p
  · refine ⟨fun hplan => ⟨hfst hplan, hm.imp id fun hno hyes => absurd hyes hno⟩, fun haccepts => ?_⟩
    exact ⟨_, build_write_plan_eq h hm haccepts.caller⟩
  · rw [not_or, not_not] at hm
    obtain ⟨hskip, hmisled⟩ := hm
    have hbuild : (∃ plan, build_write_plan H p a decision = .ok plan) ↔
        (item ((elems (item p "records")).headD .null) "payload").isObj = true := by
      rw [build_write_plan, if_pos hmisled.1, build_batch_plan_eq hmisled.1 h hskip,
        if_pos hmisled.2]
      rw [← item_planned_record (twin_v1 p) ((elems (item p "records")).headD .null)
        (record_target (twin_v1 p) ((elems (item p "records")).headD .null)), ← event_of_ok (H := H)
        (p := p) (x := x), item_planned_record]
      simp only [map_ok]
      constructor
      · rintro ⟨_, y, hy, -⟩
        exact ⟨y, hy⟩
      · rintro ⟨y, hy⟩
        exact ⟨_, y, hy, rfl⟩
    rw [hbuild]
    exact ⟨fun hobj => ⟨.inl hmisled.1, .inr fun _ => hobj⟩,
      fun haccepts => haccepts.payload.resolve_left hskip hmisled⟩

/-- A plan with a forged event does not hold the records that it should. -/
theorem forged_records {p a x plan : Json} {decision : Option Json}
    (h : evaluate_write H p a = .ok x) (hskip : item x "decision" ≠ .str "skip") (hm : Misled p)
    (hplan : build_write_plan H p a decision = .ok plan) :
    item plan "records" ≠ .arr (planned_records H p a x) := by
  intro hrecords
  have hobj := (validate_write_authority_ok (proposal_of_evaluate h).2).obj
  have hpayload : (item ((elems (item p "records")).headD .null) "payload").isObj = true :=
    ((accepts_iff h).1 ⟨plan, hplan⟩).payload.resolve_left hskip hm
  have hrecord : item (twin_v1 p) "record" = (elems (item p "records")).headD .null :=
    item_twin (by simp [twin_items])
  rw [build_write_plan, if_pos hm.1, build_batch_plan_eq hm.1 h hskip, if_pos hm.2, event_of,
    item_planned_record, if_pos hpayload, ← hrecord] at hplan
  obtain rfl := Except.ok.inj hplan
  rw [item_plan (k := "records") (by simp; rfl), planned_records, if_neg hskip, batch_items_eq hm.1,
    if_pos hm.1] at hrecords
  have hevent := List.singleton_inj.1 (List.append_cancel_left (Json.arr.inj hrecords))
  have hitem := congrArg (fun v => item (item (item v "record") "payload") "authority_sha256") hevent
  have hset (v : Json) : item (batch_payload H p x v) "authority_sha256" =
      item v "authority_sha256" := by
    simp only [batch_payload, item_set_ne, ne_eq, String.reduceEq, not_false_eq_true]
  have hrec : (item (twin_v1 p) "record").isObj = true := by
    rw [← hrecord] at hpayload
    cases hr : item (twin_v1 p) "record" with
    | obj kvs => rfl
    | _ => rw [hr] at hpayload; cases hpayload
  rw [item_set rfl, item_set hrec, hset, batch_policy_event, item_planned_event, item_event_record,
    batch_event_payload,
    item_dict (v := H.json_ident (rebind H a (twin_v1 p))) (by simp) (by simp)] at hitem
  exact no_forged_event hobj hitem

variable (H) in
/-- What the planner builds of a proposal, an authority and a decision is what the commit
    accepts with them. -/
structure PlansVerified (p a : Json) (decision : Option Json) : Prop where
  /-- The commit accepts the plan. -/
  complete : ∀ plan, build_write_plan H p a decision = .ok plan →
    verify_write_plan H plan p a decision = .ok ()
  /-- The planner builds what the commit accepts. -/
  sound : ∀ plan, verify_write_plan H plan p a decision = .ok () →
    build_write_plan H p a none = .ok plan
  /-- What the commit accepts holds the records of the proposal and one policy event. -/
  records : ∀ plan, verify_write_plan H plan p a decision = .ok () → ∃ x,
    evaluate_write H p a = .ok x ∧ item plan "records" = .arr (planned_records H p a x)

/-- The caller gives the decision of the policy or none, no record poses as the event, and
    the plan is within the limits. -/
structure Verifiable (p : Json) (decision : Option Json) (x : Json) : Prop where
  caller : RightDecision decision x
  fits : item x "decision" = .str "skip" ∨ ¬Misled p ∧ Fits p x

theorem rightDecision_none (x : Json) : RightDecision none x := fun _ h => nomatch h

theorem rightDecision_self (x : Json) : RightDecision (some x) x := fun _ h => (Option.some.inj h).symm

theorem build_write_plan_none {p a x : Json} (h : evaluate_write H p a = .ok x) :
    build_write_plan H p a none = build_write_plan H p a (some x) := by
  rw [build_write_plan, build_write_plan, build_single_plan, build_single_plan,
    verified_decision_ok.2 ⟨h, rightDecision_none x⟩, verified_decision_ok.2 ⟨h, rightDecision_self x⟩]

theorem PlansVerified.verifiable {p a x : Json} {decision : Option Json}
    (h : PlansVerified H p a decision) (hx : evaluate_write H p a = .ok x)
    (haccepts : Accepts p decision x) : Verifiable p decision x := by
  obtain ⟨plan, hplan⟩ := (accepts_iff hx).2 haccepts
  have hverify := h.complete plan hplan
  obtain ⟨hvalid, y, hy, hright, -⟩ := verify_write_plan_ok.1 hverify
  rw [hx] at hy
  obtain rfl := Except.ok.inj hy
  refine ⟨hright, ?_⟩
  by_cases hskip : item x "decision" = .str "skip"
  · exact .inl hskip
  · have hm : ¬Misled p := by
      intro hm
      obtain ⟨y, hy, hrecords⟩ := h.records plan hverify
      rw [hx] at hy
      obtain rfl := Except.ok.inj hy
      exact forged_records hx hskip hm hplan hrecords
    rw [build_write_plan_eq hx (.inr hm) haccepts.caller] at hplan
    obtain rfl := Except.ok.inj hplan
    exact .inr ⟨hm, ((validate_plan_iff hx).1 hvalid).resolve_left hskip⟩

theorem PlansVerified.of_verifiable {p a : Json} {decision : Option Json}
    (h : ∀ x, evaluate_write H p a = .ok x → Accepts p decision x → Verifiable p decision x) :
    PlansVerified H p a decision := by
  refine ⟨fun plan hplan => ?_, fun plan hverify => ?_, fun plan hverify => ?_⟩
  · obtain ⟨x, hx, hcaller⟩ := evaluated_of_build hplan
    have hv := h x hx ((accepts_iff hx).1 ⟨plan, hplan⟩)
    have hm : item x "decision" = .str "skip" ∨ ¬Misled p := hv.fits.imp id And.left
    rw [build_write_plan_eq hx hm hcaller] at hplan
    obtain rfl := Except.ok.inj hplan
    exact verify_write_plan_ok.2 ⟨(validate_plan_iff hx).2 (hv.fits.imp id And.right), x, hx,
      hv.caller, build_write_plan_eq hx hm (.inr (rightDecision_self x))⟩
  · obtain ⟨-, x, hx, -, hplan⟩ := verify_write_plan_ok.1 hverify
    rw [build_write_plan_none hx]
    exact hplan
  · obtain ⟨-, x, hx, hright, hplan⟩ := verify_write_plan_ok.1 hverify
    have haccepts := (accepts_iff hx).1 ⟨plan, hplan⟩
    have hm : item x "decision" = .str "skip" ∨ ¬Misled p :=
      (h x hx ⟨.inr hright, haccepts.payload⟩).fits.imp id And.left
    rw [build_write_plan_eq hx hm (.inr (rightDecision_self x))] at hplan
    obtain rfl := Except.ok.inj hplan
    exact ⟨x, hx, item_plan (by simp)⟩

/-- The plans of an input are built and verified alike exactly when whatever the planner
    accepts is verifiable. -/
theorem plans_verified_iff {p a : Json} {decision : Option Json} : PlansVerified H p a decision ↔
    ∀ x, evaluate_write H p a = .ok x → Accepts p decision x → Verifiable p decision x :=
  ⟨fun h _ hx haccepts => h.verifiable hx haccepts, .of_verifiable⟩

/-! ## A deep record -/

namespace Deep

/-- Lists in lists. -/
def nested : ℕ → Json
  | 0 => .arr []
  | n + 1 => .arr [nested n]

/-- A record as deep as a proposal may hold it but one. -/
def record : Json := dict [("id", .str "f-1"), ("text", .str "x"), ("data", nested 61)]

def proposal : Json := dict
  [("schema", .str "an-kla/write-proposal-v1"), ("base_revision", .str (ident 0)),
    ("stream", .str "facts"), ("operation", .str "add"),
    ("requested_representation", .str "summary"), ("record", record),
    ("lineage", dict [("derived_from_retrieval", .bool false), ("refs", .arr [])])]

/-- The authority of a model, not bound yet. -/
def authority : Json := dict
  [("schema", .str "an-kla/write-authority-v1"), ("proposal_sha256", .str (ident 0)),
    ("base_revision", .str (ident 0)), ("authority_class", .str "model_derived"),
    ("issuer", dict [("kind", .str "model"), ("id", .str "m"),
      ("configuration_fingerprint", .str (ident 0))]),
    ("evidence", .arr []),
    ("scope", dict [("streams", str_list ["facts"]), ("representations", str_list ["summary"]),
      ("operations", str_list ["add"])])]

theorem valid_proposal : validate_write_proposal proposal = .ok () := by decide +kernel

theorem valid_authority : validate_write_authority authority = .ok () := by decide +kernel

theorem ladder_eq : ladder proposal authority = "write-summary" := by decide +kernel

/-- The policy lets the record pass. -/
theorem evaluated : ∃ x, evaluate_write H proposal (rebind H authority proposal) = .ok x ∧
    item x "decision" = .str "write-summary" :=
  ladder_eq ▸ evaluate_rebind valid_proposal valid_authority

end Deep

/-- The planner accepts a record that is too deep for its plan. -/
theorem deep_plan_refused : ¬∀ (H : Crypto) (p a : Json) (decision : Option Json),
    PlansVerified H p a decision := by
  intro h
  obtain ⟨x, hx, hdecision⟩ := Deep.evaluated (H := plainHost)
  have hv := (h plainHost _ _ none).verifiable hx
    ⟨.inr (rightDecision_none x), .inr fun hm => absurd hm.1 (by decide +kernel)⟩
  obtain hskip | ⟨-, hfits⟩ := hv.fits
  · rw [hdecision] at hskip
    simp at hskip
  · exact absurd (hfits.depth Deep.record (by decide +kernel)) (by decide +kernel)

end AnKla
