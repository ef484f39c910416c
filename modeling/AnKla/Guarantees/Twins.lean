import AnKla.Guarantees.Plans

/-!
# Batches of one record

A batch is decided through its twin, the proposal of its first record alone, and adds reasons of
its own.

* `storing_codes`: the reasons that tell how a record is stored.
* `reasons_of_mismatch`, `reason_in_scope`: the reasons of one record, out of scope and in scope.
* `DecidesAlike`: a batch of one record is decided as the proposal of that record is.
* `decides_alike_iff`: when it is so.
-/

namespace AnKla

open PyJson

variable {H : Crypto}

/-! ## Reasons of one record -/

/-- The reasons that a record is accepted, and how it would be stored. -/
def storing_codes : List String := ["representation_accepted", "record_without_indexable_text"]

/-- The reason that the policy finds in a record, whatever it decides. -/
def self_reasons (p : Json) : List String :=
  if contains_self_asserted_authority (item p "record") then ["self_asserted_authority_ignored"]
  else []

/-- The authority covers what the proposal asks. -/
structure InScope (p a : Json) : Prop where
  base : item a "base_revision" = item p "base_revision"
  stream : item p "stream" ∈ elems (item (item a "scope") "streams")
  representation : item p "requested_representation" ∈
    elems (item (item a "scope") "representations")
  operation : item p "operation" ∈ elems (item (item a "scope") "operations")

theorem inScope_iff {p a : Json} : InScope p a ↔
    ¬(item a "base_revision" ≠ item p "base_revision" ∨
      item p "stream" ∉ elems (item (item a "scope") "streams") ∨
      item p "requested_representation" ∉ elems (item (item a "scope") "representations") ∨
      item p "operation" ∉ elems (item (item a "scope") "operations")) := by
  simp only [not_or, not_not]
  exact ⟨fun h => ⟨h.base, h.stream, h.representation, h.operation⟩,
    fun ⟨h1, h2, h3, h4⟩ => ⟨h1, h2, h3, h4⟩⟩

/-- Without an authority over it, a proposal is skipped for that reason. -/
theorem reasons_of_mismatch {p a : Json}
    (h : item a "proposal_sha256" ≠ H.json_ident p ∨ ¬InScope p a) :
    decide_single H p a = ("skip", "authority_scope_mismatch" :: self_reasons p) := by
  rw [inScope_iff, not_not] at h
  simp only [decide_single]
  rw [if_pos h, self_reasons]

/-- With an authority over it, a proposal has a reason that its record does not give. -/
theorem reason_in_scope {p a : Json} (h : item a "proposal_sha256" = H.json_ident p)
    (hs : InScope p a) (hop : one_of (item p "operation") ["add", "supersede"] = true) :
    ∃ code ∈ (decide_single H p a).2,
      code ∉ "authority_scope_mismatch" :: self_reasons p := by
  have hscope : ¬(item a "proposal_sha256" ≠ H.json_ident p ∨
      item a "base_revision" ≠ item p "base_revision" ∨
      item p "stream" ∉ elems (item (item a "scope") "streams") ∨
      item p "requested_representation" ∉ elems (item (item a "scope") "representations") ∨
      item p "operation" ∉ elems (item (item a "scope") "operations")) := by
    rintro (hno | hno)
    · exact hno h
    · exact inScope_iff.1 hs hno
  have hself {code : String} (hne : code ≠ "authority_scope_mismatch")
      (hne' : code ≠ "self_asserted_authority_ignored") :
      code ∉ "authority_scope_mismatch" :: self_reasons p := by
    rw [self_reasons]
    split_ifs <;> simp [hne, hne']
  simp only [decide_single]
  rw [if_neg hscope, if_neg (by simp [hop])]
  split_ifs <;> exact ⟨_, List.mem_cons_self, hself (by simp) (by simp)⟩

theorem self_reasons_eq (p : Json) :
    (if contains_self_asserted_authority (item p "record") = true then
      ["self_asserted_authority_ignored"] else []) = self_reasons p := rfl

/-- The reason of the record itself is always given. -/
theorem self_reasons_subset (p a : Json) : self_reasons p ⊆ (decide_single H p a).2 := by
  intro code hcode
  simp only [decide_single, self_reasons_eq, apply_ite Prod.snd]
  split_ifs <;> simp only [List.mem_cons, hcode, or_true]

/-- A record that is skipped is neither accepted nor stored, and one that is written is. -/
theorem storing_mem (p a : Json) :
    ("representation_accepted" ∈ (decide_single H p a).2 ↔ (decide_single H p a).1 ≠ "skip") ∧
    ("record_without_indexable_text" ∈ (decide_single H p a).2 ↔
      (decide_single H p a).1 ≠ "skip" ∧ record_text (item p "record") = "") := by
  have hself {code : String} (hne : code ≠ "self_asserted_authority_ignored") :
      code ∉ self_reasons p := by
    rw [self_reasons]
    split_ifs <;> simp [hne]
  have haccepted : "representation_accepted" ∉ self_reasons p := hself (by simp)
  have htext : "record_without_indexable_text" ∉ self_reasons p := hself (by simp)
  simp only [decide_single, self_reasons_eq]
  split_ifs <;> simp [*]

/-! ## Authorities that let a proposal be written -/

/-- An authority over a proposal lets it be written. -/
structure Permits (p a : Json) : Prop extends InScope p a where
  resolved : item a "authority_class" ≠ .str "unresolved"
  channel : item a "authority_class" ≠ .str "channel_confirmed"
  observed : item a "authority_class" = .str "tool_observed" →
    (elems (item a "evidence")).any (fun e => item e "resolution" = .str "verified") = true
  summary : item a "authority_class" ≠ .str "tool_observed" →
    item p "requested_representation" ≠ .str "full"
  retrieval : item a "authority_class" = .str "derived_from_retrieval" →
    item p "operation" ≠ .str "supersede"

theorem permits_iff {p a : Json} (hop : one_of (item p "operation") ["add", "supersede"] = true) :
    ladder p a ≠ "skip" ↔ Permits p a := by
  simp only [ladder]
  split_ifs with h1 h2 h3 h4 h5
  · refine iff_of_false (fun h => h rfl) fun h => ?_
    have hs := inScope_iff.1 h.toInScope
    rw [not_or, not_or, not_or] at hs
    obtain ⟨hs1, hs2, hs3, hs4⟩ := hs
    obtain h1 | h1 | h1 | h1 | h1 | h1 | h1 := h1
    · exact hs1 h1
    · exact hs2 h1
    · exact hs3 h1
    · exact hs4 h1
    · rw [hop] at h1
      cases h1
    · exact h.resolved h1
    · exact h.channel h1
  all_goals simp only [not_or, not_not] at h1
  all_goals obtain ⟨b1, b2, b3, b4, -, b5, b6⟩ := h1
  · refine iff_of_true (by simp) ⟨⟨b1, b2, b3, b4⟩, b5, b6, fun _ => h3, fun hno => absurd h2 hno,
      fun hd => ?_⟩
    rw [h2] at hd
    simp at hd
  · refine iff_of_true (by simp) ⟨⟨b1, b2, b3, b4⟩, b5, b6, fun _ => h3, fun hno => absurd h2 hno,
      fun hd => ?_⟩
    rw [h2] at hd
    simp at hd
  · exact iff_of_false (fun h => h rfl) fun h => h3 (h.observed h2)
  · refine iff_of_false (fun h => h rfl) fun h => ?_
    obtain ⟨hd, hs⟩ | hf := h5
    · exact h.retrieval hd hs
    · exact h.summary h2 hf
  · rw [not_or, not_and] at h5
    exact iff_of_true (by simp) ⟨⟨b1, b2, b3, b4⟩, b5, b6, fun ho => absurd ho h2, fun _ => h5.2,
      h5.1⟩

/-! ## The decision on a batch -/

variable (H) in
/-- The decision on a batch and its reasons, from its twin. -/
def decide_batch (p a : Json) : String × List String :=
  let twin := decide_single H (twin_v1 p) (rebind H a (twin_v1 p))
  let records := elems (item p "records")
  if item a "proposal_sha256" ≠ H.json_ident p ∨
      item a "base_revision" ≠ item p "base_revision" then
    ("skip", sorted_set twin.2 ++ ["authority_scope_mismatch"])
  else (twin.1, sorted_set twin.2 ++
    (if records.any contains_self_asserted_authority then ["self_asserted_authority_ignored"]
      else []) ++
    if records.any (record_text · = "") then ["record_without_indexable_text"] else [])

theorem texts_decision_object (x y : Json) (decision : String) (reasons : List String) :
    texts (item (decision_object H x y decision reasons) "reason_codes") = sorted_set reasons := by
  rw [decision_object, item_dict (k := "reason_codes") (by simp) (by simp; rfl), texts_str_list]

/-- A valid batch is decided, under a valid authority. -/
theorem evaluate_batch_eq {p a : Json} (hp : validate_batch_proposal p = .ok ())
    (ha : validate_write_authority a = .ok ()) : evaluate_write H p a =
      .ok (decision_object H (H.json_ident p) (H.json_ident a) (decide_batch H p a).1
        (decide_batch H p a).2) := by
  have hbatch := validate_batch_proposal_ok hp
  have hb : is_batch p = true := by rw [is_batch, hbatch.schema]; rfl
  have htwin := evaluate_single_eq (H := H) (single_of_twin hbatch) (rebind H a (twin_v1 p))
  rw [validate_rebind_of_valid ha] at htwin
  rw [evaluate_write, if_pos hb, evaluate_batch, hp, ha]
  simp only [bind, Except.bind, twin_authority_eq, htwin, Except.map, texts_decision_object,
    item_decision_object, py_str, decide_batch]
  split_ifs <;> rfl

/-- A valid proposal of one record is decided, under a valid authority. -/
theorem evaluate_twin_eq {p a : Json} (hp : validate_batch_proposal p = .ok ())
    (ha : validate_write_authority a = .ok ()) : evaluate_write H (twin_v1 p) a =
      .ok (decision_object H (H.json_ident (twin_v1 p)) (H.json_ident a)
        (decide_single H (twin_v1 p) a).1 (decide_single H (twin_v1 p) a).2) := by
  rw [evaluate_write, if_neg (by rw [is_batch_twin]; simp),
    evaluate_single_eq (single_of_twin (validate_batch_proposal_ok hp)), ha]
  rfl

/-! ## Batches of one record -/

variable (H) in
/-- A batch is decided under an authority as its twin is under another one. -/
structure DecidesAlike (p b a : Json) : Prop where
  both : (∃ x, evaluate_write H p b = .ok x) ↔ ∃ y, evaluate_write H (twin_v1 p) a = .ok y
  /-- The same decision. -/
  decision : ∀ x y, evaluate_write H p b = .ok x → evaluate_write H (twin_v1 p) a = .ok y →
    item x "decision" = item y "decision"
  /-- The same set of reasons. -/
  reasons : ∀ x y, evaluate_write H p b = .ok x → evaluate_write H (twin_v1 p) a = .ok y →
    ∀ code, code ∈ texts (item x "reason_codes") ↔ code ∈ texts (item y "reason_codes")
  /-- Nothing that is skipped is accepted or stored. -/
  plain : ∀ x, evaluate_write H p b = .ok x ∨ evaluate_write H (twin_v1 p) a = .ok x →
    item x "decision" = .str "skip" → ∀ code ∈ storing_codes, code ∉ texts (item x "reason_codes")

theorem storing_of_skip {p a : Json} (h : (decide_single H p a).1 = "skip") :
    ∀ code ∈ storing_codes, code ∉ (decide_single H p a).2 := by
  obtain ⟨haccepted, htext⟩ := storing_mem (H := H) p a
  intro code hcode
  simp only [storing_codes, List.mem_cons, List.not_mem_nil, or_false] at hcode
  obtain rfl | rfl := hcode
  · exact fun hmem => haccepted.1 hmem h
  · exact fun hmem => (htext.1 hmem).1 h

/-- Batch and twin are decided alike when they are decided for the same reasons. -/
theorem decidesAlike_of {p b a : Json} (hp : validate_batch_proposal p = .ok ())
    (hb : validate_write_authority b = .ok ()) (ha : validate_write_authority a = .ok ()) :
    DecidesAlike H p b a ↔ (decide_batch H p b).1 = (decide_single H (twin_v1 p) a).1 ∧
      ∀ code, code ∈ (decide_batch H p b).2 ↔ code ∈ (decide_single H (twin_v1 p) a).2 := by
  have hx := evaluate_batch_eq (H := H) hp hb
  have hy := evaluate_twin_eq (H := H) hp ha
  constructor
  · intro h
    have hdecision := h.decision _ _ hx hy
    have hreasons := h.reasons _ _ hx hy
    simp only [item_decision_object, Json.str.injEq, texts_decision_object, mem_sorted_set] at hdecision hreasons
    exact ⟨hdecision, hreasons⟩
  · rintro ⟨hdecision, hreasons⟩
    refine ⟨iff_of_true ⟨_, hx⟩ ⟨_, hy⟩, fun x y h h' => ?_, fun x y h h' code => ?_,
      fun x h hskip code hcode => ?_⟩
    · rw [hx] at h
      rw [hy] at h'
      rw [← Except.ok.inj h, ← Except.ok.inj h', item_decision_object, item_decision_object, hdecision]
    · rw [hx] at h
      rw [hy] at h'
      rw [← Except.ok.inj h, ← Except.ok.inj h', texts_decision_object, texts_decision_object,
        mem_sorted_set, mem_sorted_set, hreasons]
    · rw [hx, hy] at h
      obtain h | h := h
      · rw [← Except.ok.inj h, item_decision_object, Json.str.injEq, hdecision] at hskip
        rw [← Except.ok.inj h, texts_decision_object, mem_sorted_set, hreasons]
        exact storing_of_skip hskip code hcode
      · rw [← Except.ok.inj h, item_decision_object, Json.str.injEq] at hskip
        rw [← Except.ok.inj h, texts_decision_object, mem_sorted_set]
        exact storing_of_skip hskip code hcode

theorem rebind_rebind (a p q : Json) : rebind H (rebind H a p) q = rebind H a q := set_set _ _ _ _

theorem record_twin {p r : Json} (hr : elems (item p "records") = [r]) :
    item (twin_v1 p) "record" = r := by
  have h : item (twin_v1 p) "record" = (elems (item p "records")).headD .null :=
    item_twin (by simp [twin_items])
  rw [h, hr]
  rfl

theorem inScope_twin {p a : Json} : InScope (twin_v1 p) (rebind H a (twin_v1 p)) ↔ InScope p a := by
  simp only [inScope_iff, item_rebind_ne, ne_eq, String.reduceEq, not_false_eq_true,
    item_twin_frame p (k := "base_revision") (by simp), item_twin_frame p (k := "stream") (by simp),
    item_twin_frame p (k := "operation") (by simp),
    item_twin_frame p (k := "requested_representation") (by simp)]

section OneRecord

variable {p r a : Json} (hp : validate_batch_proposal p = .ok ()) (hr : elems (item p "records") = [r])
  (ha : validate_write_authority a = .ok ())
include hp ha

/-- Bound to neither, a batch of one record keeps the reasons of its twin. -/
theorem decide_unbound (hb : item a "proposal_sha256" ≠ H.json_ident p)
    (ht : item a "proposal_sha256" ≠ H.json_ident (twin_v1 p)) :
    DecidesAlike H p a a ↔ ¬InScope p a := by
  have hobj := (validate_write_authority_ok ha).obj
  have hop : one_of (item (twin_v1 p) "operation") ["add", "supersede"] = true := by
    rw [item_twin_frame p (by simp)]
    exact (validate_batch_proposal_ok hp).operation
  have hbound : item (rebind H a (twin_v1 p)) "proposal_sha256" = H.json_ident (twin_v1 p) :=
    item_set hobj _ _
  rw [decidesAlike_of hp ha ha, decide_batch, if_pos (.inl hb), reasons_of_mismatch (.inl ht)]
  simp only [true_and, List.mem_append, mem_sorted_set, List.mem_singleton]
  by_cases hscope : InScope p a
  · refine iff_of_false (fun h => ?_) (not_not.2 hscope)
    obtain ⟨code, hcode, hno⟩ := reason_in_scope hbound (inScope_twin.2 hscope) hop
    exact hno ((h code).1 (.inl hcode))
  · rw [reasons_of_mismatch (.inr fun h => hscope (inScope_twin.1 h))]
    refine iff_of_true (fun code => ?_) hscope
    rw [List.mem_cons]
    exact ⟨fun h => h.elim id .inl, .inl⟩

include hr

/-- Bound to it, a batch of one record has the reasons of its twin, and the one of its text. -/
theorem decide_bound : DecidesAlike H p (rebind H a p) (rebind H a (twin_v1 p)) ↔
    item a "base_revision" ≠ item p "base_revision" ∨ Permits p a ∨ record_text r ≠ "" := by
  have hobj := (validate_write_authority_ok ha).obj
  have hop := (validate_batch_proposal_ok hp).operation
  have hbound : item (rebind H a p) "proposal_sha256" = H.json_ident p := item_set hobj _ _
  have hbound' : item (rebind H a (twin_v1 p)) "proposal_sha256" = H.json_ident (twin_v1 p) :=
    item_set hobj _ _
  have hframe : item (rebind H a p) "base_revision" = item a "base_revision" :=
    item_rebind_ne (by simp) _ _
  have hdecision : (decide_single H (twin_v1 p) (rebind H a (twin_v1 p))).1 = ladder p a := by
    rw [decide_single_fst, if_pos hbound', ladder_twin]
  rw [decidesAlike_of hp (by rw [validate_rebind_of_valid ha]) (by rw [validate_rebind_of_valid ha])]
  by_cases hbase : item a "base_revision" = item p "base_revision"
  · have hself := self_reasons_subset (H := H) (twin_v1 p) (rebind H a (twin_v1 p))
    obtain ⟨-, htext⟩ := storing_mem (H := H) (twin_v1 p) (rebind H a (twin_v1 p))
    rw [self_reasons, record_twin hr] at hself
    rw [record_twin hr, hdecision, permits_iff hop] at htext
    rw [decide_batch, if_neg (by simp [hbound, hframe, hbase]), rebind_rebind, hr]
    simp only [List.any_cons, List.any_nil, Bool.or_false, decide_eq_true_eq, List.mem_append,
      mem_sorted_set, true_and, hbase, ne_eq, not_true_eq_false, false_or]
    constructor
    · intro h
      by_contra hno
      rw [not_or, not_not] at hno
      obtain ⟨hdenied, hblank⟩ := hno
      refine hdenied (htext.1 ((h _).1 (.inr ?_))).1
      rw [if_pos hblank]
      exact List.mem_singleton_self _
    · intro h code
      refine ⟨?_, fun hmem => .inl (.inl hmem)⟩
      rintro ((hmem | hmem) | hmem)
      · exact hmem
      · exact hself hmem
      · split_ifs at hmem with hblank
        · obtain rfl := List.mem_singleton.1 hmem
          exact htext.2 ⟨h.resolve_right (not_not.2 hblank), hblank⟩
        · cases hmem
  · have hscope : ¬InScope (twin_v1 p) (rebind H a (twin_v1 p)) := fun h =>
      hbase (inScope_twin.1 h).base
    rw [decide_batch, if_pos (.inr (by rw [hframe]; exact hbase)), rebind_rebind,
      reasons_of_mismatch (.inr hscope)]
    refine iff_of_true ⟨rfl, fun code => ?_⟩ (.inl hbase)
    rw [List.mem_append, mem_sorted_set, List.mem_singleton, List.mem_cons]
    exact ⟨fun h => h.elim id .inl, .inl⟩

/-- A batch of one record is decided as the proposal of that record exactly when no reason of a
    write is left over for what is skipped. -/
theorem decides_alike_iff :
    (DecidesAlike H p (rebind H a p) (rebind H a (twin_v1 p)) ↔
      item a "base_revision" ≠ item p "base_revision" ∨ Permits p a ∨ record_text r ≠ "") ∧
    (item a "proposal_sha256" ≠ H.json_ident p → item a "proposal_sha256" ≠ H.json_ident (twin_v1 p) →
      (DecidesAlike H p a a ↔ ¬InScope p a)) :=
  ⟨decide_bound hp hr ha, decide_unbound hp ha⟩

end OneRecord

namespace Textless

/-- A batch of one record, which has no text. -/
def batch : Json := dict
  [("schema", .str "an-kla/write-proposal-v2"), ("base_revision", .str (ident 0)),
    ("stream", .str "facts"), ("operation", .str "add"),
    ("requested_representation", .str "summary"), ("records", .arr [dict [("id", .str "f-1")]]),
    ("lineage", dict [("derived_from_retrieval", .bool false), ("refs", .arr [])])]

/-- An authority that nobody resolved. -/
def unresolved : Json := (Deep.authority.set "authority_class" (.str "unresolved")).set "issuer" (dict
  [("kind", .str "unknown"), ("id", .str "m"), ("configuration_fingerprint", .str (ident 0))])

theorem valid_batch : validate_batch_proposal batch = .ok () := by decide +kernel

theorem valid_unresolved : validate_write_authority unresolved = .ok () := by decide +kernel

theorem records_eq : elems (item batch "records") = [dict [("id", .str "f-1")]] := by decide +kernel

theorem blank : record_text (dict [("id", .str "f-1")]) = "" := by decide +kernel

theorem inScope : InScope batch Deep.authority :=
  ⟨by decide +kernel, by decide +kernel, by decide +kernel, by decide +kernel⟩

theorem obj_batch : batch.isObj = true := (validate_batch_proposal_ok valid_batch).obj

theorem obj_twin : (twin_v1 batch).isObj = true :=
  (single_of_twin (validate_batch_proposal_ok valid_batch)).obj

/-- The authority of a model, bound to something else. -/
noncomputable def unbound : Json := rebind plainHost Deep.authority .null

theorem valid_unbound : validate_write_authority unbound = .ok () := by
  rw [unbound, validate_rebind_of_valid Deep.valid_authority]

theorem item_unbound : item unbound "proposal_sha256" = plainHost.json_ident .null :=
  item_set (validate_write_authority_ok Deep.valid_authority).obj _ _

theorem unbound_ne {p : Json} (hp : p.isObj = true) :
    item unbound "proposal_sha256" ≠ plainHost.json_ident p := by
  rw [item_unbound]
  intro h
  rw [← Crypto.json_ident_inj h] at hp
  cases hp

theorem inScope_unbound : InScope batch unbound := by
  obtain ⟨h1, h2, h3, h4⟩ := inScope
  exact ⟨(item_rebind_ne (by simp) _ _).trans h1, by rwa [unbound, item_rebind_ne (by simp)],
    by rwa [unbound, item_rebind_ne (by simp)], by rwa [unbound, item_rebind_ne (by simp)]⟩

end Textless

/-- A batch whose record has no text is skipped for that too, and one that is bound to another
    proposal is skipped as accepted. -/
theorem textless_batch_differs :
    ¬DecidesAlike plainHost Textless.batch (rebind plainHost Textless.unresolved Textless.batch)
      (rebind plainHost Textless.unresolved (twin_v1 Textless.batch)) ∧
    ¬DecidesAlike plainHost Textless.batch Textless.unbound Textless.unbound := by
  constructor
  · rw [decide_bound Textless.valid_batch Textless.records_eq Textless.valid_unresolved, not_or, not_or]
    exact ⟨by decide +kernel, fun h => h.resolved (by decide +kernel), not_not.2 Textless.blank⟩
  · rw [decide_unbound Textless.valid_batch Textless.valid_unbound
      (Textless.unbound_ne Textless.obj_batch) (Textless.unbound_ne Textless.obj_twin)]
    exact not_not.2 Textless.inScope_unbound

theorem decides_alike_textless :
    (DecidesAlike plainHost Textless.batch (rebind plainHost Textless.unbound Textless.batch)
        (rebind plainHost Textless.unbound (twin_v1 Textless.batch)) ↔
      item Textless.unbound "base_revision" ≠ item Textless.batch "base_revision" ∨
        Permits Textless.batch Textless.unbound ∨ record_text (dict [("id", .str "f-1")]) ≠ "") ∧
    (DecidesAlike plainHost Textless.batch Textless.unbound Textless.unbound ↔
      ¬InScope Textless.batch Textless.unbound) := by
  have h := decides_alike_iff (H := plainHost) Textless.valid_batch Textless.records_eq
    Textless.valid_unbound
  exact ⟨h.1, h.2 (Textless.unbound_ne Textless.obj_batch) (Textless.unbound_ne Textless.obj_twin)⟩

end AnKla
