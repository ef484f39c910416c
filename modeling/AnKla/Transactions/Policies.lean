import AnKla.Transactions.Base

/-!
# The policy of a stage

A stage holds the policy metadata of its transaction. Two stages of one attempt for
one candidate hold the same.

* `PolicyOf`: what the metadata of a stage is made of.
* `PolicyOf.unique`: it is determined by the attempt and the candidate.
* `Requests.policy`: what a call asks for is such.
-/

namespace AnKla

open PyJson Durable

variable {H : Crypto}

/-- The metadata of a write, from the fingerprint and the decision of its plan. -/
def write_metadata (fingerprint : Digest) (decision : Json) : Json := dict
  [("schema", .str "an-kla/write-policy-transaction-v1"),
    ("plan_fingerprint", .str (ident fingerprint)),
    ("proposal_sha256", item decision "proposal_sha256"),
    ("authority_sha256", item decision "authority_sha256"),
    ("policy_fingerprint", item decision "policy_fingerprint"),
    ("decision", item decision "decision"),
    ("reason_codes", item decision "reason_codes")]

variable (H) in
/-- The policy metadata of a stage is that of its attempt and its candidate: a write
    names the decision of its plan, a refutation the last entry of the candidate. -/
def PolicyOf (s : Stage) : Prop :=
  match s.attempt.operation with
  | .write => ∃ core decision, H.digest_json core = s.attempt.fingerprint ∧
      item core "decision_sha256" = H.json_ident decision ∧
      s.policy = some (.write_policy (write_metadata s.attempt.fingerprint decision))
  | .checkpoint => s.policy = none
  | .refute => ∃ x e v, H.digest (.manifest x) = s.candidate ∧ x.refutations.getLast? = some e ∧
      H.digest_json v = e.refutation_id ∧
      s.policy = some (.refute_policy (refute_metadata v e.refutation_id))
  | _ => True

/-- The operations of governed calls. -/
def Operation.governed : Operation → Bool
  | .write | .checkpoint | .refute => true
  | _ => false

theorem PolicyOf.unique {s s' : Stage} (h : PolicyOf H s) (h' : PolicyOf H s')
    (hop : s.attempt.operation.governed = true) (ha : s'.attempt = s.attempt)
    (hc : s'.candidate = s.candidate) : s'.policy = s.policy := by
  rw [PolicyOf] at h h'
  rw [ha] at h'
  cases ho : s.attempt.operation with
  | write =>
    rw [ho] at h h'
    obtain ⟨core, decision, hcore, hdec, hp⟩ := h
    obtain ⟨core', decision', hcore', hdec', hp'⟩ := h'
    obtain rfl := Crypto.digest_json_inj (hcore.trans hcore'.symm)
    obtain rfl := Crypto.json_ident_inj (hdec.symm.trans hdec')
    rw [hp, hp']
  | checkpoint =>
    rw [ho] at h h'
    exact h'.trans h.symm
  | refute =>
    rw [ho] at h h'
    obtain ⟨x, e, v, hx, he, hv, hp⟩ := h
    obtain ⟨x', e', v', hx', he', hv', hp'⟩ := h'
    obtain rfl := Crypto.manifest_inj (hx.trans (hc ▸ hx'.symm))
    obtain rfl := Option.some.inj (he.symm.trans he')
    obtain rfl := Crypto.digest_json_inj (hv.trans hv'.symm)
    rw [hp, hp']
  | init => rw [ho] at hop; cases hop
  | compact => rw [ho] at hop; cases hop
  | internal_commit => rw [ho] at hop; cases hop

/-! ## Writes -/

/-- A plan that is verified names its core and its decision. -/
theorem verify_write_plan_core {plan proposal authority decision : Json}
    (h : verify_write_plan H plan proposal authority (some decision) = .ok ()) :
    item plan "plan_fingerprint" = H.json_ident (item plan "core") ∧
      item (item plan "core") "decision_sha256" = H.json_ident decision := by
  rw [verify_write_plan, mapError_ok, check_write_plan] at h
  obtain ⟨_, -, h⟩ := bind_ok.1 h
  obtain ⟨checked, hchecked, h⟩ := bind_ok.1 h
  obtain ⟨_, hf, h⟩ := bind_ok.1 h
  obtain ⟨_, -, h⟩ := bind_ok.1 h
  obtain ⟨expected, hexp, h⟩ := bind_ok.1 h
  rw [ensure_ok, decide_eq_true_eq] at hf h
  refine ⟨hf, ?_⟩
  have hdec : checked = decision ∧ evaluate_write H proposal authority = .ok decision := by
    rw [verified_decision] at hchecked
    obtain ⟨e, he, hchecked⟩ := bind_ok.1 hchecked
    simp only [bind_ok, ensure_ok, decide_eq_true_eq, pure_ok] at hchecked
    obtain ⟨-, -, -, -, -, -, -, rfl, rfl⟩ := hchecked
    exact ⟨rfl, he⟩
  have hplan : ∃ records, expected = plan_object H proposal decision records := by
    rw [build_write_plan] at hexp
    split_ifs at hexp
    · rw [build_batch_plan] at hexp
      obtain ⟨e, he, hexp⟩ := bind_ok.1 hexp
      obtain rfl := Except.ok.inj (hdec.2.symm.trans he)
      split_ifs at hexp
      · exact ⟨_, (pure_ok.1 hexp).symm⟩
      · obtain ⟨_, -, hexp⟩ := bind_ok.1 hexp
        obtain ⟨_, -, hexp⟩ := bind_ok.1 hexp
        exact ⟨_, (pure_ok.1 hexp).symm⟩
    · rw [build_single_plan] at hexp
      obtain ⟨e, he, hexp⟩ := bind_ok.1 hexp
      obtain rfl : e = decision := by
        rw [← hdec.1]
        exact Except.ok.inj (he.symm.trans (hdec.1 ▸ hchecked))
      exact ⟨_, (pure_ok.1 hexp).symm⟩
  obtain ⟨records, hrec⟩ := hplan
  rw [h, hrec, plan_object]
  rw [item_dict (k := "core") (by simp) (List.mem_cons_of_mem _ List.mem_cons_self)]
  exact item_dict (by simp) (by simp)

/-- The metadata of a verified write plan. -/
theorem WriteCall.metadata_eq {w : WriteCall} {a : Attempt} (h : w.attempt = .ok a) :
    w.metadata = write_metadata a.fingerprint w.decision ∧
      item w.plan "plan_fingerprint" = .str (ident a.fingerprint) ∧ a.operation = .write := by
  rw [WriteCall.attempt] at h
  split at h
  · cases h
  · next v hv =>
    split at h
    · cases h
    · next f hf =>
      cases h
      have hitem : item w.plan "plan_fingerprint" = .str (ident f) := by
        rw [item, hv]
        exact digest_of_eq.1 hf
      refine ⟨?_, hitem, rfl⟩
      rw [WriteCall.metadata, write_metadata, hitem]
      rfl

/-! ## Refutations -/

theorem RefuteCall.item_refutation (r : RefuteCall) (attestation : Json) :
    ∀ kv ∈ [("target_revision", Json.str (ident r.expected_current)),
      ("stream", item r.proposal "stream"),
      ("target_record_sha256", item r.proposal "target_record_sha256"),
      ("reason", item r.proposal "reason"),
      ("proposal_sha256", H.json_ident r.proposal),
      ("authority_claim_sha256", H.json_ident r.claim),
      ("authority_attestation_id", H.json_ident attestation),
      ("policy_fingerprint", refute_policy_fingerprint H),
      ("decision_sha256", H.json_ident r.decision),
      ("evidence_sha256", H.json_ident (item r.claim "evidence")),
      ("plan_fingerprint", item r.plan "plan_fingerprint")],
      item (r.refutation H attestation) kv.1 = kv.2 :=
  fun _ h => item_dict (by simp) (List.mem_cons_of_mem _ h)

/-- The metadata of a refutation is made of the refutation. -/
theorem RefuteCall.metadata_eq (r : RefuteCall) (attestation : Json) :
    r.metadata H attestation =
      refute_metadata (r.refutation H attestation) (H.digest_json (r.refutation H attestation)) := by
  obtain ⟨-, h1, h2, h3, h4, h5, h6, h7, h8, h9, h10, -⟩ := by
    simpa only [List.forall_mem_cons] using r.item_refutation (H := H) attestation
  rw [refute_metadata, h1, h2, h3, h4, h5, h6, h7, h8, h9, h10]
  rfl

/-! ## Requests -/

/-- The entry of a refutation names its stream, its target and itself. -/
theorem refutation_entry_ok {c : CommitRequest} {o : RefuteObjects} {entry : List RefutationEntry}
    (ho : c.refute_objects = some o) (h : c.refutation_entry H = .ok entry) :
    ∃ stream target, Stream.ofName (py_str (item o.refutation "stream")) = some stream ∧
      digest_of (item o.refutation "target_record_sha256") = some target ∧
      entry = [⟨stream, target, H.digest_json o.refutation⟩] ∧
      item o.refutation "authority_claim_sha256" = H.json_ident o.authority_claim ∧
      item o.refutation "authority_attestation_id" = H.json_ident o.authority_attestation := by
  rw [CommitRequest.refutation_entry, ho] at h
  obtain ⟨_, hens, h⟩ := bind_ok.1 h
  simp only [ensure_ok, Bool.and_eq_true, decide_eq_true_eq] at hens
  split at h
  · next stream target hs ht =>
    exact ⟨stream, target, hs, ht, (pure_ok.1 h).symm, hens.1.1, hens.1.2⟩
  · cases h

/-- The stage of a request on CURRENT holds the policy of its attempt. -/
theorem Requests.policy {d d₀ : Disk} {g : Governed} {c : CommitRequest} {base : Snapshot}
    {m : Manifest} (h : Requests H d g d₀ c) (hc : read_current d = .ok c.observed)
    (hm : c.manifest H base = .ok m) :
    c.attempt.operation.governed = true ∧ PolicyOf H (c.stage H m) := by
  obtain ⟨entry, hchild⟩ := CommitRequest.manifest_child hm
  cases h with
  | @write w binding store_identity _ _ current checked writes request =>
    obtain ⟨ha, -, -, hp, -⟩ := write_request_fields request
    obtain ⟨hmeta, hplan, hop⟩ := WriteCall.metadata_eq ha
    rw [WriteCall.check] at checked
    obtain ⟨_, -, checked⟩ := bind_ok.1 checked
    obtain ⟨⟨⟩, hv, -⟩ := bind_ok.1 checked
    obtain ⟨hf, hdec⟩ := verify_write_plan_core hv
    have hcore : H.digest_json (item w.plan "core") = c.attempt.fingerprint :=
      ident_injective (Json.str.inj (hf.symm.trans hplan))
    refine ⟨by rw [hop]; rfl, ?_⟩
    rw [PolicyOf, CommitRequest.stage, hop]
    refine ⟨_, w.decision, hcore, hdec, ?_⟩
    rw [CommitRequest.policy, hp, hop, ← hmeta]
    rfl
  | replay current advanced request =>
    obtain ⟨-, ho, -⟩ := replay_request_fields request
    rw [current, ho] at hc
    exact absurd (Except.ok.inj hc) advanced
  | @checkpoint k binding _ _ _ prepared request =>
    obtain ⟨ha, s, rfl, -⟩ := checkpoint_lock prepared request
    obtain ⟨t, f, -, rfl⟩ := checkpoint_attempt ha
    exact ⟨rfl, rfl⟩
  | @refute r binding a _ prepared request =>
    obtain ⟨ha, -, s, -, hr⟩ := refute_lock prepared request
    obtain ⟨t, f, -, -, rfl⟩ := refute_attempt ha
    obtain ⟨-, hat, -, -, -, attestation, -, hpol, hobj⟩ := refute_request_fields hr
    refine ⟨by rw [hat]; rfl, ?_⟩
    have hop : c.attempt.operation = .refute := by rw [hat]; rfl
    rw [PolicyOf, CommitRequest.stage, hop]
    have hv : m.schema ≠ .v1 := by
      rw [hchild.schema]
      by_cases hb : base.manifest.schema = .v3 <;> simp [hb, hop]
    obtain ⟨stream, target, -, -, rfl, -⟩ := refutation_entry_ok hobj hchild.added
    refine ⟨m, ⟨stream, target, H.digest_json (r.refutation H attestation)⟩,
      r.refutation H attestation, rfl, ?_, rfl, ?_⟩
    · rw [hchild.refutations hv, List.getLast?_append]
      rfl
    · rw [CommitRequest.policy, hpol, hop, r.metadata_eq]
      rfl

end AnKla
