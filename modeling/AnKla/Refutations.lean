import AnKla.Transactions.Commit

/-!
# Committing a refutation

* `RefuteCall.planning`: a planning result, verified.
* `target_guard`: the target is one active record, under no overlay.
* `verify_commit_authority`: the authority outside attests the claim again.
* `commit_refute`.
-/

namespace AnKla

open PyJson Durable

variable (H : Crypto)

/-- The arguments of `commit_refute`, and the resolver of the store. -/
structure RefuteCall where
  planning_result : Json
  expected_current : Digest
  transaction_id : Option Uuid
  resolver : Option Resolver

/-- `refute-commit-result-v1`. -/
structure RefuteResult where
  committed : Option Bool
  revision : Option Digest
  decision : Json
  plan_fingerprint : Json
  outcome : Option Outcome

/-- `_target_guard(snapshot, stream, record_sha256)`. -/
def target_guard (s : Snapshot) (stream : Stream) (record_sha256 : Json) : Except Failure Unit :=
  let invalid := Failure.refute_policy "invalid_refute_target"
  match rows_of_digest H (s.raw_records.get stream) record_sha256 with
  | [] => .error (invalid "target_missing")
  | [target] => do
    ensure (!is_superseded s.manifest stream target && !is_refuted H s.manifest stream target)
      (invalid "overlay_conflict")
    ensure (is_active target) (invalid "target_not_active")
  | _ => .error (invalid "target_ambiguous")

/-- `_verify_commit_authority`. -/
def verify_commit_authority (resolver : Option Resolver)
    (proposal claim attestation observations : Json) : Except Failure Unit :=
  let invalid := Failure.refute_policy "invalid_refute_attestation"
  match resolver with
  | none => .error (invalid "resolver_unavailable_at_commit")
  | some r => do
    validate_descriptor r.descriptor
    ensure (item attestation "resolver" = r.descriptor) (invalid "resolver_descriptor_mismatch")
    ensure (item attestation "observations_sha256" = H.json_ident observations)
      (invalid "observations_mismatch")
    validate_attestation H attestation proposal claim observations r.descriptor
    ensure (r.verify attestation proposal claim observations)
      (invalid "resolver_verification_failed")

namespace RefuteCall

variable (r : RefuteCall)

def proposal : Json := item r.planning_result "proposal"
def claim : Json := item r.planning_result "authority_claim"
def decision : Json := item r.planning_result "decision"
def plan : Json := item r.planning_result "plan"

/-- `authority_attestation`, or `None`. -/
def attestation : Option Json :=
  match item r.planning_result "authority_attestation" with
  | .null => none
  | v => some v

def invalid (detail : String) : Failure := .refute_policy "invalid_refute_planning_result" detail

def base_changed : Failure := .refute_policy "refute_plan_base_changed" ""

/-- The decision is to write nothing. -/
def skips : Bool := item r.decision "decision" = .str "skip"

/-- `_planning(value, enforce_installed_policy)`. -/
def planning (enforce_installed_policy : Bool) : Except Failure Unit := do
  refute_exact r.planning_result
    ["schema", "current_revision", "proposal", "authority_claim", "authority_attestation",
      "decision", "plan"] "invalid_refute_planning_result" "shape"
  ensure (item r.planning_result "schema" = .str "an-kla/refute-planning-result-v1")
    (invalid "schema")
  validate_refute_proposal r.proposal
  validate_claim r.claim
  validate_refute_decision H r.decision enforce_installed_policy
  ensure (r.attestation.all (·.isObj)) (invalid "attestation")
  verify_refute_plan H r.plan r.proposal r.claim r.attestation r.decision enforce_installed_policy
  ensure (item r.planning_result "current_revision" = item r.proposal "base_revision" &&
    item r.proposal "base_revision" = item (item r.plan "core") "base_revision") (invalid "base")
  ensure (item r.claim "base_revision" = item r.proposal "base_revision" ||
    r.skips && item r.decision "reason_codes" = str_list ["authority_scope_mismatch"])
    (invalid "claim_base")

/-- `begin_transaction("refute", ...)`, for a decision to refute. -/
def attempt : Except Failure (Option Attempt) :=
  if r.skips then .ok none
  else match r.transaction_id with
  | none => .error (invalid "transaction_id_required")
  | some txid =>
    match digest_of (item r.plan "plan_fingerprint") with
    | none => .error (.value "invalid_content_identifier")
    | some fingerprint =>
      .ok (some (begin_transaction .refute txid r.expected_current fingerprint))

/-- The part before the lock. -/
def prepare (d : Disk) : Except Failure (Binding × Option Attempt) := do
  r.planning H false
  ensure (item r.proposal "base_revision" = .str (ident r.expected_current))
    (invalid "expected_current")
  let attempt ← r.attempt
  let binding ← mutation_preflight H d
  return (binding, attempt)

/-- The stored refutation. -/
def refutation (attestation : Json) : Json := dict
  [("schema", .str "an-kla/refutation-v1"),
    ("target_revision", .str (ident r.expected_current)),
    ("stream", item r.proposal "stream"),
    ("target_record_sha256", item r.proposal "target_record_sha256"),
    ("reason", item r.proposal "reason"),
    ("proposal_sha256", H.json_ident r.proposal),
    ("authority_claim_sha256", H.json_ident r.claim),
    ("authority_attestation_id", H.json_ident attestation),
    ("policy_fingerprint", refute_policy_fingerprint H),
    ("decision_sha256", H.json_ident r.decision),
    ("evidence_sha256", H.json_ident (item r.claim "evidence")),
    ("plan_fingerprint", item r.plan "plan_fingerprint")]

/-- The metadata of the transaction. -/
def metadata (attestation : Json) : Json := dict
  [("schema", .str "an-kla/refute-policy-transaction-v1"),
    ("proposal_sha256", H.json_ident r.proposal),
    ("authority_claim_sha256", H.json_ident r.claim),
    ("authority_attestation_id", H.json_ident attestation),
    ("policy_fingerprint", refute_policy_fingerprint H),
    ("decision_sha256", H.json_ident r.decision),
    ("evidence_sha256", H.json_ident (item r.claim "evidence")),
    ("plan_fingerprint", item r.plan "plan_fingerprint"),
    ("decision", .str "refute"),
    ("reason", item r.proposal "reason"),
    ("target", dict [("stream", item r.proposal "stream"),
      ("record_sha256", item r.proposal "target_record_sha256")]),
    ("refutation_id", H.json_ident (r.refutation H attestation))]

/-- The checks of a refutation on its base, and what it asks of `commit_locked`. -/
def request (attempt : Attempt) (store_identity : Digest) (d : Disk) :
    Except Failure CommitRequest := do
  r.planning H true
  match r.attestation, Stream.ofName (py_str (item r.proposal "stream")) with
  | some attestation, some stream => do
    let base ← snapshot H d r.expected_current
    let observations ← build_observations H d base r.claim
    verify_commit_authority H r.resolver r.proposal r.claim attestation observations
    target_guard H base stream (item r.proposal "target_record_sha256")
    return {
      observed := r.expected_current
      checkpoint_patch := dict []
      pending := no_pending
      attempt
      policy_metadata := some (r.metadata H attestation)
      supersedes := []
      refute_objects := some ⟨r.claim, attestation, r.refutation H attestation⟩
      store_identity }
  | _, _ => .error (.value "authority_attestation")

/-- `_result`. -/
def result (revision : Option Digest) (outcome : Option Outcome) : RefuteResult where
  committed := match outcome with
    | none => some false
    | some o => o.committed
  revision := match outcome with
    | none => revision
    | some o =>
      match o.committed with
      | some true => o.candidate_revision
      | some false => o.current_observed.or o.parent_revision
      | none => o.current_observed
  decision := r.decision
  plan_fingerprint := item r.plan "plan_fingerprint"
  outcome := outcome

/-- The part under the lock, before `commit_locked`: a result, or a request. -/
def lock (binding : Binding) (attempt : Option Attempt) (d : Disk) :
    Except Failure (RefuteResult ⊕ CommitRequest) := do
  let observed ← read_current d
  let store_identity ← assert_unchanged H d binding observed
  match attempt with
  | none => do
    ensure (observed = r.expected_current) base_changed
    verify_refute_plan H r.plan r.proposal r.claim none r.decision true
    return .inl (r.result (some observed) none)
  | some a => do
    let prior ← reconcile_attempt H d a
    match prior with
    | some o =>
      if o.committed = some true ∨ observed ≠ r.expected_current then
        return .inl (r.result none (some o))
      else .inr <$> r.request H a store_identity d
    | none => do
      ensure (observed = r.expected_current) base_changed
      .inr <$> r.request H a store_identity d

end RefuteCall

/-- `commit_refute(store, planning_result, expected_current)`. -/
def commit_refute (r : RefuteCall) (incident : Option Incident) (d : Disk) :
    Disk × Reply RefuteResult :=
  match r.prepare H d with
  | .error e => (d, .raised e)
  | .ok (binding, attempt) =>
    match r.lock H binding attempt d with
    | .error e => (d, .raised e)
    | .ok (.inl result) => (d, .returned result)
    | .ok (.inr c) =>
      let (d', reply) := commit_locked H c incident d
      (d', reply.map fun x => r.result none (some x.2))

end AnKla
