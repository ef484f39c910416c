import AnKla.Policy.Fields

/-!
# Refutation policy

* `validate_refute_proposal`, `validate_claim`, `validate_observations`,
  `validate_attestation`: the closed formats of a governed refutation.
* `Resolver`: the authority outside that attests a claim. It is asked when a
  refutation is planned and when it is committed.
* `evaluate_refute`, `build_refute_plan`, `verify_refute_plan`.
-/

namespace AnKla

open PyJson

/-! ## Contracts -/

def refute_failure (code detail : String) : Failure := .refute_policy code detail

/-- `exact(value, keys, code, detail)`. -/
def refute_exact (v : Json) (keys : List String) (code detail : String) : Except Failure Unit :=
  ensure (exact_keys v keys) (.refute_policy code detail)

/-- `digest(value, code, detail)`. -/
def refute_digest (v : Json) (code detail : String) : Except Failure Unit :=
  ensure (is_digest v) (.refute_policy code detail)

/-- `PROFILE.fullmatch(value)`. -/
def is_profile : Json → Bool
  | .str s =>
    let name := s.toList.takeWhile (· ≠ '/')
    let version := s.toList.dropWhile (· ≠ '/')
    let is_name (c : Char) := ('a' ≤ c && c ≤ 'z') || ('0' ≤ c && c ≤ '9') || c = '-'
    1 ≤ name.length && name.length ≤ 64 && (name.head?.any fun c => 'a' ≤ c && c ≤ 'z') &&
      name.all is_name && version.take 2 = ['/', 'v'] &&
      3 ≤ version.length && version.length ≤ 12 &&
      ((version.drop 2).head?.any fun c => '1' ≤ c && c ≤ '9') &&
      (version.drop 2).all fun c => '0' ≤ c && c ≤ '9'
  | _ => false

def refute_streams : List String := ["facts", "events", "episodes"]

def refute_reasons : List String :=
  ["evidence_contradicts_record", "source_retracted", "integrity_violation"]

def privileged_classes : List String := ["channel_confirmed", "tool_observed"]

/-- `validate_proposal` of a refutation. -/
def validate_refute_proposal (v : Json) : Except Failure Unit := do
  let code := "invalid_refute_proposal"
  refute_exact v ["schema", "base_revision", "stream", "target_record_sha256", "reason"] code "shape"
  ensure (item v "schema" = .str "an-kla/refute-proposal-v1" &&
    one_of (item v "stream") refute_streams) (.refute_policy code "schema_or_stream")
  refute_digest (item v "base_revision") code "base_revision"
  refute_digest (item v "target_record_sha256") code "target_record_sha256"
  ensure (one_of (item v "reason") refute_reasons) (.refute_policy code "reason")

/-- The field of an evidence item that holds its digest. -/
def evidence_key (kind : Json) : Option String :=
  if one_of kind ["fact", "event", "episode"] then some "record_sha256"
  else if kind = .str "revision" then some "revision_sha256"
  else if one_of kind ["artifact", "external"] then some "content_sha256"
  else none

/-- `validate_evidence(value, code)`. -/
def validate_refute_evidence (v : Json) : Except Failure Unit := do
  let code := "invalid_refute_authority_claim"
  ensure v.isObj (.refute_policy code "evidence")
  match evidence_key (item v "kind") with
  | none => .error (.refute_policy code "evidence.kind")
  | some key => do
    refute_exact v ["kind", key] code "evidence"
    refute_digest (item v key) code ("evidence." ++ key)

/-- `validate_claim(value)`. -/
def validate_claim (v : Json) : Except Failure Unit := do
  let code := "invalid_refute_authority_claim"
  refute_exact v
    ["schema", "proposal_sha256", "base_revision", "requested_authority_class", "issuer_claim",
      "evidence", "scope"] code "shape"
  ensure (item v "schema" = .str "an-kla/refute-authority-claim-v1") (.refute_policy code "schema")
  refute_digest (item v "proposal_sha256") code "proposal_sha256"
  refute_digest (item v "base_revision") code "base_revision"
  ensure (one_of (item v "requested_authority_class")
    ["tool_observed", "channel_confirmed", "model_derived", "derived_from_retrieval", "unresolved"])
    (.refute_policy code "requested_authority_class")
  let issuer := item v "issuer_claim"
  refute_exact issuer ["kind", "subject_sha256", "configuration_fingerprint"] code "issuer_claim"
  ensure (one_of (item issuer "kind") ["tool", "channel", "model", "resolver", "unknown"])
    (.refute_policy code "issuer_claim.kind")
  refute_digest (item issuer "subject_sha256") code "issuer_claim.subject_sha256"
  refute_digest (item issuer "configuration_fingerprint") code
    "issuer_claim.configuration_fingerprint"
  let evidence := item v "evidence"
  ensure (is_list evidence && decide (1 ≤ (elems evidence).length) &&
    decide ((elems evidence).length ≤ 16)) (.refute_policy code "evidence")
  (elems evidence).forM validate_refute_evidence
  ensure (decide (((elems evidence).map dumps).Pairwise (· < ·)))
    (.refute_policy code "evidence.order_or_duplicate")
  let scope := item v "scope"
  refute_exact scope ["operation", "stream", "target_record_sha256"] code "scope"
  ensure (item scope "operation" = .str "refute" && one_of (item scope "stream") refute_streams)
    (.refute_policy code "scope")
  refute_digest (item scope "target_record_sha256") code "scope.target_record_sha256"

/-- `validate_descriptor(value)`. -/
def validate_descriptor (v : Json) : Except Failure Unit := do
  let code := "invalid_refute_attestation"
  refute_exact v ["profile", "subject_sha256", "configuration_fingerprint"] code "resolver"
  ensure (is_profile (item v "profile")) (.refute_policy code "resolver.profile")
  refute_digest (item v "subject_sha256") code "resolver.subject_sha256"
  refute_digest (item v "configuration_fingerprint") code "resolver.configuration_fingerprint"

/-- `_evidence_digest(item)`. -/
def evidence_digest (v : Json) : Json :=
  match evidence_key (item v "kind") with
  | some key => item v key
  | none => .null

/-- Evidence that the store does not hold. -/
def is_external (evidence : Json) : Bool := one_of (item evidence "kind") ["artifact", "external"]

/-- One observation of `validate_observations`. -/
def validate_observation (raw evidence : Json) : Except Failure Unit := do
  let code := "invalid_refute_attestation"
  refute_exact raw ["schema", "evidence", "store_resolution", "observed_sha256"] code "observation"
  ensure (item raw "schema" = .str "an-kla/refute-observation-v1" && item raw "evidence" = evidence)
    (.refute_policy code "observation.binding")
  let resolution := item raw "store_resolution"
  let observed := item raw "observed_sha256"
  if is_external evidence then
    ensure (resolution = .str "unavailable" && observed = .null)
      (.refute_policy code "observation.external")
  else if resolution = .str "present" then
    ensure (observed = evidence_digest evidence) (.refute_policy code "observation.present")
  else
    ensure (resolution = .str "missing" && observed = .null)
      (.refute_policy code "observation.missing")

/-- `validate_observations(value, claim)`. -/
def validate_observations (v claim : Json) : Except Failure Unit := do
  let code := "invalid_refute_attestation"
  refute_exact v ["schema", "base_revision", "items"] code "observations"
  ensure (item v "schema" = .str "an-kla/refute-observations-v1" &&
    item v "base_revision" = item claim "base_revision") (.refute_policy code "observations.binding")
  let items := item v "items"
  let evidence := elems (item claim "evidence")
  ensure (is_list items && decide ((elems items).length = evidence.length))
    (.refute_policy code "observations.items")
  ((elems items).zip evidence).forM fun x => validate_observation x.1 x.2

variable (H : Crypto)

/-- One resolution of `validate_attestation`. -/
def validate_resolution (resolution evidence observation : Json) : Except Failure Unit := do
  let code := "invalid_refute_attestation"
  ensure (resolution = (evidence.set "resolution" (.str "verified")).set "observation_sha256"
    (H.json_ident observation)) (.refute_policy code "evidence_resolutions.binding")
  ensure (is_external evidence || item observation "store_resolution" = .str "present")
    (.refute_policy code "evidence_resolutions.missing")

/-- `validate_attestation(value, proposal, claim, observations, descriptor)`. -/
def validate_attestation (v proposal claim observations descriptor : Json) :
    Except Failure Unit := do
  let code := "invalid_refute_attestation"
  refute_exact v
    ["schema", "proposal_sha256", "authority_claim_sha256", "base_revision", "resolver",
      "authority_class", "issuer", "observations_sha256", "evidence_resolutions", "scope", "proof"]
    code "shape"
  ensure (item v "schema" = .str "an-kla/refute-authority-attestation-v1" &&
    item v "proposal_sha256" = H.json_ident proposal &&
    item v "authority_claim_sha256" = H.json_ident claim &&
    item v "base_revision" = item proposal "base_revision" &&
    item v "resolver" = descriptor &&
    item v "observations_sha256" = H.json_ident observations &&
    item v "scope" = item claim "scope" &&
    item v "authority_class" = item claim "requested_authority_class")
    (.refute_policy code "binding")
  validate_descriptor (item v "resolver")
  ensure (one_of (item v "authority_class") privileged_classes)
    (.refute_policy code "authority_class")
  let issuer := item v "issuer"
  refute_exact issuer ["kind", "subject_sha256", "configuration_fingerprint"] code "issuer"
  ensure (item issuer "kind" = .str (if item v "authority_class" = .str "tool_observed"
    then "tool" else "channel")) (.refute_policy code "issuer.kind")
  refute_digest (item issuer "subject_sha256") code "issuer.subject_sha256"
  refute_digest (item issuer "configuration_fingerprint") code "issuer.configuration_fingerprint"
  let resolutions := item v "evidence_resolutions"
  let evidence := elems (item claim "evidence")
  ensure (is_list resolutions && decide ((elems resolutions).length = evidence.length))
    (.refute_policy code "evidence_resolutions")
  ((elems resolutions).zip (evidence.zip (elems (item observations "items")))).forM fun x =>
    validate_resolution H x.1 x.2.1 x.2.2
  let proof := item v "proof"
  refute_exact proof ["profile", "proof_sha256"] code "proof"
  ensure (is_profile (item proof "profile")) (.refute_policy code "proof.profile")
  refute_digest (item proof "proof_sha256") code "proof.proof_sha256"
  ensure (item proof "profile" = item descriptor "profile") (.refute_policy code "proof.profile")

/-! ## Policy -/

/-- `refute_authority_resolver`. -/
structure Resolver where
  descriptor : Json
  resolve : Json → Json → Json → Option Json
  verify : Json → Json → Json → Json → Bool

/-- `_CONFIG` of the refutation policy. -/
def refute_policy_config : Json := dict
  [("schema", .str "an-kla/refute-policy-config-v1"),
    ("profile", .str "refute-policy/v1"),
    ("supported_operations", str_list ["refute"]),
    ("allowed_authority_classes", str_list ["channel_confirmed", "tool_observed"]),
    ("evidence_kinds", str_list ["artifact", "event", "fact", "episode", "revision", "external"]),
    ("reason_codes", str_list
      ["authority_scope_mismatch", "refute_accepted", "refute_authority_resolver_unavailable",
        "refute_requires_privileged_authority", "verified_evidence_required"]),
    ("terminal_error_codes", str_list
      ["invalid_refute_attestation", "invalid_refute_authority_claim", "invalid_refute_decision",
        "invalid_refute_plan", "invalid_refute_planning_result", "invalid_refute_proposal",
        "invalid_refute_target", "lifecycle_chain_invalid", "lifecycle_chain_limit_exceeded",
        "refute_content_hash_mismatch", "refute_plan_base_changed",
        "refute_policy_fingerprint_mismatch", "revision_schema_downgrade",
        "revision_transition_invalid"]),
    ("overlay_format", .str "refutations/v1"),
    ("revision_schema", .str "an-kla/revision-v2"),
    ("resolver_required", .bool true)]

/-- `policy_fingerprint()` of the refutation policy. -/
def refute_policy_fingerprint : Json := H.json_ident refute_policy_config

/-- The digest of an attestation, or `None`. -/
def attestation_ident : Option Json → Json
  | some a => H.json_ident a
  | none => .null

/-- `_decision` of a refutation. -/
def refute_decision (proposal claim : Json) (decision reason : String) (attestation : Option Json) :
    Json := dict
  [("schema", .str "an-kla/refute-decision-v1"),
    ("proposal_sha256", H.json_ident proposal),
    ("authority_claim_sha256", H.json_ident claim),
    ("authority_attestation_id", attestation_ident H attestation),
    ("policy_profile", .str "refute-policy/v1"),
    ("policy_fingerprint", refute_policy_fingerprint H),
    ("decision", .str decision),
    ("reason_codes", str_list [reason])]

/-- The scope that a claim on a proposal must have. -/
def refute_scope (proposal : Json) : Json := dict
  [("operation", .str "refute"), ("stream", item proposal "stream"),
    ("target_record_sha256", item proposal "target_record_sha256")]

/-- `evaluate` of a refutation. -/
def evaluate_refute (proposal claim observations : Json) (resolver : Option Resolver) :
    Except Failure (Json × Option Json) := do
  validate_refute_proposal proposal
  validate_claim claim
  validate_observations observations claim
  let skip (reason : String) := (refute_decision H proposal claim "skip" reason none, none)
  if item claim "proposal_sha256" ≠ H.json_ident proposal ∨
      item claim "base_revision" ≠ item proposal "base_revision" ∨
      item claim "scope" ≠ refute_scope proposal then
    return skip "authority_scope_mismatch"
  else if !one_of (item claim "requested_authority_class") privileged_classes then
    return skip "refute_requires_privileged_authority"
  else match resolver with
  | none => return skip "refute_authority_resolver_unavailable"
  | some r =>
    if ((elems (item claim "evidence")).zip (elems (item observations "items"))).any
        (fun x => !is_external x.1 && item x.2 "store_resolution" ≠ .str "present") then
      return skip "verified_evidence_required"
    else match r.resolve proposal claim observations with
    | none => return skip "verified_evidence_required"
    | some attestation => do
      validate_attestation H attestation proposal claim observations r.descriptor
      ensure (r.verify attestation proposal claim observations)
        (.refute_policy "invalid_refute_attestation" "resolver_verification_failed")
      return (refute_decision H proposal claim "refute" "refute_accepted" (some attestation),
        some attestation)

/-- `validate_decision` of a refutation. -/
def validate_refute_decision (v : Json) (enforce_installed_policy : Bool) :
    Except Failure Unit := do
  let code := "invalid_refute_decision"
  refute_exact v
    ["schema", "proposal_sha256", "authority_claim_sha256", "authority_attestation_id",
      "policy_profile", "policy_fingerprint", "decision", "reason_codes"] code "shape"
  ensure (item v "schema" = .str "an-kla/refute-decision-v1" &&
    item v "policy_profile" = .str "refute-policy/v1" &&
    one_of (item v "decision") ["skip", "refute"] && is_list (item v "reason_codes") &&
    decide ((elems (item v "reason_codes")).length = 1)) (.refute_policy code "values")
  refute_digest (item v "proposal_sha256") code "proposal_sha256"
  refute_digest (item v "authority_claim_sha256") code "authority_claim_sha256"
  refute_digest (item v "policy_fingerprint") code "policy_fingerprint"
  ensure (!enforce_installed_policy || item v "policy_fingerprint" = refute_policy_fingerprint H)
    (.refute_policy "refute_policy_fingerprint_mismatch" "")
  if item v "decision" = .str "refute" then do
    refute_digest (item v "authority_attestation_id") code "authority_attestation_id"
    ensure (item v "reason_codes" = str_list ["refute_accepted"])
      (.refute_policy code "reason_codes")
  else
    ensure (item v "authority_attestation_id" = .null &&
      (elems (item v "reason_codes")).all fun r => one_of r
        ["authority_scope_mismatch", "refute_authority_resolver_unavailable",
          "refute_requires_privileged_authority", "verified_evidence_required"])
      (.refute_policy code "reason_codes")

/-- `build_plan` of a refutation. -/
def build_refute_plan (proposal claim : Json) (attestation : Option Json) (decision : Json)
    (enforce_installed_policy : Bool) : Except Failure Json := do
  validate_refute_proposal proposal
  validate_claim claim
  validate_refute_decision H decision enforce_installed_policy
  ensure (item decision "proposal_sha256" = H.json_ident proposal &&
    item decision "authority_claim_sha256" = H.json_ident claim &&
    item decision "authority_attestation_id" = attestation_ident H attestation &&
    (decide (item decision "decision" = .str "skip") == attestation.isNone))
    (.refute_policy "invalid_refute_plan" "binding")
  let core := dict
    [("base_revision", item proposal "base_revision"),
      ("proposal_sha256", H.json_ident proposal),
      ("authority_claim_sha256", H.json_ident claim),
      ("authority_attestation_id", attestation_ident H attestation),
      ("policy_fingerprint", item decision "policy_fingerprint"),
      ("decision", item decision "decision"),
      ("decision_sha256", H.json_ident decision),
      ("target", dict [("stream", item proposal "stream"),
        ("record_sha256", item proposal "target_record_sha256")]),
      ("reason", item proposal "reason"),
      ("evidence_sha256", H.json_ident (item claim "evidence"))]
  return dict [("schema", .str "an-kla/refute-plan-v1"), ("core", core),
    ("plan_fingerprint", H.json_ident core)]

/-- `verify_plan` of a refutation. -/
def verify_refute_plan (plan proposal claim : Json) (attestation : Option Json) (decision : Json)
    (enforce_installed_policy : Bool) : Except Failure Unit := do
  let expected ← build_refute_plan H proposal claim attestation decision enforce_installed_policy
  ensure (plan = expected) (.refute_policy "invalid_refute_plan" "content")

end AnKla
