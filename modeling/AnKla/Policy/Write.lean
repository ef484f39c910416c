import AnKla.Policy.Formats

/-!
# Write policy

What a proposal, an authority, a decision and a plan of a write must look like,
and what the policy decides. Nothing here reads the store.

* `validate_record_fields`, `validate_write_authority`, `validate_write_decision`,
  `validate_write_plan`: the closed formats. A test for membership in a set of
  texts refuses a value of another type.
* `validate_single_proposal`, `evaluate_single`, `build_single_plan`: one record.
-/

namespace AnKla

open PyJson

/-! ## Tables -/

def write_policy_profile : String := "write-policy/v1"

def stream_names : List String := ["facts", "events", "episodes"]

def operation_names : List String := ["add", "supersede", "refute", "decay"]

def representation_names : List String := ["full", "summary"]

def authority_classes : List String :=
  ["tool_observed", "channel_confirmed", "model_derived", "derived_from_retrieval", "unresolved"]

/-- `_SELF_ASSERTED_AUTHORITY_KEYS`, sorted. -/
def self_asserted_authority_keys : List String :=
  ["authority", "authority_class", "candidate_risk", "confidence", "human_confirmed", "risk",
    "trusted", "verified"]

def decision_names : List String := ["skip", "write-full", "write-summary"]

/-- `_EVIDENCE_KINDS`, by the schema of the authority. -/
def evidence_kinds (schema : Json) : Option (List String) :=
  if schema = .str "an-kla/write-authority-v1" then
    some ["artifact", "event", "external", "revision"]
  else if schema = .str "an-kla/write-authority-v2" then
    some ["artifact", "attestation_receipt", "event", "external", "revision"]
  else none

def max_batch_records : ℕ := 1000

/-- `_POLICY_CONFIGURATION`. -/
def policy_configuration : Json := dict
  [("schema", .str "an-kla/write-policy-config-v1"),
    ("profile", .str write_policy_profile),
    ("supported_operations", str_list ["add", "supersede"]),
    ("authority_schemas", str_list ["an-kla/write-authority-v1", "an-kla/write-authority-v2"]),
    ("evidence_kinds", dict
      [("an-kla/write-authority-v1", str_list ["artifact", "event", "external", "revision"]),
        ("an-kla/write-authority-v2",
          str_list ["artifact", "attestation_receipt", "event", "external", "revision"])]),
    ("attestation", dict
      [("decision", .str "ADR-0046"),
        ("receipt_schema", .str "an-kla/attest-receipt-v1"),
        ("signature", .str "hmac-sha256/local-key"),
        ("verification_points", str_list ["plan-write", "commit-write-plan"]),
        ("terminal_error_codes", str_list
          ["attest_command_not_allowed", "attest_not_initialized", "attest_timeout",
            "receipt_identity_mismatch", "receipt_invalid", "receipt_replayed",
            "receipt_whitelist_changed"])]),
    ("reason_codes", str_list
      ["authority_scope_mismatch", "channel_confirmation_resolved",
        "channel_confirmed_requires_adapter", "derived_authority_capped",
        "derived_from_retrieval", "operation_not_supported", "record_without_indexable_text",
        "representation_accepted", "self_asserted_authority_ignored",
        "summary_required_for_authority_ceiling", "supersede_requires_non_derived_authority",
        "tool_evidence_verified", "unresolved_authority"]),
    ("terminal_error_codes", str_list
      ["channel_confirmed_requires_adapter", "invalid_supersede_target",
        "invalid_write_authority", "invalid_write_decision", "invalid_write_plan",
        "invalid_write_proposal", "subject_ref_namespace_mismatch",
        "write_content_hash_mismatch", "write_plan_base_changed", "write_plan_hash_mismatch",
        "write_policy_fingerprint_mismatch"]),
    ("derived_authority", dict
      [("allowed_operations", str_list ["add", "supersede"]),
        ("maximum_representation", .str "summary")]),
    ("require_verified_tool_evidence", .bool true),
    ("channel_confirmed_adapter", .bool false),
    ("max_batch_records", .int max_batch_records),
    ("record_validators", dict
      [("subject_ref", .str "an-kla-subject-ref/v1"),
        ("verified_at", .str "an-kla-verified-at/v1")]),
    ("self_asserted_authority_keys", str_list self_asserted_authority_keys)]

variable (H : Crypto)

/-- `policy_fingerprint()` of the write policy. -/
def write_policy_fingerprint : Json := H.json_ident policy_configuration

/-! ## Fields -/

/-- `_require_exact_keys`: the error names the keys. -/
def require_exact_keys (v : Json) (required optional : List String) (code detail : String) :
    Except Failure Unit :=
  let missing := sorted_set (required.filter fun k => !v.keys.contains k)
  let extra := sorted_set (v.keys.filter fun k => !(required ++ optional).contains k)
  let part (label : String) (names : List String) : List String :=
    if names = [] then [] else [label ++ "=" ++ String.intercalate "," names]
  ensure (missing = [] && extra = [])
    (.write_policy code
      (detail ++ ":" ++ String.intercalate ";" (part "missing" missing ++ part "extra" extra)))

/-- `_validate_reference`. -/
def validate_reference (v : Json) (code detail : String) : Except Failure Unit := do
  let invalid := Failure.write_policy code detail
  ensure v.isObj invalid
  require_exact_keys v ["kind", "id"] ["sha256"] code detail
  ensure (one_of (item v "kind")
    ["artifact", "event", "fact", "episode", "revision", "external"]) invalid
  ensure (is_nonempty_str (item v "id")) invalid
  ensure (!v.keys.contains "sha256" || is_digest (item v "sha256")) invalid

/-- `validate_record_fields(record, code, prefix)`. -/
def validate_record_fields (record : Json) (code place : String) : Except Failure Unit := do
  let invalid (detail : String) := Failure.write_policy code (place ++ detail)
  ensure (record.isObj && record.keys ≠ []) (invalid ":not_object")
  ensure (is_nonempty_str (item record "id")) (invalid ".id")
  ensure (!record.keys.contains "verified_at" || is_verified_at (item record "verified_at"))
    (invalid ".verified_at")
  ["status", "nu"].forM fun field =>
    ensure (item record field = .null || is_str (item record field)) (invalid ("." ++ field))
  ensure (!record.keys.contains "subject_ref" ||
    (parse_subject_ref (item record "subject_ref")).isSome) (invalid ".subject_ref")

/-- `lineage`, of both kinds of proposal. -/
def validate_lineage_refs (refs : Json) (code : String) : Except Failure Unit :=
  (elems refs).forM fun r => validate_reference r code "lineage.refs[]:invalid"

/-- `validate_write_proposal`, of a proposal of one record. -/
def validate_single_proposal (proposal : Json) : Except Failure Unit := do
  let code := "invalid_write_proposal"
  let invalid := Failure.write_policy code
  ensure proposal.isObj (invalid "proposal:not_object")
  require_exact_keys proposal
    ["schema", "base_revision", "stream", "operation", "requested_representation", "record",
      "lineage"] ["supersedes"] code "proposal:keys"
  ensure (item proposal "schema" = .str "an-kla/write-proposal-v1") (invalid "proposal:schema")
  ensure (is_digest (item proposal "base_revision")) (invalid "base_revision:not_digest")
  ensure (one_of (item proposal "stream") stream_names) (invalid "stream")
  ensure (one_of (item proposal "operation") operation_names) (invalid "operation")
  ensure (one_of (item proposal "requested_representation") representation_names)
    (invalid "requested_representation")
  let record := item proposal "record"
  validate_record_fields record code "record"
  if item proposal "operation" = .str "supersede" then do
    let supersedes := item proposal "supersedes"
    ensure (is_nonempty_str supersedes) (invalid "supersedes:missing_for_supersede")
    ensure (supersedes ≠ item record "id") (invalid "supersedes:self_reference_forbidden")
  else
    ensure (!proposal.keys.contains "supersedes") (invalid "supersedes:present_without_supersede")
  let lineage := item proposal "lineage"
  ensure lineage.isObj (invalid "lineage:not_object")
  require_exact_keys lineage ["derived_from_retrieval", "refs"] [] code "lineage:keys"
  ensure (is_bool (item lineage "derived_from_retrieval"))
    (invalid "lineage.derived_from_retrieval:not_bool")
  ensure (is_list (item lineage "refs")) (invalid "lineage.refs:not_list")
  validate_lineage_refs (item lineage "refs") code
  validate_json_value proposal (invalid "proposal:invalid_json")

/-! ## Authority -/

/-- `_validate_evidence`. -/
def validate_evidence (v : Json) (kinds : List String) (code detail : String) :
    Except Failure Unit := do
  let invalid := Failure.write_policy code detail
  ensure v.isObj invalid
  require_exact_keys v ["kind", "id", "resolution"] ["sha256"] code detail
  ensure (one_of (item v "kind") kinds) invalid
  ensure (is_nonempty_str (item v "id")) invalid
  ensure (one_of (item v "resolution") ["verified", "unresolved", "invalid"]) invalid
  ensure (!v.keys.contains "sha256" || is_digest (item v "sha256")) invalid
  ensure (item v "resolution" ≠ .str "verified" || v.keys.contains "sha256") invalid

/-- `_validate_scope_list`. -/
def validate_scope_list (v : Json) (allowed : List String) (code detail : String) :
    Except Failure Unit := do
  let invalid := Failure.write_policy code detail
  ensure (is_list v && elems v ≠ []) invalid
  ensure ((elems v).all fun x => one_of x allowed) invalid
  ensure (decide (elems v).Nodup) invalid

/-- The issuers that a class of authority may have. -/
def allowed_issuer_kinds (authority_class : Json) : List String :=
  match authority_class with
  | .str "tool_observed" => ["tool"]
  | .str "channel_confirmed" => ["channel"]
  | .str "model_derived" => ["model"]
  | .str "derived_from_retrieval" => ["model", "resolver"]
  | .str "unresolved" => ["unknown", "resolver"]
  | _ => []

/-- `validate_write_authority`. -/
def validate_write_authority (authority : Json) : Except Failure Unit := do
  let code := "invalid_write_authority"
  let invalid := Failure.write_policy code
  ensure authority.isObj (invalid "authority:not_object")
  require_exact_keys authority
    ["schema", "proposal_sha256", "base_revision", "authority_class", "issuer", "evidence",
      "scope"] [] code "authority:keys"
  let kinds ← match evidence_kinds (item authority "schema") with
    | some kinds => pure kinds
    | none => .error (invalid "authority:schema")
  ensure (is_digest (item authority "proposal_sha256") &&
    is_digest (item authority "base_revision")) (invalid "proposal_sha256|base_revision:not_digest")
  ensure (one_of (item authority "authority_class") authority_classes) (invalid "authority_class")
  let issuer := item authority "issuer"
  ensure issuer.isObj (invalid "issuer:not_object")
  require_exact_keys issuer ["kind", "id", "configuration_fingerprint"] [] code "issuer:keys"
  ensure (one_of (item issuer "kind") ["tool", "channel", "model", "resolver", "unknown"])
    (invalid "issuer.kind")
  ensure (is_nonempty_str (item issuer "id")) (invalid "issuer.id")
  ensure (is_digest (item issuer "configuration_fingerprint"))
    (invalid "issuer.configuration_fingerprint:not_digest")
  ensure (one_of (item issuer "kind") (allowed_issuer_kinds (item authority "authority_class")))
    (invalid "issuer.kind:authority_class_mismatch")
  -- no host adapter exists yet
  ensure (item authority "authority_class" ≠ .str "channel_confirmed")
    (.write_policy "channel_confirmed_requires_adapter" "authority_class")
  let evidence := item authority "evidence"
  ensure (is_list evidence) (invalid "evidence:not_list")
  (elems evidence).forM fun e => validate_evidence e kinds code "evidence[]:invalid"
  let scope := item authority "scope"
  ensure scope.isObj (invalid "scope:not_object")
  require_exact_keys scope ["streams", "representations", "operations"] [] code "scope:keys"
  validate_scope_list (item scope "streams") stream_names code "scope.streams"
  validate_scope_list (item scope "representations") representation_names code
    "scope.representations"
  validate_scope_list (item scope "operations") operation_names code "scope.operations"
  validate_json_value authority (invalid "authority:invalid_json")

end AnKla
