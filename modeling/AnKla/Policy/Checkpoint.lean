import AnKla.Policy.Formats

/-!
# Checkpoint policy

* `validate_working_state`: the closed format of a working state.
* `validate_checkpoint_proposal`, `validate_checkpoint_authority`: what a plan binds.
* `evaluate_checkpoint`, `build_checkpoint_plan`, `verify_checkpoint_plan`. Objects
  are compared by their canonical text.
-/

namespace AnKla

open PyJson

/-! ## Fields -/

/-- `FIELDS`. -/
def checkpoint_fields : List String :=
  ["objective", "phase", "next_step", "decisions", "blockers", "evidence", "source_state",
    "captured_at"]

/-- `PROVENANCE`, sorted. -/
def provenances : List String := ["caller_asserted", "unavailable"]

/-- `_CONFIG`. -/
def checkpoint_policy_config : Json := dict
  [("schema", .str "an-kla/checkpoint-policy-config-v1"),
    ("profile", .str "checkpoint-policy/v1"),
    ("fields", str_list checkpoint_fields),
    ("accepted_provenance", str_list provenances),
    ("source_profiles", str_list ["none/v1", "git/v1"]),
    ("maximum_items_per_list", .int 50),
    ("maximum_item_bytes", .int 8192),
    ("maximum_working_state_bytes", .int 65536),
    ("tool_observed_adapter", .bool false),
    ("channel_confirmed_adapter", .bool false)]

/-- `len(canonical_json(value))`: the bytes of a canonical text. -/
def canonical_length (v : Json) : ℕ := ((dumps v).map fun c => c.utf8Size).sum

/-- A key as an error may name it. -/
def key_name (k : String) : String :=
  if k ≠ "" ∧ k.length ≤ 64 ∧ k.toList.all fun c => ('A' ≤ c && c ≤ 'Z') || ('a' ≤ c && c ≤ 'z') ||
      ('0' ≤ c && c ≤ '9') || c = '_' || c = '.' || c = '-' then k
  else "[unnamed]"

/-- `_cap(detail)`. -/
def cap_detail (detail : String) : String := String.ofList (detail.toList.take 256)

/-- `_key_detail(path, value, keys)`. -/
def key_detail (path : String) (v : Json) (keys : List String) : String :=
  let missing := sorted_set (keys.filter fun k => !v.keys.contains k)
  let extra := sorted_set ((v.keys.filter fun k => !keys.contains k).map key_name)
  let part (label : String) (names : List String) : List String :=
    if names = [] then [] else [label ++ "=" ++ String.intercalate "," names]
  cap_detail (path ++ ":keys:" ++
    String.intercalate ";" (part "missing" missing ++ part "extra" extra))

/-- `_exact(value, keys, code, path)`. -/
def checkpoint_exact (v : Json) (keys : List String) (code path : String) :
    Except Failure Unit := do
  ensure v.isObj (.checkpoint_policy code (path ++ ":not_object"))
  ensure (exact_keys v keys) (.checkpoint_policy code (key_detail path v keys))

def invalid_working_state (detail : String) : Failure :=
  .checkpoint_policy "invalid_working_state" detail

/-- The provenance of a value, which a caller may assert or leave out. -/
def validate_provenance (v : Json) (path : String) : Except Failure Unit := do
  ensure (v ≠ .str "tool_observed")
    (.checkpoint_policy "tool_observed_requires_adapter" (path ++ ".provenance"))
  ensure (one_of v provenances)
    (.checkpoint_policy "invalid_checkpoint_provenance" (path ++ ".provenance"))

/-- A timestamp in its canonical text. -/
def validate_timestamp (text : String) (path : String) : Except Failure Unit :=
  match parse_verified_at text with
  | .error _ => .error (invalid_working_state (path ++ ".value:not_timestamp"))
  | .ok t => ensure (format_utc t = text) (invalid_working_state (path ++ ".value:not_canonical_utc"))

/-- `_field(value, timestamp, path)`. -/
def validate_field (v : Json) (timestamp : Bool) (path : String) : Except Failure Unit := do
  checkpoint_exact v ["value", "provenance"] "invalid_working_state" path
  validate_provenance (item v "provenance") path
  if item v "provenance" = .str "unavailable" then
    ensure (item v "value" = .null)
      (.checkpoint_policy "invalid_checkpoint_provenance" (path ++ ".value"))
  else match item v "value" with
    | .null => .ok ()
    | .str text => if timestamp then validate_timestamp text path else .ok ()
    | _ => .error (invalid_working_state (path ++ ".value:not_string"))

/-- One item of a list of a working state. -/
def validate_item (v : Json) (path : String) : Except Failure Unit := do
  checkpoint_exact v ["id", "value", "provenance"] "invalid_working_state" (path ++ "[]")
  ensure (is_nonempty_str (item v "id")) (invalid_working_state (path ++ "[].id"))
  validate_provenance (item v "provenance") (path ++ "[]")
  ensure (item v "provenance" ≠ .str "unavailable" || item v "value" = .null)
    (.checkpoint_policy "invalid_checkpoint_provenance" (path ++ "[].value"))
  ensure ((item v "value").intsFit) (invalid_working_state (path ++ "[].value:not_canonical_json"))
  ensure (decide (canonical_length (item v "value") ≤ 8192))
    (invalid_working_state (path ++ "[].value:too_large"))

/-- `_items(value, path)`. -/
def validate_items (v : Json) (path : String) : Except Failure Unit := do
  ensure (is_list v) (invalid_working_state (path ++ ":not_list"))
  ensure (decide ((elems v).length ≤ 50)) (invalid_working_state (path ++ ":too_many_items"))
  (elems v).forM fun x => validate_item x path
  ensure (decide ((elems v).map (item · "id")).Nodup)
    (invalid_working_state (path ++ "[].id:duplicate"))

/-- `GIT_OBJECT_ID.fullmatch(raw)`. -/
def is_object_id : Json → Bool
  | .str s => (s.length = 40 || s.length = 64) && s.toList.all is_lower_hex
  | _ => false

/-- `_git_source_field(value, object_id, path)`. -/
def validate_git_field (v : Json) (object_id : Bool) (path : String) : Except Failure Unit := do
  checkpoint_exact v ["value", "provenance"] "invalid_working_state" path
  ensure (item v "provenance" ≠ .str "tool_observed")
    (.checkpoint_policy "tool_observed_requires_adapter" (path ++ ".provenance"))
  ensure (item v "provenance" = .str "caller_asserted")
    (.checkpoint_policy "invalid_checkpoint_provenance" (path ++ ".provenance"))
  if object_id then
    ensure (is_object_id (item v "value")) (invalid_working_state (path ++ ".value:not_object_id"))
  else
    ensure (item v "value" = .null || is_str (item v "value"))
      (invalid_working_state (path ++ ".value:not_string"))

/-- A field of a source that is not observed. -/
def unavailable : Json := dict [("value", .null), ("provenance", .str "unavailable")]

/-- `source_state` of a working state. -/
def validate_source (v : Json) : Except Failure Unit := do
  checkpoint_exact v ["profile", "head", "branch", "dirty_digest"] "invalid_working_state"
    "source_state"
  if item v "profile" = .str "none/v1" then
    ["head", "branch", "dirty_digest"].forM fun name => do
      validate_field (item v name) false ("source_state." ++ name)
      ensure (item v name = unavailable) (.checkpoint_policy "invalid_checkpoint_provenance"
        ("source_state." ++ name ++ ":not_unavailable"))
  else if item v "profile" = .str "git/v1" then do
    validate_git_field (item v "head") true "source_state.head"
    validate_git_field (item v "branch") false "source_state.branch"
    validate_git_field (item v "dirty_digest") false "source_state.dirty_digest"
  else .error (invalid_working_state "source_state.profile:unknown")

/-- `validate_working_state(value)`. -/
def validate_working_state (state : Json) : Except Failure Unit := do
  checkpoint_exact state
    ["schema", "objective", "phase", "next_step", "decisions", "blockers", "evidence",
      "source_state", "captured_at", "supersedes_checkpoint"] "invalid_working_state"
    "working_state"
  ensure (item state "schema" = .str "an-kla/working-state-v2")
    (invalid_working_state "working_state.schema")
  ["objective", "phase", "next_step"].forM fun name => validate_field (item state name) false name
  ["decisions", "blockers", "evidence"].forM fun name => validate_items (item state name) name
  validate_source (item state "source_state")
  validate_field (item state "captured_at") true "captured_at"
  ensure (is_digest (item state "supersedes_checkpoint"))
    (invalid_working_state "supersedes_checkpoint:not_digest")
  ensure (state.intsFit && decide state.Wf)
    (invalid_working_state "working_state:not_canonical_json")
  ensure (decide (canonical_length state ≤ 65536)) (invalid_working_state "working_state:too_large")

/-- `validate_proposal` of a checkpoint. -/
def validate_checkpoint_proposal (proposal : Json) : Except Failure Unit := do
  checkpoint_exact proposal ["schema", "base_revision", "parent_checkpoint", "working_state"]
    "invalid_working_state" "proposal"
  ensure (item proposal "schema" = .str "an-kla/checkpoint-proposal-v1")
    (invalid_working_state "proposal.schema")
  ensure (is_digest (item proposal "base_revision"))
    (invalid_working_state "base_revision:not_digest")
  ensure (is_digest (item proposal "parent_checkpoint"))
    (invalid_working_state "parent_checkpoint:not_digest")
  validate_working_state (item proposal "working_state")
  ensure (item (item proposal "working_state") "supersedes_checkpoint" =
    item proposal "parent_checkpoint")
    (.checkpoint_policy "checkpoint_parent_mismatch" "supersedes_checkpoint:not_current")

/-! ## Authority -/

def invalid_checkpoint_authority (detail : String) : Failure :=
  .checkpoint_policy "invalid_checkpoint_authority" detail

/-- `_validate_evidence` of a checkpoint authority. -/
def validate_checkpoint_evidence (v : Json) : Except Failure Unit := do
  let path := "evidence[]"
  ensure v.isObj (invalid_checkpoint_authority (path ++ ":not_object"))
  let missing := sorted_set (["kind", "id", "resolution"].filter fun k => !v.keys.contains k)
  ensure (missing = []) (invalid_checkpoint_authority
    (cap_detail (path ++ ":keys:missing=" ++ String.intercalate "," missing)))
  let extra := sorted_set ((v.keys.filter fun k =>
    !(["kind", "id", "resolution", "sha256"].contains k)).map key_name)
  ensure (extra = []) (invalid_checkpoint_authority
    (cap_detail (path ++ ":keys:extra=" ++ String.intercalate "," extra)))
  ensure (one_of (item v "kind") ["artifact", "event", "revision", "external"])
    (invalid_checkpoint_authority (path ++ ".kind"))
  ensure (is_nonempty_str (item v "id")) (invalid_checkpoint_authority (path ++ ".id"))
  ensure (one_of (item v "resolution") ["verified", "unresolved", "invalid"])
    (invalid_checkpoint_authority (path ++ ".resolution"))
  ensure (item v "resolution" ≠ .str "verified" || v.keys.contains "sha256")
    (invalid_checkpoint_authority (path ++ ".sha256:required_for_verified"))
  ensure (!v.keys.contains "sha256" || is_digest (item v "sha256"))
    (invalid_checkpoint_authority (path ++ ".sha256:not_digest"))

/-- The issuer that a class of authority has. -/
def checkpoint_issuer_kind (authority_class : Json) : Option String :=
  match authority_class with
  | .str "model_derived" => some "model"
  | .str "unresolved" => some "unknown"
  | _ => none

/-- `scope` of a checkpoint authority. -/
def validate_checkpoint_scope (scope : Json) : Except Failure Unit := do
  checkpoint_exact scope ["operation", "fields"] "invalid_checkpoint_authority" "scope"
  ensure (item scope "operation" = .str "checkpoint")
    (invalid_checkpoint_authority "scope.operation")
  let fields := item scope "fields"
  ensure (is_list fields) (invalid_checkpoint_authority "scope.fields:not_list")
  ensure ((elems fields).all is_str) (invalid_checkpoint_authority "scope.fields:not_string")
  ensure (elems fields ≠ []) (invalid_checkpoint_authority "scope.fields:empty")
  let names := (elems fields).map py_str
  ensure (decide (names.Pairwise (· ≤ ·))) (invalid_checkpoint_authority "scope.fields:order")
  ensure (decide names.Nodup) (invalid_checkpoint_authority "scope.fields:duplicate")
  ensure (names.all checkpoint_fields.contains)
    (invalid_checkpoint_authority "scope.fields:unknown")

/-- `validate_authority` of a checkpoint. -/
def validate_checkpoint_authority (authority : Json) : Except Failure Unit := do
  let code := "invalid_checkpoint_authority"
  let invalid := invalid_checkpoint_authority
  checkpoint_exact authority
    ["schema", "proposal_sha256", "base_revision", "authority_class", "issuer", "evidence",
      "scope"] code "authority"
  ensure (item authority "schema" = .str "an-kla/checkpoint-authority-v1")
    (invalid "authority.schema")
  ensure (is_digest (item authority "proposal_sha256")) (invalid "proposal_sha256:not_digest")
  ensure (is_digest (item authority "base_revision")) (invalid "base_revision:not_digest")
  let authority_class := item authority "authority_class"
  ensure (authority_class ≠ .str "tool_observed")
    (.checkpoint_policy "tool_observed_requires_adapter" "authority_class")
  ensure (authority_class ≠ .str "channel_confirmed")
    (.checkpoint_policy "channel_confirmed_requires_adapter" "authority_class")
  let kind ← match checkpoint_issuer_kind authority_class with
    | some kind => pure kind
    | none => .error (invalid "authority_class:unknown")
  let issuer := item authority "issuer"
  checkpoint_exact issuer ["kind", "id", "configuration_fingerprint"] code "issuer"
  ensure (item issuer "kind" = .str kind) (invalid "issuer.kind:authority_class_mismatch")
  ensure (is_nonempty_str (item issuer "id")) (invalid "issuer.id")
  ensure (is_digest (item issuer "configuration_fingerprint"))
    (invalid "issuer.configuration_fingerprint:not_digest")
  ensure (is_list (item authority "evidence")) (invalid "evidence:not_list")
  (elems (item authority "evidence")).forM validate_checkpoint_evidence
  validate_checkpoint_scope (item authority "scope")

/-! ## Decisions and plans -/

variable (H : Crypto)

/-- `policy_fingerprint()` of the checkpoint policy. -/
def checkpoint_policy_fingerprint : Json := H.json_ident checkpoint_policy_config

/-- `evaluate` of a checkpoint. -/
def evaluate_checkpoint (proposal authority : Json) : Except Failure Json := do
  validate_checkpoint_proposal proposal
  validate_checkpoint_authority authority
  let fields := (elems (item (item authority "scope") "fields")).map py_str
  let binding := if item authority "proposal_sha256" ≠ H.json_ident proposal ∨
      item authority "base_revision" ≠ item proposal "base_revision" then
    ["authority_binding_mismatch"] else []
  let scope := if checkpoint_fields.all fields.contains then [] else ["authority_scope_mismatch"]
  let unresolved := if item authority "authority_class" = .str "unresolved" then
    ["unresolved_authority"] else []
  let reasons := binding ++ scope ++ unresolved
  return dict
    [("schema", .str "an-kla/checkpoint-decision-v1"),
      ("proposal_sha256", H.json_ident proposal),
      ("authority_sha256", H.json_ident authority),
      ("decision", .str (if reasons = [] then "write" else "skip")),
      ("reasons", str_list (sorted_set reasons))]

/-- The decision that the checkpoint is there already. -/
def unchanged_decision (decision : Json) : Json :=
  (decision.set "decision" (.str "skip")).set "reasons" (str_list ["checkpoint_unchanged"])

/-- The checkpoint of a working state. -/
def checkpoint_object (working_state : Json) (revision : ℕ) : Json := dict
  [("schema", .str "an-kla/checkpoint-v2"), ("revision", .int revision),
    ("working_state", working_state)]

/-- `build_plan` of a checkpoint. -/
def build_checkpoint_plan (proposal authority decision : Json) (revision : ℕ) :
    Except Failure Json := do
  let expected ← evaluate_checkpoint H proposal authority
  ensure (decision = expected || item expected "decision" = .str "write" &&
    decision = unchanged_decision expected)
    (.checkpoint_policy "invalid_checkpoint_plan" "decision:mismatch")
  ensure (decide (1 ≤ revision)) (.checkpoint_policy "invalid_checkpoint_plan" "revision")
  let checkpoint := checkpoint_object (item proposal "working_state") revision
  let core := dict
    [("base_revision", item proposal "base_revision"),
      ("parent_checkpoint", item proposal "parent_checkpoint"),
      ("proposal_sha256", H.json_ident proposal),
      ("authority_sha256", H.json_ident authority),
      ("policy_fingerprint", checkpoint_policy_fingerprint H),
      ("decision_sha256", H.json_ident decision),
      ("checkpoint_sha256", H.json_ident checkpoint)]
  return dict
    [("schema", .str "an-kla/checkpoint-plan-v1"),
      ("core", core),
      ("checkpoint", checkpoint),
      ("plan_fingerprint", H.json_ident core)]

/-- `verify_plan` of a checkpoint. -/
def verify_checkpoint_plan (plan proposal authority decision : Json) (revision : ℕ) :
    Except Failure Unit := do
  let expected ← build_checkpoint_plan H proposal authority decision revision
  ensure (plan = expected) (.checkpoint_policy "invalid_checkpoint_plan" "plan:mismatch")

end AnKla
