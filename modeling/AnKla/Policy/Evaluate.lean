import AnKla.Policy.Write

/-!
# Deciding and planning a write

* `evaluate_single`, `evaluate_batch`, `evaluate_write`: the decision on a proposal.
* `build_single_plan`, `build_batch_plan`, `build_write_plan`: the plan, with the
  records to write and a record of the decision.
* `verify_write_plan`: a plan is the one that would be built again.
-/

namespace AnKla

open PyJson

/-! ## Texts -/

/-- The characters that `str.casefold` turns into ASCII, apart from ASCII itself. -/
def casefold_special (c : Char) : Option (List Char) :=
  match c.toNat with
  | 0x17f => some ['s']
  | 0x212a => some ['k']
  | 0xdf | 0x1e9e => some ['s', 's']
  | 0xfb00 => some ['f', 'f']
  | 0xfb01 => some ['f', 'i']
  | 0xfb02 => some ['f', 'l']
  | 0xfb03 => some ['f', 'f', 'i']
  | 0xfb04 => some ['f', 'f', 'l']
  | 0xfb05 | 0xfb06 => some ['s', 't']
  | _ => none

/-- `str.casefold`, of a text that folds to ASCII. -/
def casefold_ascii (s : String) : Option String :=
  (s.toList.mapM fun c =>
    if c.toNat < 128 then some [c.toLower] else casefold_special c).map fun parts =>
      String.ofList parts.flatten

/-- `str.isspace` of one character. -/
def is_space (c : Char) : Bool :=
  let n := c.toNat
  (9 ≤ n && n ≤ 13) || (0x1c ≤ n && n ≤ 0x20) || n = 0x85 || n = 0xa0 || n = 0x1680 ||
    (0x2000 ≤ n && n ≤ 0x200a) || n = 0x2028 || n = 0x2029 || n = 0x202f || n = 0x205f ||
    n = 0x3000

/-- `str.strip()`. -/
def strip (s : String) : String :=
  String.ofList ((s.toList.dropWhile is_space).reverse.dropWhile is_space).reverse

/-- The stripped text of a field, unless it is blank. -/
def text_field (container : Json) (field : String) : Option String :=
  match item container field with
  | .str s => if strip s = "" then none else some (strip s)
  | _ => none

/-- `record_text(record)`. -/
def record_text (record : Json) : String :=
  let payload := item record "payload"
  let containers := if payload.isObj then [payload, record] else [record]
  let found := ["indexable_text", "text", "render", "summary", "p"].findSome? fun field =>
    containers.findSome? fun container => text_field container field
  match found, payload with
  | some s, _ => s
  | none, .str s => strip s
  | none, _ => ""

mutual

/-- `_contains_self_asserted_authority`. -/
def contains_self_asserted_authority : Json → Bool
  | .arr xs => self_asserted_in_list xs
  | .obj kvs => self_asserted_in_items kvs
  | _ => false

def self_asserted_in_list : List Json → Bool
  | [] => false
  | x :: xs => contains_self_asserted_authority x || self_asserted_in_list xs

def self_asserted_in_items : List (String × Json) → Bool
  | [] => false
  | (k, x) :: kvs =>
    (match casefold_ascii k with
      | some folded => self_asserted_authority_keys.contains folded
      | none => false) || contains_self_asserted_authority x || self_asserted_in_items kvs

end

variable (H : Crypto)

/-! ## Decisions -/

/-- A decision object. -/
def decision_object (proposal_sha256 authority_sha256 : Json) (decision : String)
    (reasons : List String) : Json := dict
  [("schema", .str "an-kla/write-decision-v1"),
    ("proposal_sha256", proposal_sha256),
    ("authority_sha256", authority_sha256),
    ("policy_profile", .str write_policy_profile),
    ("policy_fingerprint", write_policy_fingerprint H),
    ("decision", .str decision),
    ("reason_codes", str_list (sorted_set reasons))]

/-- The decision and its reasons, from a proposal and an authority that are well
    formed. -/
def decide_single (proposal authority : Json) : String × List String :=
  let scope := item authority "scope"
  let authority_class := item authority "authority_class"
  let operation := item proposal "operation"
  let reasons := if contains_self_asserted_authority (item proposal "record") then
    ["self_asserted_authority_ignored"] else []
  if item authority "proposal_sha256" ≠ H.json_ident proposal ∨
      item authority "base_revision" ≠ item proposal "base_revision" ∨
      item proposal "stream" ∉ elems (item scope "streams") ∨
      item proposal "requested_representation" ∉ elems (item scope "representations") ∨
      operation ∉ elems (item scope "operations") then
    ("skip", "authority_scope_mismatch" :: reasons)
  else if !one_of operation ["add", "supersede"] then
    ("skip", "operation_not_supported" :: reasons)
  else
    let reasons := if item (item proposal "lineage") "derived_from_retrieval" = .bool true then
      "derived_from_retrieval" :: reasons else reasons
    if authority_class = .str "unresolved" then ("skip", "unresolved_authority" :: reasons)
    else
      let derived := authority_class ≠ .str "tool_observed"
      if authority_class = .str "tool_observed" ∧ ¬(elems (item authority "evidence")).any
          (fun e => item e "resolution" = .str "verified") then
        ("skip", "unresolved_authority" :: reasons)
      else if authority_class = .str "channel_confirmed" then
        ("skip", "channel_confirmed_requires_adapter" :: reasons)
      else
        let reasons := (if derived then "derived_authority_capped" else "tool_evidence_verified")
          :: reasons
        if derived ∧ operation = .str "supersede" ∧
            authority_class = .str "derived_from_retrieval" then
          ("skip", "supersede_requires_non_derived_authority" :: reasons)
        else if derived ∧ item proposal "requested_representation" = .str "full" then
          ("skip", "summary_required_for_authority_ceiling" :: reasons)
        else
          let decision := if item proposal "requested_representation" = .str "full"
            then "write-full" else "write-summary"
          let reasons := if record_text (item proposal "record") = "" then
            "record_without_indexable_text" :: reasons else reasons
          (decision, "representation_accepted" :: reasons)

/-- `evaluate_write`, of a proposal of one record. -/
def evaluate_single (proposal authority : Json) : Except Failure Json := do
  validate_single_proposal proposal
  validate_write_authority authority
  let (decision, reasons) := decide_single H proposal authority
  return decision_object H (H.json_ident proposal) (H.json_ident authority) decision reasons

/-! ## Batches -/

/-- `validate_batch_proposal`. -/
def validate_batch_proposal (proposal : Json) : Except Failure Unit := do
  let code := "invalid_write_proposal"
  let invalid := Failure.write_policy code
  ensure proposal.isObj (invalid "proposal:not_object")
  require_exact_keys proposal
    ["schema", "base_revision", "stream", "operation", "requested_representation", "records",
      "lineage"] ["supersedes"] code "proposal:keys"
  ensure (item proposal "schema" = .str "an-kla/write-proposal-v2") (invalid "proposal:schema")
  ensure (one_of (item proposal "stream") stream_names) (invalid "stream")
  ensure (one_of (item proposal "operation") ["add", "supersede"]) (invalid "operation")
  ensure (one_of (item proposal "requested_representation") representation_names)
    (invalid "requested_representation")
  ensure (is_digest (item proposal "base_revision")) (invalid "base_revision:not_digest")
  let records := item proposal "records"
  ensure (is_list records && elems records ≠ []) (invalid "records:not_list")
  ensure (decide ((elems records).length ≤ max_batch_records)) (invalid "records:max_batch_records")
  (elems records).zipIdx.forM fun x =>
    validate_record_fields x.1 code ("records[" ++ toString x.2 ++ "]")
  let ids := (elems records).map fun r => py_str (item r "id")
  ensure (decide ids.Nodup) (invalid "records:duplicate_id")
  if item proposal "operation" = .str "supersede" then do
    let supersedes := item proposal "supersedes"
    ensure (supersedes.isObj && supersedes.keys.all ids.contains && ids.all supersedes.keys.contains)
      (invalid "supersedes:missing_for_supersede")
    let targets := supersedes.keys.map (item supersedes)
    ensure (targets.all is_nonempty_str) (invalid "supersedes:target_invalid")
    ensure (supersedes.keys.all fun k => item supersedes k ≠ .str k)
      (invalid "supersedes:self_reference_forbidden")
    ensure (targets.all fun t => !one_of t ids) (invalid "supersedes:intra_batch_forbidden")
    ensure (decide targets.Nodup) (invalid "supersedes:duplicate_target")
  else
    ensure (!proposal.keys.contains "supersedes") (invalid "supersedes:present_without_supersede")
  let lineage := item proposal "lineage"
  ensure (exact_keys lineage ["derived_from_retrieval", "refs"]) (invalid "lineage")
  ensure (is_bool (item lineage "derived_from_retrieval"))
    (invalid "lineage.derived_from_retrieval")
  ensure (is_list (item lineage "refs")) (invalid "lineage.refs")
  validate_lineage_refs (item lineage "refs") code
  validate_json_value proposal (invalid "proposal:invalid_json")

/-- `_twin_v1`: the proposal of the first record alone. -/
def twin_v1 (proposal : Json) : Json :=
  let record := (elems (item proposal "records")).headD .null
  dict ([("schema", .str "an-kla/write-proposal-v1"),
    ("base_revision", item proposal "base_revision"),
    ("stream", item proposal "stream"),
    ("operation", item proposal "operation"),
    ("requested_representation", item proposal "requested_representation"),
    ("record", record),
    ("lineage", item proposal "lineage")] ++
    if item proposal "operation" = .str "supersede" then
      [("supersedes", item (item proposal "supersedes") (py_str (item record "id")))] else [])

/-- `_twin_authority`: the authority, bound to the twin. -/
def twin_authority (twin authority : Json) : Json :=
  authority.set "proposal_sha256" (H.json_ident twin)

/-- The texts of a list of strings. -/
def texts (v : Json) : List String := (elems v).map py_str

/-- `evaluate_batch_write`. -/
def evaluate_batch (proposal authority : Json) : Except Failure Json := do
  validate_batch_proposal proposal
  validate_write_authority authority
  let twin := twin_v1 proposal
  let twin_decision ← evaluate_single H twin (twin_authority H twin authority)
  let reasons := texts (item twin_decision "reason_codes")
  let records := elems (item proposal "records")
  if item authority "proposal_sha256" ≠ H.json_ident proposal ∨
      item authority "base_revision" ≠ item proposal "base_revision" then
    -- the digest of the authority binds the batch, not the twin
    return decision_object H (H.json_ident proposal) (H.json_ident authority) "skip"
      (reasons ++ ["authority_scope_mismatch"])
  else
    let self := if records.any contains_self_asserted_authority then
      ["self_asserted_authority_ignored"] else []
    let blank := if records.any (record_text · = "") then ["record_without_indexable_text"] else []
    return decision_object H (H.json_ident proposal) (H.json_ident authority)
      (py_str (item twin_decision "decision")) (reasons ++ self ++ blank)

/-- `proposal.get("schema") == "an-kla/write-proposal-v2"`. -/
def is_batch (proposal : Json) : Bool := item proposal "schema" = .str "an-kla/write-proposal-v2"

/-- `validate_write_proposal`. -/
def validate_write_proposal (proposal : Json) : Except Failure Unit :=
  if is_batch proposal then validate_batch_proposal proposal else validate_single_proposal proposal

/-- `evaluate_write`. -/
def evaluate_write (proposal authority : Json) : Except Failure Json :=
  if is_batch proposal then evaluate_batch H proposal authority
  else evaluate_single H proposal authority

/-! ## Plans -/

/-- `_REASON_CODE.fullmatch(item)`. -/
def is_reason_code : Json → Bool
  | .str s =>
    match s.toList with
    | c :: cs => 'a' ≤ c && c ≤ 'z' &&
        cs.all fun c => ('a' ≤ c && c ≤ 'z') || ('0' ≤ c && c ≤ '9') || c = '_'
    | [] => false
  | _ => false

/-- `validate_write_decision`. -/
def validate_write_decision (decision : Json) : Except Failure Unit := do
  let code := "invalid_write_decision"
  let invalid := Failure.write_policy code
  ensure decision.isObj (invalid "decision:not_object")
  require_exact_keys decision
    ["schema", "proposal_sha256", "authority_sha256", "policy_profile", "policy_fingerprint",
      "decision", "reason_codes"] [] code "decision:keys"
  ensure (item decision "schema" = .str "an-kla/write-decision-v1") (invalid "decision:schema")
  ensure (is_digest (item decision "proposal_sha256") &&
    is_digest (item decision "authority_sha256"))
    (invalid "proposal_sha256|authority_sha256:not_digest")
  ensure (item decision "policy_profile" = .str write_policy_profile &&
    is_digest (item decision "policy_fingerprint")) (invalid "policy_profile|policy_fingerprint")
  ensure (one_of (item decision "decision") decision_names) (invalid "decision")
  let reasons := item decision "reason_codes"
  ensure (is_list reasons && elems reasons ≠ [] && (elems reasons).all is_reason_code &&
    texts reasons = sorted_set (texts reasons)) (invalid "reason_codes")
  validate_json_value decision (invalid "decision:invalid_json")

/-- `_verified_decision`. -/
def verified_decision (proposal authority : Json) (decision : Option Json) :
    Except Failure Json := do
  let expected ← evaluate_write H proposal authority
  match decision with
  | none => return expected
  | some decision => do
    validate_write_decision decision
    ensure (item decision "policy_fingerprint" = item expected "policy_fingerprint")
      (.write_policy "write_policy_fingerprint_mismatch" "")
    ensure (item decision "proposal_sha256" = item expected "proposal_sha256" &&
      item decision "authority_sha256" = item expected "authority_sha256")
      (.write_policy "write_content_hash_mismatch" "")
    ensure (decision = expected) (.write_policy "invalid_write_decision" "")
    return decision

/-- One planned record. -/
def planned_item (proposal record : Json) (supersedes : Option Json) : Json :=
  dict ([("stream", item proposal "stream"),
    ("operation", item proposal "operation"),
    ("representation", item proposal "requested_representation"),
    ("record", record)] ++
    match supersedes with
    | some target => [("supersedes", target)]
    | none => [])

/-- The event that records the decision. -/
def policy_event (authority decision : Json) : Json := dict
  [("stream", .str "events"),
    ("operation", .str "add"),
    ("representation", .str "summary"),
    ("record", dict
      [("schema", .str "an-kla/event-v1"),
        ("id", .str ("e-write-policy-" ++
          String.ofList ((py_str (item decision "proposal_sha256")).toList.drop 7))),
        ("type", .str "write_policy_decision"),
        ("payload", dict [("authority_class", item authority "authority_class"),
          ("authority_sha256", item decision "authority_sha256"),
          ("decision", item decision "decision"),
          ("policy_fingerprint", item decision "policy_fingerprint"),
          ("policy_profile", item decision "policy_profile"),
          ("proposal_sha256", item decision "proposal_sha256"),
          ("reason_codes", item decision "reason_codes")])])]

/-- A plan, from its records. -/
def plan_object (proposal decision : Json) (records : List Json) : Json :=
  let core := dict
    [("base_revision", item proposal "base_revision"),
      ("proposal_sha256", item decision "proposal_sha256"),
      ("authority_sha256", item decision "authority_sha256"),
      ("policy_fingerprint", item decision "policy_fingerprint"),
      ("decision", item decision "decision"),
      ("decision_sha256", H.json_ident decision),
      ("planned_records_sha256", H.json_ident (.arr records))]
  dict [("schema", .str "an-kla/write-plan-v1"), ("core", core), ("records", .arr records),
    ("plan_fingerprint", H.json_ident core)]

/-- The records of the plan of one record. -/
def single_records (proposal authority decision : Json) : List Json :=
  if item decision "decision" = .str "skip" then []
  else
    let supersedes := if item proposal "operation" = .str "supersede" then
      some (item proposal "supersedes") else none
    [planned_item proposal (item proposal "record") supersedes,
      policy_event authority decision]

/-- `build_write_plan`, of a proposal of one record. -/
def build_single_plan (proposal authority : Json) (decision : Option Json) :
    Except Failure Json := do
  let checked ← verified_decision H proposal authority decision
  return plan_object H proposal checked (single_records proposal authority checked)

/-- The event of a batch: the first decision record that the plan of the twin
    holds, with the fields of the batch in its payload. -/
def batch_event (proposal decision : Json) (twin_records : List Json) : Except Failure Json :=
  let found := twin_records.find? fun x => item x "stream" = .str "events" &&
    item (item x "record") "type" = .str "write_policy_decision"
  match found with
  | none => .error (.value "stop_iteration")
  | some event =>
    let record := item event "record"
    let payload := item record "payload"
    if payload.isObj then
      let digests := (elems (item proposal "records")).map fun r => py_str (H.json_ident r)
      .ok (event.set "record" (record.set "payload"
        ((((payload.set "proposal_sha256" (item decision "proposal_sha256")).set
          "decision" (item decision "decision")).set
          "reason_codes" (item decision "reason_codes")).set
          "batch_records_sha256" (str_list (digests.insertionSort (· ≤ ·))))))
    else .error (.value "payload")

/-- The planned records of a batch, without its event. -/
def batch_items (proposal : Json) : List Json :=
  (elems (item proposal "records")).map fun record =>
    planned_item proposal record (if item proposal "operation" = .str "supersede" then
      some (item (item proposal "supersedes") (py_str (item record "id"))) else none)

/-- `build_batch_write_plan`: the decision is computed again. -/
def build_batch_plan (proposal authority : Json) : Except Failure Json := do
  let decision ← evaluate_write H proposal authority
  if item decision "decision" = .str "skip" then
    return plan_object H proposal decision []
  else
    let twin := twin_v1 proposal
    let bound := twin_authority H twin authority
    let twin_decision ← evaluate_single H twin bound
    let event ← batch_event H proposal decision (single_records twin bound twin_decision)
    return plan_object H proposal decision (batch_items proposal ++ [event])

/-- `build_write_plan`. -/
def build_write_plan (proposal authority : Json) (decision : Option Json) : Except Failure Json :=
  if is_batch proposal then build_batch_plan H proposal authority
  else build_single_plan H proposal authority decision

/-- `validate_write_plan`: one planned record. -/
def validate_planned_item (v : Json) : Except Failure Unit := do
  let code := "invalid_write_plan"
  let invalid := Failure.write_policy code
  ensure v.isObj (invalid "records[]:not_object")
  require_exact_keys v ["stream", "operation", "representation", "record"] ["supersedes"] code
    "records[]:keys"
  ensure (one_of (item v "stream") stream_names && one_of (item v "operation") operation_names)
    (invalid "records[]:stream|operation")
  ensure (one_of (item v "representation") representation_names)
    (invalid "records[]:representation")
  ensure ((item v "record").isObj && (item v "record").keys ≠ [])
    (invalid "records[].record:not_object")
  if item v "operation" = .str "supersede" then do
    ensure (is_nonempty_str (item v "supersedes"))
      (invalid "records[]:supersedes:missing_for_supersede")
    ensure (item v "supersedes" ≠ item (item v "record") "id")
      (invalid "records[]:supersedes:self_reference_forbidden")
  else
    ensure (!v.keys.contains "supersedes") (invalid "records[]:supersedes:present_without_supersede")

/-- `validate_write_plan`. -/
def validate_write_plan (plan : Json) : Except Failure Unit := do
  let code := "invalid_write_plan"
  let invalid := Failure.write_policy code
  ensure plan.isObj (invalid "plan:not_object")
  require_exact_keys plan ["schema", "core", "records", "plan_fingerprint"] [] code "plan:keys"
  ensure (item plan "schema" = .str "an-kla/write-plan-v1" && is_digest (item plan "plan_fingerprint"))
    (invalid "plan:schema|plan_fingerprint")
  let core := item plan "core"
  ensure core.isObj (invalid "core:not_object")
  require_exact_keys core
    ["base_revision", "proposal_sha256", "authority_sha256", "policy_fingerprint", "decision",
      "decision_sha256", "planned_records_sha256"] [] code "core:keys"
  ["base_revision", "proposal_sha256", "authority_sha256", "policy_fingerprint",
    "decision_sha256", "planned_records_sha256"].forM fun field =>
      ensure (is_digest (item core field)) (invalid ("core." ++ field ++ ":not_digest"))
  ensure (one_of (item core "decision") decision_names) (invalid "core.decision")
  ensure (is_list (item plan "records")) (invalid "records:not_list")
  (elems (item plan "records")).forM validate_planned_item
  validate_json_value plan (invalid "plan:invalid_json")

/-- The body of `verify_write_plan`. -/
def check_write_plan (plan proposal authority : Json) (decision : Option Json) :
    Except Failure Unit := do
  validate_write_plan plan
  let checked ← verified_decision H proposal authority decision
  ensure (item plan "plan_fingerprint" = H.json_ident (item plan "core"))
    (.write_policy "write_plan_hash_mismatch" "")
  ensure (item (item plan "core") "planned_records_sha256" = H.json_ident (item plan "records"))
    (.write_policy "write_content_hash_mismatch" "")
  let expected ← build_write_plan H proposal authority (some checked)
  ensure (plan = expected) (.write_policy "write_plan_hash_mismatch" "")

/-- `verify_write_plan`: any other error is an invalid plan. -/
def verify_write_plan (plan proposal authority : Json) (decision : Option Json) :
    Except Failure Unit :=
  (check_write_plan H plan proposal authority decision).mapError fun
    | .value _ => .write_policy "invalid_write_plan" ""
    | e => e

end AnKla
