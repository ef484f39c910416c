import AnKla.Attest
import AnKla.Policy.Evaluate
import AnKla.Policy.Formats
import AnKla.Transactions.Commit

/-!
# Committing a write plan

* `enforce_for_commit`: the receipt is verified again and spent.
* `resolve_supersede_targets`, `check_subject_ref_binding`: the plan, against the
  store.
* `write_request`: what a plan asks of `commit_locked`.
* `commit_write_plan`.
-/

namespace AnKla

open PyJson Durable

variable (H : Crypto)

/-! ## Calls -/

/-- The arguments of `commit_write_plan`, and what the host adds to them. -/
structure WriteCall where
  expected_current_hash : Digest
  plan : Json
  proposal : Json
  authority : Json
  decision : Json
  transaction_id : Option Uuid
  /-- `uuid.uuid4()`, for a call without an id. -/
  fresh_id : Uuid
  /-- `_utc_now()`. -/
  now : String

/-- `write-commit-result-v1`. -/
structure WriteResult where
  committed : Bool
  revision : Digest
  decision : Json
  reason_codes : Json
  plan_fingerprint : Json
  outcome : Option Outcome
  replayed : Bool

namespace WriteCall

variable (w : WriteCall)

def base_changed : Failure := .write_policy "write_plan_base_changed" ""

/-- The decision is to write nothing. -/
def skips : Bool := item w.decision "decision" = .str "skip"

/-- The commit has to spend a receipt. -/
def attests : Bool := !w.skips && item w.authority "authority_class" = .str "tool_observed"

/-- The id of the transaction. -/
def txid : Uuid := w.transaction_id.getD w.fresh_id

/-- `begin_transaction("write", ...)`. -/
def attempt : Except Failure Attempt :=
  match w.plan.get? "plan_fingerprint" with
  | none => .error (.transaction "invalid_transaction_binding")
  | some v =>
    match digest_of v with
    | none => .error (.value "invalid_content_identifier")
    | some d => .ok (begin_transaction .write w.txid w.expected_current_hash d)

/-- The planned records of a stream. -/
def records (stream : Stream) : List Json :=
  ((elems (item w.plan "records")).filter fun x => item x "stream" = .str stream.name).map
    (item · "record")

/-- `pending`. -/
def pending : PerStream (List Json) := .ofFn w.records

/-- `policy_metadata`. -/
def metadata : Json := dict
  [("schema", .str "an-kla/write-policy-transaction-v1"),
    ("plan_fingerprint", item w.plan "plan_fingerprint"),
    ("proposal_sha256", item w.decision "proposal_sha256"),
    ("authority_sha256", item w.decision "authority_sha256"),
    ("policy_fingerprint", item w.decision "policy_fingerprint"),
    ("decision", item w.decision "decision"),
    ("reason_codes", item w.decision "reason_codes")]

/-- The checks of the plan itself, under the lock. -/
def check (binding : Binding) (d : Disk) : Except Failure Digest := do
  let store_identity ← assert_unchanged H d binding w.expected_current_hash
  verify_write_plan H w.plan w.proposal w.authority (some w.decision)
  let base := Json.str (ident w.expected_current_hash)
  ensure (item w.proposal "base_revision" = base && item w.authority "base_revision" = base &&
    item (item w.plan "core") "base_revision" = base) base_changed
  return store_identity

end WriteCall

/-! ## The receipt -/

/-- `enforce_for_commit(store, authority)`, where the authority needs it. -/
def enforce_for_commit (w : WriteCall) (incident : Option Incident) (d : Disk) :
    Disk × Reply (Option Incident) :=
  if w.attests then
    match verify_receipt_for_authority H d w.authority with
    | .error e => (d, .raised e)
    | .ok receipt =>
      let (d', progress) := perform (storage H) (consume_tombstone H w.now receipt)
        (incident.map (·.fault)) d
      (d', match progress with
        | .done => .returned (incident.map (·.after 2))
        | .stopped _ =>
          match incident.bind (·.error) with
          | some code => .raised (.storage code)
          | none => .died
        | .failed _ e => .raised e)
  else (d, .returned incident)

/-! ## Supersedes and subjects -/

/-- One planned record of `resolve_supersede_targets`. -/
def resolve_target (base : Snapshot) (planned : Json) : Except Failure SupersedeEntry :=
  let invalid := Failure.write_policy "invalid_supersede_target"
  let target_id := py_str (item planned "supersedes")
  let id := item (item planned "record") "id"
  match Stream.ofName (py_str (item planned "stream")) with
  | none => .error (.value "stream")
  | some stream => do
    ensure (item planned "supersedes" ≠ id) (invalid "self_reference")
    match (base.records.get stream).find? fun r => record_id r = target_id with
    | none => .error (invalid "target_missing")
    | some target => do
      ensure (is_active target) (invalid "target_not_vigente")
      return ⟨stream, target_id, py_str id⟩

/-- `resolve_supersede_targets(store, checked_plan, observed)`. -/
def resolve_supersede_targets (d : Disk) (plan : Json) (observed : Digest) :
    Except Failure (List SupersedeEntry) :=
  let superseding := (elems (item plan "records")).filter fun x =>
    item x "operation" = .str "supersede"
  if superseding = [] then .ok []
  else do
    let base ← snapshot H d observed
    superseding.mapM (resolve_target base)

/-- `check_subject_ref_binding(checked_plan, binding)`. -/
def check_subject_ref_binding (plan : Json) (binding : Binding) : Except Failure Unit :=
  (elems (item plan "records")).forM fun x =>
    match (item x "record").get? "subject_ref" with
    | none => .ok ()
    | some v =>
      match parse_subject_ref v with
      | none => .error (.write_policy "invalid_write_proposal" "record.subject_ref")
      | some s => ensure (s.subject_namespace = derive_namespace (binding.project_digest H))
          (.write_policy "subject_ref_namespace_mismatch" "")

/-! ## The commit -/

/-- What the plan asks of `commit_locked`. -/
def write_request (w : WriteCall) (binding : Binding) (store_identity : Digest) (d : Disk) :
    Except Failure CommitRequest := do
  let supersedes ← resolve_supersede_targets H d w.plan w.expected_current_hash
  check_subject_ref_binding H w.plan binding
  ensure ((elems (item w.plan "records")).all fun x => one_of (item x "operation") ["add", "supersede"])
    (.write_policy "invalid_write_plan" "records[]:operation:not_committable")
  let attempt ← w.attempt
  return {
    observed := w.expected_current_hash
    checkpoint_patch := dict []
    pending := w.pending
    attempt
    policy_metadata := some w.metadata
    supersedes
    refute_objects := none
    store_identity }

/-- The request of a replay, whose transaction is committed. -/
def replay_request (w : WriteCall) (binding : Binding) (observed : Digest) (d : Disk) :
    Except Failure CommitRequest := do
  ensure w.transaction_id.isSome WriteCall.base_changed
  let inspected ← store_inspect_transaction H d w.txid
  ensure (inspected.any (·.committed = some true)) WriteCall.base_changed
  let attempt ← w.attempt
  let store_identity ← assert_unchanged H d binding observed
  return {
    observed := w.expected_current_hash
    checkpoint_patch := dict []
    pending := no_pending
    attempt
    policy_metadata := none
    supersedes := []
    refute_objects := none
    store_identity }

namespace WriteCall

variable (w : WriteCall)

/-- The result of a commit, or of a replay. -/
def result (committed : Bool) (revision : Digest) (outcome : Option Outcome) (replayed : Bool) :
    WriteResult where
  committed := committed
  revision := revision
  decision := item w.decision "decision"
  reason_codes := item w.decision "reason_codes"
  plan_fingerprint := item w.plan "plan_fingerprint"
  outcome := outcome
  replayed := replayed

/-- The plan records something that no search will find. -/
def lacks_text : Bool :=
  if item w.proposal "schema" = .str "an-kla/write-proposal-v1" then
    record_text (item w.proposal "record") = ""
  else (texts (item w.decision "reason_codes")).contains "record_without_indexable_text"

/-- The outcome of a commit, with the warning that the records lack a text. -/
def warn (o : Outcome) : Outcome :=
  if o.committed = some true ∧ w.lacks_text then
    { o with warnings := sorted_set (o.warnings ++ ["record_without_indexable_text"]) }
  else o

end WriteCall

/-- `commit_write_plan`, from the store's lock on, on a base that is no longer CURRENT. -/
def commit_replay (w : WriteCall) (binding : Binding) (observed : Digest)
    (incident : Option Incident) (d : Disk) : Disk × Reply WriteResult :=
  match replay_request H w binding observed d with
  | .error e => (d, .raised e)
  | .ok c =>
    let (d', reply) := commit_locked H c incident d
    (d', reply.map fun r => w.result true r.1 (some r.2) true)

/-- `commit_write_plan`, once the receipt is spent. -/
def commit_checked (w : WriteCall) (binding : Binding) (store_identity : Digest)
    (incident : Option Incident) (d : Disk) : Disk × Reply WriteResult :=
  if w.skips then (d, .returned (w.result false w.expected_current_hash none false))
  else match write_request H w binding store_identity d with
  | .error e => (d, .raised e)
  | .ok c =>
    let (d', reply) := commit_locked H c incident d
    (d', reply.map fun r =>
      w.result (r.2.committed = some true) r.1 (some (w.warn r.2)) false)

/-- `commit_write_plan(store, ...)`. -/
def commit_write_plan (w : WriteCall) (incident : Option Incident) (d : Disk) :
    Disk × Reply WriteResult :=
  match mutation_preflight H d, read_current d with
  | .error e, _ => (d, .raised e)
  | .ok _, .error e => (d, .raised e)
  | .ok binding, .ok observed =>
    if observed ≠ w.expected_current_hash then commit_replay H w binding observed incident d
    else match w.check H binding d with
    | .error e => (d, .raised e)
    | .ok store_identity =>
      match enforce_for_commit H w incident d with
      | (d', .died) => (d', .died)
      | (d', .raised e) => (d', .raised e)
      | (d', .returned rest) => commit_checked H w binding store_identity rest d'

end AnKla
