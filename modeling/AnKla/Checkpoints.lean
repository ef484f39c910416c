import AnKla.Transactions.Commit

/-!
# Committing a checkpoint

* `plan_checkpoint`: the planning result of a working state on CURRENT.
* `CheckpointCall.prepare`: the checks before the lock.
* `commit_checkpoint`.
-/

namespace AnKla

open PyJson Durable

variable (H : Crypto)

/-! ## Planning -/

/-- The proposal of a working state on a revision with a checkpoint. -/
def checkpoint_proposal (base_revision parent_checkpoint : Digest) (working_state : Json) : Json :=
  dict
    [("schema", .str "an-kla/checkpoint-proposal-v1"),
      ("base_revision", .str (ident base_revision)),
      ("parent_checkpoint", .str (ident parent_checkpoint)),
      ("working_state", working_state)]

/-- The revision holds a checkpoint of the second version, with the working state. -/
def holds_working_state (base : Snapshot) (working_state : Json) : Bool :=
  item base.checkpoint "schema" = .str "an-kla/checkpoint-v2" &&
    item base.checkpoint "working_state" = working_state

/-- `plan_checkpoint(store, working_state, authority)`. -/
def plan_checkpoint (working_state authority : Json) (d : Disk) : Except Failure Json := do
  validate_working_state working_state
  let observed ← read_current d
  let base ← snapshot H d observed
  let proposal := checkpoint_proposal observed base.manifest.checkpoint working_state
  let evaluated ← evaluate_checkpoint H proposal authority
  let decision := if holds_working_state base working_state &&
    item evaluated "decision" = .str "write" then unchanged_decision evaluated else evaluated
  let plan ← build_checkpoint_plan H proposal authority decision (base.manifest.revision + 1)
  return dict
    [("schema", .str "an-kla/checkpoint-planning-result-v1"),
      ("current_revision", .str (ident observed)),
      ("proposal", proposal),
      ("authority", authority),
      ("decision", decision),
      ("plan", plan)]

/-! ## Committing -/

/-- A base that is no longer CURRENT is committed on only by a replay. -/
def check_replay (attempt : Option Attempt) (d : Disk) : Except Failure Unit := do
  let changed := Failure.checkpoint_policy "checkpoint_plan_base_changed"
  match attempt with
  | none => .error (changed "current:advanced")
  | some a => do
    let inspected ← store_inspect_transaction H d a.transaction_id
    ensure (inspected.any (·.committed = some true))
      (changed "current:advanced_uncommitted_transaction")

/-- The arguments of `commit_checkpoint`. -/
structure CheckpointCall where
  planning_result : Json
  expected_current : Digest
  transaction_id : Option Uuid

/-- `checkpoint-commit-result-v1`. -/
structure CheckpointResult where
  committed : Bool
  revision : Digest
  checkpoint : Digest
  plan_fingerprint : Json
  outcome : Option Outcome

namespace CheckpointCall

variable (k : CheckpointCall)

def proposal : Json := item k.planning_result "proposal"
def authority : Json := item k.planning_result "authority"
def decision : Json := item k.planning_result "decision"
def plan : Json := item k.planning_result "plan"

/-- `_planning(value, expected)`. -/
def planning : Except Failure Unit := do
  let invalid := Failure.checkpoint_policy "invalid_checkpoint_plan"
  ensure (exact_keys k.planning_result
    ["schema", "current_revision", "proposal", "authority", "decision", "plan"])
    (invalid "planning:keys")
  ensure (item k.planning_result "schema" = .str "an-kla/checkpoint-planning-result-v1")
    (invalid "planning.schema")
  ensure (item k.planning_result "current_revision" = .str (ident k.expected_current))
    (invalid "planning.current_revision")
  ensure (k.proposal.isObj && k.authority.isObj && k.decision.isObj && k.plan.isObj)
    (.value "planning")

/-- The decision is to write. -/
def writes : Bool := item k.decision "decision" = .str "write"

/-- `begin_transaction("checkpoint", ...)`, for a decision to write. -/
def attempt : Except Failure (Option Attempt) :=
  if k.writes then
    match k.transaction_id, digest_of (item k.plan "plan_fingerprint") with
    | some txid, some fingerprint =>
      .ok (some (begin_transaction .checkpoint txid k.expected_current fingerprint))
    | _, _ => .error (.value "invalid_content_identifier")
  else .ok none

/-- The checkpoint of the base is the one the plan was made on. -/
def check_parent (base : Snapshot) : Except Failure Unit := do
  let mismatch := Failure.checkpoint_policy "checkpoint_parent_mismatch"
  let parent := Json.str (ident base.manifest.checkpoint)
  ensure (item k.proposal "base_revision" = .str (ident k.expected_current))
    (mismatch "base_revision:not_current")
  ensure (item k.proposal "parent_checkpoint" = parent) (mismatch "parent_checkpoint:not_current")
  ensure (item (item k.proposal "working_state") "supersedes_checkpoint" = parent)
    (mismatch "supersedes_checkpoint:not_current")

/-- The base has the checkpoint already. -/
def unchanged (base : Snapshot) : Bool :=
  item base.checkpoint "schema" = .str "an-kla/checkpoint-v2" &&
    item base.checkpoint "working_state" = item k.proposal "working_state"

/-- The part of `commit_checkpoint` before the lock. -/
def prepare (d : Disk) : Except Failure (Binding × Snapshot × Option Attempt) := do
  k.planning
  ensure (!k.writes || k.transaction_id.isSome)
    (.checkpoint_policy "checkpoint_transaction_id_required" "transaction_id")
  let binding ← mutation_preflight H d
  let base ← snapshot H d k.expected_current
  k.check_parent base
  verify_checkpoint_plan H k.plan k.proposal k.authority k.decision (base.manifest.revision + 1)
  ensure (item k.decision "reasons" ≠ str_list ["checkpoint_unchanged"] || k.unchanged base)
    (.checkpoint_policy "invalid_checkpoint_plan" "decision:checkpoint_unchanged")
  let attempt ← k.attempt
  return (binding, base, attempt)

/-- What the plan asks of `commit_locked`. -/
def request (attempt : Attempt) (store_identity : Digest) : CommitRequest where
  observed := k.expected_current
  checkpoint_patch := item k.plan "checkpoint"
  pending := no_pending
  attempt := attempt
  policy_metadata := none
  supersedes := []
  refute_objects := none
  store_identity := store_identity

/-- The part under the lock, before `commit_locked`. -/
def lock (binding : Binding) (attempt : Option Attempt) (d : Disk) :
    Except Failure (Option CommitRequest) := do
  let observed ← read_current d
  let store_identity ← assert_unchanged H d binding k.expected_current
  if observed ≠ k.expected_current then check_replay H attempt d else pure ()
  return attempt.map fun a => k.request a store_identity

/-- The result of a commit, whose revision is read back. -/
def result (base : Snapshot) (r : Digest × Outcome) (d : Disk) : Except Failure CheckpointResult := do
  let committed := r.2.committed = some true
  let checkpoint ← if committed then (·.manifest.checkpoint) <$> snapshot H d r.1
    else pure base.manifest.checkpoint
  return ⟨committed, r.1, checkpoint, item k.plan "plan_fingerprint", some r.2⟩

/-- The result of a decision to skip. -/
def skipped (base : Snapshot) : CheckpointResult :=
  ⟨false, k.expected_current, base.manifest.checkpoint, item k.plan "plan_fingerprint", none⟩

end CheckpointCall

/-- `commit_checkpoint(store, planning_result, expected_current)`. -/
def commit_checkpoint (k : CheckpointCall) (incident : Option Incident) (d : Disk) :
    Disk × Reply CheckpointResult :=
  match k.prepare H d with
  | .error e => (d, .raised e)
  | .ok (binding, base, attempt) =>
    match k.lock H binding attempt d with
    | .error e => (d, .raised e)
    | .ok none => (d, .returned (k.skipped base))
    | .ok (some c) =>
      match commit_locked H c incident d with
      | (d', .died) => (d', .died)
      | (d', .raised e) => (d', .raised e)
      | (d', .returned r) => (d', .ofExcept (k.result H base r d'))

end AnKla
