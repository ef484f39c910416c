import AnKla.Compaction.Plan
import AnKla.Transactions.Commit

/-!
# Committing a compaction

The plan is built again under the lock and must be the one that was planned. Then
the root is written and CURRENT moved to it, and last the files of the delete set
are removed.

* `CompactionCall.check`: everything before the first write.
* `publish_writes`, `move_writes`: up to CURRENT, and after it.
* `cleanup_writes`: the journal, the evidence, then the deletions.
* `commit_compaction`.
-/

namespace AnKla

open PyJson Durable

variable (H : Crypto)

/-- The arguments of `commit_compaction`. The bundle, if there is one, restores to a
    proof. -/
structure CompactionCall where
  planning : PlanningResult
  expected_current : Digest
  bundle : Option (Except Failure RestoreProof)

inductive CompactionState
  | not_committed
  | committed_cleanup_incomplete
  | committed
  | outcome_unknown
  deriving DecidableEq, Repr

/-- `compaction-result-v1`. -/
structure CompactionResult where
  state : CompactionState
  committed : Option Bool
  current_after : Option Digest
  cleanup_remaining : ℕ
  outcome : Outcome

/-- `_remaining(store, delete_set)`. -/
def remaining (d : Disk) (delete_set : List ObjectTombstone) : ℕ :=
  (delete_set.filter fun t => (d.read t.path).isSome).length

namespace CompactionCall

variable (k : CompactionCall)

def txid : Uuid := k.planning.proposal.transaction_id

/-- The candidate, by its digest. -/
def candidate : Digest := k.planning.core.candidate_revision

/-- `begin_transaction("compact", ...)`. -/
def attempt : Attempt :=
  begin_transaction .compact k.txid k.expected_current k.planning.fingerprint

/-! ## Before anything is written -/

/-- The journal of the id is the one of the attempt, if there is one. -/
def check_journal (d : Disk) : Except Failure Unit :=
  match journal d k.txid with
  | none => .ok ()
  | some none => .error (.compaction "transaction_evidence_missing_or_invalid")
  | some (some j) => ensure (j.attempt = k.attempt) (.compaction "transaction_binding_conflict")

/-- The plan, built again, is the one at hand. -/
def check_plan (binding : Binding) (d : Disk) : Except Failure Snapshot := do
  let current ← read_current d
  ensure (current = k.expected_current) (.compaction "compaction_base_changed")
  ensure (k.planning.core.policy_fingerprint = compaction_policy_fingerprint H)
    (.compaction "compaction_policy_fingerprint_mismatch")
  let _ ← assert_unchanged H d binding current
  match k.bundle with
  | none => .error (.compaction "compaction_bundle_required")
  | some bundle => do
    let proof ← bundle
    ensure (proof.manifest_sha256 = k.planning.proposal.export_manifest_sha256)
      (.compaction "compaction_bundle_binding_mismatch")
    let rebuilt ← build_under_gate H d k.planning.proposal proof
    ensure (rebuilt = k.planning) (.compaction "compaction_plan_drift")
    k.check_journal d
    snapshot H d current

/-- Everything before the first write: the base, unless CURRENT has moved already. -/
def check (d : Disk) : Except Failure (Option Snapshot) := do
  validate_planning_result H k.planning
  ensure (k.expected_current = k.planning.proposal.base_revision)
    (.compaction "compaction_expected_current_mismatch")
  let binding ← read_binding H d
  let current ← read_current d
  if (candidate_relation H d (some k.candidate) (some current)).authoritative then return none
  else some <$> k.check_plan H binding d

/-! ## What is written -/

/-- The segment of a stream with active rows, which must be the planned one. -/
def segment_writes (base : Snapshot) (stream : Stream) : List (Write Path Document Failure) :=
  let rows := active_rows H base stream
  if rows = [] then []
  else [write_segment H stream rows,
    .check fun _ => ensure (k.planning.candidate_manifest.segments.get stream = [segment_id H rows])
      (.compaction "compaction_projection_changed")]

def intent : RefLog := ⟨.intent, k.txid, k.expected_current, k.candidate⟩

def intent_id : Digest := H.digest (.ref_log k.intent)

def stage : Stage :=
  ⟨some k.expected_current, k.candidate, k.attempt, some (.compaction_policy policy_config)⟩

def stage_id : Digest := H.digest (.stage k.stage)

/-- The journal from the candidate on. -/
def journal (stage : JournalStage) (candidate_receipt current_receipt observed_log : Option Digest) :
    Journal :=
  { k.stage.as_journal with
    stage, candidate_receipt, current_receipt, observed_log
    stage_object := some (k.stage_id H)
    intent_id := some (k.intent_id H) }

/-- `_candidate_protected`. -/
def candidate_files : List (Path × Digest) :=
  let m := k.planning.candidate_manifest
  [(.revision k.candidate, k.candidate),
    (.checkpoint m.checkpoint, m.checkpoint),
    (.restore_proof k.planning.core.restore_proof_sha256, k.planning.core.restore_proof_sha256),
    (.catalog k.planning.core.catalog_sha256, k.planning.core.catalog_sha256),
    (.epoch k.planning.core.epoch_manifest_sha256, k.planning.core.epoch_manifest_sha256),
    (.ref_log (k.intent_id H), k.intent_id H),
    (.stage k.txid (k.stage_id H), k.stage_id H)] ++
  STREAMS.flatMap fun s => (m.segments.get s).map fun id => (.segment s id, id)

def candidate_receipt : Receipt :=
  receipt_of H k.attempt .candidate_data_durable k.candidate none (k.candidate_files H)

def candidate_receipt_id : Digest := H.digest (.receipt (k.candidate_receipt H))

def current_receipt : Receipt :=
  current_receipt_of H k.attempt k.candidate (k.candidate_receipt_id H)

def current_receipt_id : Digest := H.digest (.receipt (k.current_receipt H))

def observed_entry : RefLog :=
  ⟨.observed_commit (k.intent_id H), k.txid, k.expected_current, k.candidate⟩

def observed_id : Digest := H.digest (.ref_log (k.observed_entry H))

/-- The objects that the candidate names, and the candidate. -/
def object_writes (base : Snapshot) : List (Write Path Document Failure) :=
  STREAMS.flatMap (k.segment_writes H base) ++
  [.create (.restore_proof (H.digest (.restore_proof k.planning.restore_proof)))
      (.restore_proof k.planning.restore_proof),
    .create (.catalog (H.digest (.catalog k.planning.catalog))) (.catalog k.planning.catalog),
    .create (.epoch (H.digest (.epoch k.planning.epoch_manifest)))
      (.epoch k.planning.epoch_manifest),
    .create (.revision (H.digest (.manifest k.planning.candidate_manifest)))
      (.manifest k.planning.candidate_manifest)]

/-- The evidence of the candidate. -/
def stage_writes : List (Write Path Document Failure) :=
  [.create (.ref_log (k.intent_id H)) (.ref_log k.intent),
    .create (.stage k.txid (k.stage_id H)) (.stage k.stage),
    .replace (.journal k.txid) (.journal (k.journal H .candidate_prepared none none none))] ++
  write_receipt H (k.candidate_receipt H) ++
  [.replace (.journal k.txid)
    (.journal (k.journal H .candidate_prepared (some (k.candidate_receipt_id H)) none none))]

/-- The move of CURRENT. -/
def move_writes : List (Write Path Document Failure) :=
  [.check fun d => do
      let current ← read_current d
      ensure (current = k.expected_current) (.compaction "compaction_base_changed"),
    .replace .current (.current k.candidate)]

/-- The committed journal. -/
def committed_journal (observed_log : Option Digest) : Journal :=
  k.journal H .committed (some (k.candidate_receipt_id H)) (some (k.current_receipt_id H))
    observed_log

/-- The evidence of the move. -/
def audit_writes : List (Write Path Document Failure) :=
  write_receipt H (k.current_receipt H) ++
  [.replace (.journal k.txid) (.journal (k.committed_journal H none)),
    .create (.ref_log (k.observed_id H)) (.ref_log (k.observed_entry H)),
    .replace (.journal k.txid) (.journal (k.committed_journal H (some (k.observed_id H))))]

/-- Everything up to the cleanup. -/
def writes (base : Snapshot) : List (Write Path Document Failure) :=
  k.object_writes H base ++ k.stage_writes H ++ k.move_writes ++ k.audit_writes H

/-! ## Cleanup -/

/-- What `_reconcile_committed_journal` makes of the journal. -/
def reconciled (j : Journal) : Journal :=
  if j.observed_log.isSome then { j with stage := .committed }
  else
    let intent := j.intent_id.getD (k.intent_id H)
    { j with
      stage := .committed
      intent_id := some intent
      observed_log := some (H.digest
        (.ref_log ⟨.observed_commit intent, k.txid, k.expected_current, k.candidate⟩)) }

/-- `_reconcile_committed_journal`. -/
def reconcile_writes (j : Journal) : List (Write Path Document Failure) :=
  let intent := j.intent_id.getD (k.intent_id H)
  let entry : RefLog := ⟨.observed_commit intent, k.txid, k.expected_current, k.candidate⟩
  (if j.observed_log.isSome then []
    else (if j.intent_id.isSome then []
      else [.create (.ref_log (k.intent_id H)) (.ref_log k.intent)]) ++
      [.create (.ref_log (H.digest (.ref_log entry))) (.ref_log entry)]) ++
  [.replace (.journal k.txid) (.journal (k.reconciled H j))]

/-- `_validate_cleanup_evidence`. -/
def validate_cleanup_evidence (j : Journal) (current : Digest) (d : Disk) : Except Failure Unit := do
  let incomplete := Failure.compaction "compaction_durability_evidence_incomplete"
  let relation := candidate_relation H d (some k.candidate) (some current)
  ensure relation.authoritative (.compaction "compaction_authority_unknown")
  match j.candidate_receipt, j.current_receipt with
  | some candidate_id, some current_id => do
    let _ ← (validate_receipt_evidence H d k.txid candidate_id k.attempt k.candidate
      .candidate_data_durable relation).mapError fun _ => incomplete
    let receipt ← (validate_receipt_evidence H d k.txid current_id k.attempt k.candidate
      .current_durable relation).mapError fun _ => incomplete
    ensure (receipt.predecessor_receipt = some candidate_id) incomplete
  | _, _ => .error incomplete

/-- `delete_exact(store, tombstone)`: the file holds what the tombstone says. -/
def delete_exact (t : ObjectTombstone) : List (Write Path Document Failure) :=
  [.check fun d => do
      ensure (t.path.object_kind = some t.kind) (.compaction "compaction_delete_path_invalid")
      ensure ((d.read t.path).all fun c => H.digest c = t.content_sha256)
        (.compaction "compaction_delete_content_changed"),
    .remove t.path]

/-- The receipt of a cleanup. -/
def cleanup_receipt : CleanupReceipt where
  transaction_id := k.txid
  candidate_revision := k.candidate
  delete_set_sha256 := k.planning.core.delete_set_sha256
  deleted_or_absent_sha256 := H.digest (.deleted_paths (k.planning.delete_set.map (·.path)))
  synced_directories := ((k.planning.delete_set.map fun t => t.path.dir).insertionSort
    (· ≤ ·)).dedup

/-- `_cleanup`. -/
def delete_writes (j : Journal) : List (Write Path Document Failure) :=
  k.planning.delete_set.flatMap (delete_exact H) ++
  [.check fun d => ensure (remaining d k.planning.delete_set = 0)
      (.compaction "compaction_cleanup_remaining"),
    .create (.receipt k.txid (H.digest (.cleanup_receipt (k.cleanup_receipt H))))
      (.cleanup_receipt (k.cleanup_receipt H)),
    .replace (.journal k.txid) (.journal
      { j with cleanup_receipt := some (H.digest (.cleanup_receipt (k.cleanup_receipt H))) })]

/-- The journal of a candidate that is committed, for its cleanup. -/
def cleanup_journal (d : Disk) (current : Digest) : Except Failure Journal := do
  let _ ← snapshot H d current
  match AnKla.journal d k.txid with
  | some (some j) => do
    ensure (j.attempt = k.attempt && j.candidate = some k.candidate)
      (.compaction "transaction_binding_conflict")
    return j
  | _ => .error (.compaction "transaction_evidence_missing_or_invalid")

/-- Everything that a cleanup writes. -/
def cleanup_writes (j : Journal) (current : Digest) : List (Write Path Document Failure) :=
  k.reconcile_writes H j ++
    .check (k.validate_cleanup_evidence H (k.reconciled H j) current) ::
    k.delete_writes H (k.reconciled H j)

/-! ## Results -/

/-- The result of a commit that came to its cleanup. -/
def committed_result (state : CompactionState) (current : Digest) (d : Disk) :
    Reply CompactionResult :=
  .ofExcept do
    let outcome ← inspect_transaction H d k.txid
    return ⟨state, some true, some current, remaining d k.planning.delete_set, outcome⟩

/-- The result of an `OSError` before the cleanup. -/
def failed_result (d : Disk) : Reply CompactionResult :=
  .ofExcept do
    let outcome ← inspect_transaction H d k.txid
    let state := match outcome.committed with
      | some true => CompactionState.committed_cleanup_incomplete
      | some false => .not_committed
      | none => .outcome_unknown
    return ⟨state, outcome.committed, outcome.current_observed, remaining d k.planning.delete_set,
      outcome⟩

/-- The cleanup, after CURRENT has moved. Its failure is no failure of the commit. -/
def cleanup (current : Digest) (incident : Option Incident) (d : Disk) :
    Disk × Reply CompactionResult :=
  match k.cleanup_journal H d current with
  | .error _ => (d, k.committed_result H .committed_cleanup_incomplete current d)
  | .ok j =>
    let (d', progress) := perform (storage H) (k.cleanup_writes H j current)
      (incident.map (·.fault)) d
    (d', match progress with
      | .done => k.committed_result H .committed current d'
      | .stopped _ =>
        if (incident.bind (·.error)).isSome then
          k.committed_result H .committed_cleanup_incomplete current d'
        else .died
      | .failed _ _ => k.committed_result H .committed_cleanup_incomplete current d')

end CompactionCall

/-- `commit_compaction(store, planning_result, expected_current, bundle)`. -/
def commit_compaction (k : CompactionCall) (incident : Option Incident) (d : Disk) :
    Disk × Reply CompactionResult :=
  match k.check H d with
  | .error e => (d, .raised e)
  | .ok none => k.cleanup H ((current? d).getD k.candidate) incident d
  | .ok (some base) =>
    let ws := k.writes H base
    match perform (storage H) ws (incident.map (·.fault)) d with
    | (d', .done) => k.cleanup H k.candidate (incident.map (·.after ws.length)) d'
    | (d', .stopped _) =>
      if (incident.bind (·.error)).isSome then (d', k.failed_result H d') else (d', .died)
    | (d', .failed _ (.storage _)) => (d', k.failed_result H d')
    | (d', .failed _ e) => (d', .raised e)

end AnKla
