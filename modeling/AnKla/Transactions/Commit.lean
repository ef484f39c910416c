import AnKla.Snapshot
import AnKla.Transactions.Inspect
import AnKla.Durable.Run

/-!
# Committing a child revision

Every governed operation ends here: one candidate, written object by object
under the id of its transaction, and CURRENT moved to it.

* `CommitRequest`: the arguments of `commit_locked`.
* `object_writes`, `stage_writes`, `move_writes`, `audit_writes`, `observe_writes`:
  what it writes, in order. Only the middle one moves CURRENT.
* `Incident`: a write that the process dies in, or that the host refuses.
* `commit_locked`.
-/

namespace AnKla

open PyJson Durable

/-! ## Incidents -/

/-- Something that goes wrong in one write: the process dies, or the host raises
    an `OSError` of a code. -/
structure Incident where
  fault : Fault
  error : Option String
  deriving DecidableEq

/-- The incident, for the writes after the first so many. -/
def Incident.after (i : Incident) (n : ℕ) : Incident := ⟨(i.fault.1 - n, i.fault.2), i.error⟩

/-- What a call comes to. -/
inductive Reply (α : Type*)
  | died
  | raised (e : Failure)
  | returned (a : α)
  deriving DecidableEq

namespace Reply

variable {α β : Type*}

def map (f : α → β) : Reply α → Reply β
  | .died => .died
  | .raised e => .raised e
  | .returned a => .returned (f a)

/-- What a computation without writes comes to. -/
def ofExcept : Except Failure α → Reply α
  | .error e => .raised e
  | .ok a => .returned a

end Reply

variable (H : Crypto)

/-! ## Receipts -/

/-- Write a receipt: every protected file is checked first. -/
def sync_protected (files : List (Path × Digest)) : Write Path Document Failure :=
  .check fun d => files.forM fun f =>
    match d.read f.1 with
    | none => .error (.storage "file_fsync_failed")
    | some c => ensure (H.digest c = f.2) (.storage "receipt_protected_hash_mismatch")

/-- A durability receipt on some files and their directories. -/
def receipt_of (attempt : Attempt) (kind : ReceiptKind) (candidate : Digest)
    (predecessor : Option Digest) (files : List (Path × Digest)) : Receipt where
  kind := kind
  transaction_id := attempt.transaction_id
  execution_fingerprint := H.execution_fingerprint attempt
  candidate_revision := candidate
  predecessor_receipt := predecessor
  repair_for_kind := none
  files := files.insertionSort fun f g => f.1 ≤ g.1
  directories := ((files.map fun f => f.1.dir).insertionSort (· ≤ ·)).dedup

/-- `write_receipt`, of a receipt on its own files. -/
def write_receipt (r : Receipt) : List (Write Path Document Failure) :=
  [sync_protected H r.files,
    .create (.receipt r.transaction_id (H.digest (.receipt r))) (.receipt r)]

/-- The receipt that CURRENT is durable. -/
def current_receipt_of (attempt : Attempt) (candidate predecessor : Digest) : Receipt :=
  receipt_of H attempt .current_durable candidate (some predecessor)
    [(.current, H.digest (.current candidate))]

/-! ## Requests -/

/-- What a refutation is made of. -/
structure RefuteObjects where
  authority_claim : Json
  authority_attestation : Json
  refutation : Json

/-- The arguments of `commit_locked`. -/
structure CommitRequest where
  observed : Digest
  checkpoint_patch : Json
  pending : PerStream (List Json)
  attempt : Attempt
  policy_metadata : Option Json
  supersedes : List SupersedeEntry
  refute_objects : Option RefuteObjects
  store_identity : Digest

/-- No records. -/
def no_pending : PerStream (List Json) := .ofFn fun _ => []

/-- Rows under ids that are neither used nor repeated. -/
def assign_rows (stream : Stream) : List String → List Json → Except Failure Unit
  | _, [] => .ok ()
  | existing, row :: rows =>
    match item row "id" with
    | .str s =>
      if s = "" then .error (.store ("missing_" ++ stream.name ++ "_id"))
      else if s ∈ existing then .error (.store ("duplicate_" ++ stream.name ++ "_id"))
      else assign_rows stream (existing ++ [s]) rows
    | _ => .error (.store ("missing_" ++ stream.name ++ "_id"))

/-- `_assign_records(base, pending)`: the records are assigned as they are. -/
def assign_records (base : Snapshot) (pending : PerStream (List Json)) : Except Failure Unit :=
  STREAMS.forM fun s => assign_rows s ((base.records.get s).map record_id) (pending.get s)

namespace CommitRequest

variable (c : CommitRequest)

/-- The transaction of the request. -/
def txid : Uuid := c.attempt.transaction_id

/-- The metadata, under the key of the operation. -/
def policy : Option PolicyMetadata :=
  c.policy_metadata.map (if c.attempt.operation = .refute then .refute_policy else .write_policy)

/-- A checkpoint that is not the base's. -/
def new_checkpoint (base : Snapshot) : Option Json :=
  if c.attempt.operation = .checkpoint then
    some (c.checkpoint_patch.set "revision" (.int (base.manifest.revision + 1)))
  else none

/-- The streams that get records, with the records. -/
def new_rows : List (Stream × List Json) :=
  (STREAMS.map fun s => (s, c.pending.get s)).filter fun x => x.2 ≠ []

/-- The segments of the candidate. -/
def segment_ids (base : Snapshot) : PerStream (List Digest) := .ofFn fun s =>
  base.manifest.segments.get s ++
    if c.pending.get s = [] then [] else [segment_id H (c.pending.get s)]

/-- The checkpoint of the candidate. -/
def checkpoint_id (base : Snapshot) : Digest :=
  match c.new_checkpoint base with
  | some v => H.digest_json v
  | none => base.manifest.checkpoint

/-- The entry that a refutation adds to the map. -/
def refutation_entry : Except Failure (List RefutationEntry) :=
  match c.refute_objects with
  | none => .ok []
  | some o => do
    ensure (item o.refutation "authority_claim_sha256" = H.json_ident o.authority_claim &&
      item o.refutation "authority_attestation_id" = H.json_ident o.authority_attestation &&
      (c.policy_metadata.map (item · "refutation_id")) = some (H.json_ident o.refutation))
      (.transaction "refute_content_hash_mismatch")
    match Stream.ofName (py_str (item o.refutation "stream")),
        digest_of (item o.refutation "target_record_sha256") with
    | some stream, some target => return [⟨stream, target, H.digest_json o.refutation⟩]
    | _, _ => .error (.integrity "manifest_refutations_map_invalid")

/-- The candidate. -/
def manifest (base : Snapshot) : Except Failure Manifest := do
  let entry ← c.refutation_entry H
  let m ← build_child_manifest base.manifest (base.manifest.revision + 1) c.observed
    (c.segment_ids H base) (c.checkpoint_id H base) c.txid c.attempt.operation
    (some c.store_identity) (base.manifest.supersedes ++ c.supersedes)
    (base.manifest.refutations ++ entry)
  validate_manifest .integrity m
  return m

/-! ## What is written -/

/-- The journal before there is a candidate. -/
def prepared_journal : Journal where
  stage := .prepared
  parent := some c.observed
  attempt := c.attempt
  policy := c.policy
  candidate := none
  stage_object := none
  candidate_receipt := none
  current_receipt := none
  observed_log := none
  intent_id := none
  cleanup_receipt := none

/-- The objects of a refutation. -/
def refute_writes : List (Write Path Document Failure) :=
  match c.refute_objects with
  | none => []
  | some o =>
    [.create (.authority_claim (H.digest_json o.authority_claim)) (.json o.authority_claim),
      .create (.authority_attestation (H.digest_json o.authority_attestation))
        (.json o.authority_attestation),
      .create (.refutation (H.digest_json o.refutation)) (.json o.refutation)]

/-- The journal, and the objects that the candidate names. -/
def object_writes (base : Snapshot) : List (Write Path Document Failure) :=
  .replace (.journal c.txid) (.journal c.prepared_journal) ::
    c.new_rows.map (fun x => write_segment H x.1 x.2) ++
    (c.new_checkpoint base).toList.map (fun v => .create (.checkpoint (H.digest_json v)) (.json v)) ++
    c.refute_writes H

/-- The digests of the objects of a refutation, with their paths. -/
def refute_files : List (Path × Digest) :=
  match c.refute_objects with
  | none => []
  | some o =>
    [(.authority_claim (H.digest_json o.authority_claim), H.digest_json o.authority_claim),
      (.authority_attestation (H.digest_json o.authority_attestation),
        H.digest_json o.authority_attestation),
      (.refutation (H.digest_json o.refutation), H.digest_json o.refutation)]

variable (m : Manifest)

/-- The identifier of the candidate. -/
def candidate : Digest := H.digest (.manifest m)

def intent : RefLog := ⟨.intent, c.txid, c.observed, candidate H m⟩

def intent_id : Digest := H.digest (.ref_log (c.intent H m))

def stage : Stage := ⟨some c.observed, candidate H m, c.attempt, c.policy⟩

def stage_id : Digest := H.digest (.stage (c.stage H m))

/-- The journal from the candidate on. -/
def journal (stage : JournalStage) (candidate_receipt current_receipt observed_log : Option Digest) :
    Journal :=
  { (c.stage H m).as_journal with
    stage, candidate_receipt, current_receipt, observed_log
    stage_object := some (c.stage_id H m) }

/-- The files that the candidate receipt protects. -/
def candidate_files : List (Path × Digest) :=
  [(.revision (candidate H m), candidate H m), (.checkpoint m.checkpoint, m.checkpoint),
    (.ref_log (c.intent_id H m), c.intent_id H m),
    (.stage c.txid (c.stage_id H m), c.stage_id H m)] ++
  c.new_rows.map (fun x => (.segment x.1 (segment_id H x.2), segment_id H x.2)) ++ c.refute_files H

def candidate_receipt : Receipt :=
  receipt_of H c.attempt .candidate_data_durable (candidate H m) none (c.candidate_files H m)

def candidate_receipt_id : Digest := H.digest (.receipt (c.candidate_receipt H m))

def current_receipt : Receipt :=
  current_receipt_of H c.attempt (candidate H m) (c.candidate_receipt_id H m)

def current_receipt_id : Digest := H.digest (.receipt (c.current_receipt H m))

/-- The evidence of the candidate. -/
def stage_writes : List (Write Path Document Failure) :=
  [.create (.ref_log (c.intent_id H m)) (.ref_log (c.intent H m)),
    .create (.stage c.txid (c.stage_id H m)) (.stage (c.stage H m)),
    .replace (.journal c.txid) (.journal (c.journal H m .candidate_prepared none none none))] ++
  write_receipt H (c.candidate_receipt H m)

/-- The watermark of the candidate. -/
def watermark : Watermark := ⟨candidate H m, m.parent, epoch_of m⟩

/-- The move of CURRENT, and its evidence. -/
def move_writes : List (Write Path Document Failure) :=
  [.replace (.journal c.txid)
      (.journal (c.journal H m .candidate_prepared (some (c.candidate_receipt_id H m)) none none)),
    .check fun d => do
      let current ← read_current d
      ensure (current = c.observed) (.storage "storage_io_failed"),
    .replace .current (.current (candidate H m)),
    .replace .watermark (.watermark (watermark H m))] ++
  write_receipt H (c.current_receipt H m)

/-- The committed journal. -/
def committed_journal (observed_log : Option Digest) : Journal :=
  c.journal H m .committed (some (c.candidate_receipt_id H m)) (some (c.current_receipt_id H m))
    observed_log

def audit_writes : List (Write Path Document Failure) :=
  [.check fun d => ensure (read_current d = .ok (candidate H m)) (.storage "current_reread_mismatch"),
    .replace (.journal c.txid) (.journal (c.committed_journal H m none))]

def observed_entry : RefLog := ⟨.observed_commit (c.intent_id H m), c.txid, c.observed, candidate H m⟩

def observed_id : Digest := H.digest (.ref_log (c.observed_entry H m))

/-- The last entry of the ref log; its failure is no failure of the commit. -/
def observe_writes : List (Write Path Document Failure) :=
  [.create (.ref_log (c.observed_id H m)) (.ref_log (c.observed_entry H m)),
    .replace (.journal c.txid) (.journal (c.committed_journal H m (some (c.observed_id H m))))]

/-- Everything from the candidate on. -/
def publish_writes : List (Write Path Document Failure) :=
  .create (.revision (candidate H m)) (.manifest m) :: c.stage_writes H m ++ c.move_writes H m ++
    c.audit_writes H m ++ c.observe_writes H m

/-- Everything. A candidate that is not valid ends the writes. -/
def writes (base : Snapshot) : List (Write Path Document Failure) :=
  c.object_writes H base ++
    match c.manifest H base with
    | .error e => [.check fun _ => .error e]
    | .ok m => c.publish_writes H m

/-! ## Outcomes -/

/-- The outcome when so many writes were done and the next one failed. -/
def failed_outcome (base : Snapshot) (n : ℕ) (code : String) (d : Disk) : Digest × Outcome :=
  let objects := (c.object_writes H base).length
  let candidate := match c.manifest H base with
    | .ok m => if objects < n then some (candidate H m) else none
    | .error _ => none
  let recorded := decide (0 < n)
  let current := if recorded then current? d else some c.observed
  let relation := candidate_relation H d candidate current
  let durable := if relation.authoritative then objects + 12 ≤ n else objects + 6 ≤ n
  (current.getD c.observed,
    make_outcome c.txid (some c.observed) candidate current relation (some recorded)
      (if 0 < n ∧ n < objects + 13 then .prepared else .incomplete)
      (if durable then .complete else .incomplete) (some code)
      (if recorded then [] else ["transaction_not_recorded"]))

/-- The outcome once the committed journal is written. -/
def committed_outcome (observed : Bool) : Digest × Outcome :=
  (candidate H m,
    make_outcome c.txid (some c.observed) (some (candidate H m)) (some (candidate H m)) .current
      (some true) (if observed then .complete else .incomplete) .complete
      (if observed then none else some "observed_log_failed") [])

/-- The outcome of an `OSError` after so many writes. -/
def error_outcome (base : Snapshot) (n : ℕ) (code : String) (d : Disk) : Digest × Outcome :=
  match c.manifest H base with
  | .ok m =>
    if (c.object_writes H base).length + 14 ≤ n then c.committed_outcome H m false
    else c.failed_outcome H base n code d
  | .error _ => c.failed_outcome H base n code d

/-- The writes of a commit, and what they come to. -/
def run (base : Snapshot) (incident : Option Incident) (d : Disk) :
    Disk × Reply (Digest × Outcome) :=
  let (d', progress) := perform (storage H) (c.writes H base) (incident.map (·.fault)) d
  (d', match progress with
    | .done =>
      match c.manifest H base with
      | .ok m => .returned (c.committed_outcome H m true)
      | .error e => .raised e
    | .stopped n =>
      match incident.bind (·.error) with
      | some code => .returned (c.error_outcome H base n code d')
      | none => .died
    | .failed n (.storage code) => .returned (c.error_outcome H base n code d')
    | .failed _ e => .raised e)

/-! ## Before anything is written -/

/-- What `commit_locked` reads first: the outcome of a transaction that is
    committed, or the base to write on. -/
def prepare (d : Disk) : Except Failure ((Digest × Outcome) ⊕ Snapshot) := do
  ensure (c.attempt.operation = .checkpoint || c.checkpoint_patch.keys = [])
    (.transaction "governed_checkpoint_update_required")
  ensure (if c.attempt.operation = .refute then c.policy_metadata.isSome && c.refute_objects.isSome
    else c.refute_objects.isNone) (.transaction "invalid_refute_objects")
  let (candidates, _) ← check_binding H d c.attempt
  let inspected ← if candidates = [] then pure none
    else some <$> inspect_transaction H d c.txid
  match inspected.filter (·.committed = some true) with
  | some outcome => return .inl (outcome.candidate_revision.getD 0, outcome)
  | none => do
    let base ← snapshot H d c.observed
    assign_records base c.pending
    return .inr base

end CommitRequest

/-- `commit_locked(store, ...)`. -/
def commit_locked (c : CommitRequest) (incident : Option Incident) (d : Disk) :
    Disk × Reply (Digest × Outcome) :=
  match c.prepare H d with
  | .error e => (d, .raised e)
  | .ok (.inl result) => (d, .returned result)
  | .ok (.inr base) => c.run H base incident d

end AnKla
