import AnKla.Segment
import AnKla.Lifecycle
import AnKla.Policy.Checkpoint

/-!
# Reading a revision

* `read_stream`: the records of a stream, segment by segment, under distinct ids.
* `overlay`: the state that the maps of the manifest give to a record.
* `snapshot_step`: a revision with its chain, its checkpoint, its records and their
  lives. A refutation is checked by reading the revision it was made on.
* `snapshot`: the function that calls itself there. What is read one inside of the
  other are different revisions, so there are no more calls than files.
-/

namespace AnKla

open PyJson Durable

variable (H : Crypto)

/-! ## Parts of a revision -/

/-- `_validate_checkpoint_v2`. -/
def validate_checkpoint_v2 (checkpoint : Json) (revision : ℕ) : Except Failure Unit :=
  if item checkpoint "schema" ≠ .str "an-kla/checkpoint-v2" then .ok ()
  else do
    let invalid := Failure.integrity "checkpoint_v2_invalid"
    ensure (exact_keys checkpoint ["schema", "revision", "working_state"]) invalid
    ensure (match item checkpoint "revision" with
      | .int r => 1 ≤ r && r ≤ revision
      | _ => false) invalid
    (validate_working_state (item checkpoint "working_state")).mapError fun _ => invalid

/-- Rows added to a stream, each under an id that is not there yet. -/
def add_rows (stream : Stream) : List Json → List Json → Except Failure (List Json)
  | rows, [] => .ok rows
  | rows, row :: new => do
    ensure (record_id row ≠ "" && record_id row ∉ rows.map record_id)
      (.integrity ("duplicate_or_missing_" ++ stream.name ++ "_id"))
    add_rows stream (rows ++ [row]) new

/-- The rows of some segments of a stream, after those read so far. -/
def read_segments (d : Disk) (stream : Stream) : List Json → List Digest → Except Failure (List Json)
  | rows, [] => .ok rows
  | rows, id :: ids => do
    let new ← read_segment H d stream id
    let rows ← add_rows stream rows new
    read_segments d stream rows ids

/-- The raw records of a manifest. -/
def read_records (d : Disk) (m : Manifest) : Except Failure (PerStream (List Json)) :=
  PerStream.tryFn fun s => read_segments H d s [] (m.segments.get s)

/-- The row is a target of the supersede map. -/
def is_superseded (m : Manifest) (stream : Stream) (row : Json) : Bool :=
  m.supersedes.any fun e => e.stream = stream && e.target_id = record_id row

/-- The row is a target of the refutation map. -/
def is_refuted (m : Manifest) (stream : Stream) (row : Json) : Bool :=
  m.refutations.any fun e =>
    e.stream = stream && e.target_record_sha256 = H.digest_json row

/-- A row with the state that the maps give it. -/
def overlay (m : Manifest) (stream : Stream) (row : Json) : Json :=
  let row' := if is_superseded m stream row then row.set "status" (.str "sustituida") else row
  if is_refuted H m stream row then row'.set "status" (.str "refutada") else row'

/-! ## Archived revisions -/

/-- `archived_revision_link_under_gate`: the entry of a revision in the catalog of
    CURRENT, and the catalog of its epoch. -/
def archived_revision_link (d : Disk) (revision : Digest) :
    Except Failure (Option (ArchivedRevision × Digest)) := do
  let current ← read_current d
  let m ← read_manifest H d current
  match m.schema, m.compaction_epoch with
  | .v3, some link => do
    let catalog ← read_catalog H d link.tombstone_catalog >>= validate_catalog H
    let catalogs ← validate_catalog_chain H d link.tombstone_catalog
    match catalog.archived_revisions.find? (·.revision = revision) with
    | none => return none
    | some a =>
      match catalogs.of_epoch a.epoch_id with
      | none => .error chain_invalid
      | some (id, _) => return some (a, id)
  | .v3, none => .error (.value "compaction_epoch")
  | _, _ => return none

/-- The manifest of a revision, or why there is none. -/
def read_manifest_or_archived (d : Disk) (revision : Digest) : Except Failure Manifest :=
  match read_manifest H d revision with
  | .ok m => .ok m
  | .error original =>
    match archived_revision_link H d revision with
    | .error _ => .error (.integrity "compaction_catalog_invalid")
    | .ok (some _) => .error (.integrity "revision_archived_by_compaction")
    | .ok none => .error original

/-! ## A revision -/

/-- The body of `_snapshot_under_gate`, and how the revisions that its refutations were made
    on are read. -/
def snapshot_step (d : Disk) (snapshot : Digest → Except Failure Snapshot) (use_watermark : Bool)
    (revision : Digest) : Except Failure Snapshot := do
  let m ← read_manifest_or_archived H d revision
  validate_manifest .integrity m
  validate_revision_chain H .integrity (if use_watermark then usable_watermark d else none) d
    revision m
  verify_manifest_link H d m
  let checkpoint ← read_checkpoint H d m.checkpoint
  validate_checkpoint_v2 checkpoint m.revision
  let raw ← read_records H d m
  validate_lifecycle H snapshot d m raw
  return ⟨revision, m, checkpoint, .ofFn fun s => (raw.get s).map (overlay H m s), raw⟩

/-- `_snapshot_under_gate`, with a bound on the revisions that refutations lead to. -/
def snapshot_loop (d : Disk) : ℕ → Bool → Digest → Except Failure Snapshot
  | 0, _, _ => .error (.value "recursion")
  | n + 1, use_watermark, revision =>
    snapshot_step H d (snapshot_loop d n true) use_watermark revision

/-- How many different revisions can be read, and one that is not there. -/
def snapshot_depth (d : Disk) : ℕ := d.keys.length + 1

/-- `snapshot(revision_id)`. -/
def snapshot (d : Disk) (revision : Digest) : Except Failure Snapshot :=
  snapshot_loop H d (snapshot_depth d) true revision

/-- `snapshot(revision_id, use_watermark=False)`, as `verify` reads it. -/
def audit (d : Disk) (revision : Digest) : Except Failure Snapshot :=
  snapshot_loop H d (snapshot_depth d) false revision

end AnKla
