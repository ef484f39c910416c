import AnKla.Snapshot
import AnKla.Identity

/-!
# Planning a compaction

A compaction replaces a chain of revisions by one root that holds the active
records, and a catalog of what it leaves out.

* `project_snapshot`: the active records, and a tombstone for each other one.
* `inventory_deletable`: the files that nothing needs afterwards.
* `build_under_gate`: the catalog, the epoch and the candidate.
* `validate_planning_result`: a planning result, against itself.
-/

namespace AnKla

open PyJson Durable

variable (H : Crypto)

/-! ## Projection -/

/-- Why a record is left out, if it is. -/
def row_state (m : Manifest) (stream : Stream) (row : Json) : Option TombstoneState :=
  if is_refuted H m stream row then some .refuted
  else if is_superseded m stream row then some .superseded
  else if is_active row then none
  else some .inactive

/-- The rows of a stream that are active. -/
def active_rows (s : Snapshot) (stream : Stream) : List Json :=
  (s.raw_records.get stream).filter fun row => (row_state H s.manifest stream row).isNone

/-- The tombstone of a row. -/
def row_tombstone (m : Manifest) (stream : Stream) (row : Json) : Option RecordTombstone :=
  (row_state H m stream row).map fun state => ⟨stream, H.digest_json row, state⟩

/-- The tombstones of all rows that are not active, in order. -/
def record_tombstones (s : Snapshot) : List RecordTombstone :=
  (STREAMS.flatMap fun stream =>
    (s.raw_records.get stream).filterMap (row_tombstone H s.manifest stream)).insertionSort
      fun a b => a.key ≤ b.key

/-- One segment a stream that has active rows. -/
def projected_segments (s : Snapshot) : PerStream (List Digest) := .ofFn fun stream =>
  if active_rows H s stream = [] then [] else [segment_id H (active_rows H s stream)]

/-! ## Inventory -/

/-- `_kind(relative)`. -/
def Path.object_kind : Path → Option ObjectKind
  | .revision _ => some .revision
  | .checkpoint _ => some .checkpoint
  | .segment _ _ => some .segment
  | .ref_log _ => some .ref_log
  | .journal _ => some .transaction
  | .stage _ _ => some .stage
  | .receipt _ _ => some .receipt
  | .refutation _ => some .refutation
  | .authority_claim _ => some .authority_claim
  | .authority_attestation _ => some .authority_attestation
  | .index_current _ | .index _ _ => some .index
  | _ => none

/-- `_protected_paths(store, proposal, checkpoint, segment_ids)`. -/
def is_protected (transaction_id : Uuid) (checkpoint : Digest) (segment_ids : PerStream (List Digest)) :
    Path → Bool
  | .checkpoint c => c = checkpoint
  | .segment s id => id ∈ segment_ids.get s
  | .journal t | .stage t _ | .receipt t _ => t = transaction_id
  | _ => false

/-- The tombstone of a file, if it may be deleted. -/
def object_tombstone (d : Disk) (kept : Path → Bool) (p : Path) : Option ObjectTombstone :=
  match p.object_kind, d.read p with
  | some kind, some c => if kept p then none else some ⟨p, H.digest c, kind⟩
  | _, _ => none

/-- `inventory_deletable(store, protected)`. -/
def inventory_deletable (d : Disk) (kept : Path → Bool) : List ObjectTombstone :=
  (d.keys.insertionSort (· ≤ ·)).filterMap (object_tombstone H d kept)

/-! ## The epochs before -/

/-- `_live_revision_ids(store, base)`. -/
def live_revision_ids (d : Disk) : ℕ → Digest → Except Failure (List Digest)
  | 0, _ => .error (.compaction "compaction_revision_chain_invalid")
  | n + 1, cursor => do
    let m ← read_manifest H d cursor
    match m.parent with
    | none => return [cursor]
    | some parent => (cursor :: ·) <$> live_revision_ids d n parent

/-- The most revisions that one compaction archives. -/
def max_live_revisions : ℕ := 100000

/-- What a catalog adds to the previous catalogs of the next one. -/
def Catalog.as_previous (c : Catalog) (id : Digest) : PreviousCatalog :=
  ⟨c.epoch_id, id, c.export_manifest_sha256⟩

/-- `_prior_catalog(store, manifest)`: the archived revisions and the catalogs so far. -/
def prior_catalog (d : Disk) (m : Manifest) :
    Except Failure (List ArchivedRevision × List PreviousCatalog) :=
  if m.schema ≠ .v3 then .ok ([], [])
  else match m.compaction_epoch with
  | none => .error (.value "compaction_epoch")
  | some link => do
    let catalog ← read_catalog H d link.tombstone_catalog >>= validate_catalog H
    let _ ← validate_catalog_chain H d link.tombstone_catalog
    let previous := (catalog.previous_catalogs ++ [catalog.as_previous link.tombstone_catalog])
      |>.insertionSort fun a b => a.epoch_id ≤ b.epoch_id
    ensure (decide (previous.map (·.epoch_id)).Nodup) (.compaction "compaction_catalog_invalid")
    return (catalog.archived_revisions, previous)

/-! ## The plan -/

/-- `compaction-planning-result-v1`. -/
structure PlanningResult where
  proposal : CompactionProposal
  restore_proof : RestoreProof
  catalog : Catalog
  epoch_manifest : EpochManifest
  candidate_manifest : Manifest
  delete_set : List ObjectTombstone
  core : CompactionCore
  fingerprint : Digest
  deriving DecidableEq

/-- The catalog that a compaction adds. -/
def new_catalog (p : CompactionProposal) (s : Snapshot) (prior_archived : List ArchivedRevision)
    (previous : List PreviousCatalog) (live : List Digest) (objects : List ObjectTombstone) :
    Catalog where
  epoch_id := p.epoch_id
  source_revision := p.base_revision
  export_manifest_sha256 := p.export_manifest_sha256
  delete_set_sha256 := H.digest (.delete_set objects)
  archived_revisions := (prior_archived ++ live.map fun r =>
    (⟨r, p.epoch_id, p.export_manifest_sha256⟩ : ArchivedRevision)).insertionSort
      fun a b => a.revision ≤ b.revision
  record_tombstones := record_tombstones H s
  object_tombstones := objects
  previous_catalogs := previous

/-- The epoch manifest of a catalog. -/
def new_epoch (p : CompactionProposal) (proof : RestoreProof) (c : Catalog) : EpochManifest where
  epoch_id := p.epoch_id
  transaction_id := p.transaction_id
  base_revision := p.base_revision
  proposal_sha256 := H.digest (.compaction_proposal p)
  export_manifest_sha256 := p.export_manifest_sha256
  restore_proof := H.digest (.restore_proof proof)
  tombstone_catalog := H.digest (.catalog c)
  delete_set_sha256 := c.delete_set_sha256
  compaction_policy := compaction_policy_fingerprint H

/-- The compaction root of an epoch. -/
def new_root (p : CompactionProposal) (s : Snapshot) (store_identity : Digest) (c : Catalog)
    (e : EpochManifest) : Manifest where
  schema := .v3
  revision := s.manifest.revision + 1
  parent := none
  segments := projected_segments H s
  checkpoint := s.manifest.checkpoint
  transaction_id := .uuid p.transaction_id
  canonicalization := "canonical-json/v1"
  integrity_claim := "content_identity_not_truth_or_authorship"
  store_identity := some store_identity
  supersedes_map := some []
  features := some [.refutations_v1, .compaction_v1]
  refutations_map := some []
  compaction_epoch := some
    { epoch_id := p.epoch_id
      source_revision := p.base_revision
      export_manifest_sha256 := p.export_manifest_sha256
      tombstone_catalog := H.digest (.catalog c)
      epoch_manifest := H.digest (.epoch e) }

/-- The planning result of a catalog. -/
def planning_of (p : CompactionProposal) (proof : RestoreProof) (s : Snapshot)
    (store_identity : Digest) (c : Catalog) : PlanningResult :=
  let e := new_epoch H p proof c
  let root := new_root H p s store_identity c e
  let core : CompactionCore :=
    { base_revision := p.base_revision
      transaction_id := p.transaction_id
      epoch_id := p.epoch_id
      proposal_sha256 := H.digest (.compaction_proposal p)
      restore_proof_sha256 := H.digest (.restore_proof proof)
      catalog_sha256 := H.digest (.catalog c)
      epoch_manifest_sha256 := H.digest (.epoch e)
      delete_set_sha256 := c.delete_set_sha256
      project_identity_sha256 := proof.project_identity_sha256
      store_identity_sha256 := store_identity
      policy_fingerprint := compaction_policy_fingerprint H
      candidate_revision := H.digest (.manifest root) }
  ⟨p, proof, c, e, root, c.object_tombstones, core, H.digest (.compaction_core core)⟩

/-- The files that the plan keeps. -/
def kept_files (p : CompactionProposal) (s : Snapshot) : Path → Bool :=
  is_protected p.transaction_id s.manifest.checkpoint (projected_segments H s)

/-- The restore proof is about this store and this base. -/
def proof_binds (p : CompactionProposal) (proof : RestoreProof) (binding : Binding)
    (s : Snapshot) : Bool :=
  proof.current_revision = p.base_revision &&
    proof.manifest_sha256 = p.export_manifest_sha256 &&
    proof.project_identity_sha256 = binding.project_digest H &&
    proof.store_identity_sha256 = binding.store_identity &&
    s.manifest.store_identity = some binding.store_identity

/-- `_build_under_gate(store, proposal, proof)`. -/
def build_under_gate (d : Disk) (p : CompactionProposal) (proof : RestoreProof) :
    Except Failure PlanningResult := do
  let current ← read_current d
  ensure (current = p.base_revision) (.compaction "compaction_base_changed")
  let s ← snapshot H d p.base_revision
  let binding ← read_binding H d
  ensure (proof_binds H p proof binding s) (.compaction "compaction_bundle_binding_mismatch")
  let (prior_archived, previous) ← prior_catalog H d s.manifest
  let live ← live_revision_ids H d max_live_revisions p.base_revision
  let c := new_catalog H p s prior_archived previous live
    (inventory_deletable H d (kept_files H p s))
  ensure (decide (c.archived_revisions.map (·.revision)).Nodup)
    (.compaction "compaction_archived_revision_conflict")
  let _ ← validate_catalog H c
  let plan := planning_of H p proof s binding.store_identity c
  validate_manifest .compaction plan.candidate_manifest
  return plan

/-- A planning result binds its parts to each other. -/
def PlanningResult.bound (p : PlanningResult) : Bool :=
  p.delete_set = p.catalog.object_tombstones &&
    H.digest (.compaction_core p.core) = p.fingerprint &&
    p.core.proposal_sha256 = H.digest (.compaction_proposal p.proposal) &&
    p.core.restore_proof_sha256 = H.digest (.restore_proof p.restore_proof) &&
    p.core.catalog_sha256 = H.digest (.catalog p.catalog) &&
    p.core.epoch_manifest_sha256 = H.digest (.epoch p.epoch_manifest) &&
    p.core.delete_set_sha256 = p.catalog.delete_set_sha256 &&
    p.core.candidate_revision = H.digest (.manifest p.candidate_manifest) &&
    p.core.base_revision = p.proposal.base_revision &&
    p.core.transaction_id = p.proposal.transaction_id &&
    p.core.epoch_id = p.proposal.epoch_id &&
    p.core.policy_fingerprint = p.epoch_manifest.compaction_policy &&
    p.epoch_manifest.proposal_sha256 = H.digest (.compaction_proposal p.proposal) &&
    p.epoch_manifest.restore_proof = H.digest (.restore_proof p.restore_proof) &&
    p.epoch_manifest.tombstone_catalog = H.digest (.catalog p.catalog) &&
    p.candidate_manifest.compaction_epoch.any fun l =>
      l.epoch_manifest = H.digest (.epoch p.epoch_manifest)

/-- `validate_planning_result(value)`. -/
def validate_planning_result (p : PlanningResult) : Except Failure Unit := do
  let _ ← validate_catalog H p.catalog
  validate_manifest .compaction p.candidate_manifest
  ensure (p.bound H) (.compaction "compaction_plan_binding_invalid")

/-- `plan_compaction(store, proposal, bundle)`, with the proof that the bundle restores. -/
def plan_compaction (d : Disk) (p : CompactionProposal) (bundle : Except Failure RestoreProof) :
    Except Failure PlanningResult := do
  let proof ← bundle
  ensure (proof.manifest_sha256 = p.export_manifest_sha256 &&
    proof.current_revision = p.base_revision) (.compaction "compaction_bundle_binding_mismatch")
  build_under_gate H d p proof

end AnKla
