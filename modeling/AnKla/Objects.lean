import AnKla.Canonical
import Mathlib.Data.List.Sort
import Mathlib.Data.List.Lex

/-!
# The files of a store

What the program keeps on disk, file by file: where each file lives (`Path`)
and what it holds (`Document`). A file of a closed JSON format is the structure
of its fields; the constant fields (`schema`, `stage`) are the type itself. The
open parts (records, checkpoints, policy metadata, claims) are JSON values.

A file that holds no object of a format, or only the first bytes of one, is a
`Document` too (`bytes`, `torn`), so that a reader has something to refuse.
-/

namespace AnKla

open PyJson

/-! ## Where files live -/

/-- The paths of a store, by what they are for. -/
inductive Path
  /-- `memory/refs/CURRENT`: the one commit authority. -/
  | current
  | watermark
  | revision (d : Digest)
  | checkpoint (d : Digest)
  | segment (s : Stream) (d : Digest)
  | ref_log (d : Digest)
  | journal (t : Uuid)
  | stage (t : Uuid) (d : Digest)
  | receipt (t : Uuid) (d : Digest)
  | refutation (d : Digest)
  | authority_claim (d : Digest)
  | authority_attestation (d : Digest)
  | identity (d : Digest)
  | catalog (d : Digest)
  | epoch (d : Digest)
  | restore_proof (d : Digest)
  /-- `memory/quarantine/<uuid>-<name>`. -/
  | quarantine (n : ℕ)
  /-- `memory/indexes/<base>/sqlite-fts5-v1/CURRENT`. -/
  | index_current (base : Digest)
  | index (base d : Digest)
  /-- `memory/identity.json`. -/
  | store_identity
  | project_identity
  | identity_intent
  | immutable_intent (d : Digest)
  | identity_receipt (d : Digest)
  | attest_key
  | attest_whitelist
  | attest_receipt (d : Digest)
  /-- The consumption tombstone of a nonce, by the digest of the nonce. -/
  | tombstone (d : Digest)
  deriving DecidableEq, Repr

namespace Path

/-- The place of a path among all paths, in the order of their texts. -/
def key : Path → List ℕ
  | .attest_whitelist => [0]
  | .attest_key => [1]
  | .immutable_intent d => [2, d]
  | .identity_intent => [3]
  | .identity_receipt d => [4, d]
  | .authority_attestation d => [5, d]
  | .authority_claim d => [6, d]
  | .checkpoint d => [7, d]
  | .catalog d => [8, d]
  | .epoch d => [9, d]
  | .restore_proof d => [10, d]
  | .identity d => [11, d]
  | .store_identity => [12]
  | .index base d => [13, base, 1, d]
  | .index_current base => [13, base, 2]
  | .quarantine n => [14, n]
  | .current => [15, 0]
  | .ref_log d => [16, d]
  | .refutation d => [17, d]
  | .revision d => [18, d]
  | .segment .episodes d => [19, d]
  | .segment .events d => [20, d]
  | .segment .facts d => [21, d]
  | .journal t => [22, t, 0]
  | .receipt t d => [22, t, 1, d]
  | .stage t d => [22, t, 2, d]
  | .watermark => [23]
  | .project_identity => [24]
  | .tombstone d => [25, d]
  | .attest_receipt d => [26, d]

/-- The path with a key. -/
def ofKey : List ℕ → Option Path
  | [0] => some .attest_whitelist
  | [1] => some .attest_key
  | [2, d] => some (.immutable_intent d)
  | [3] => some .identity_intent
  | [4, d] => some (.identity_receipt d)
  | [5, d] => some (.authority_attestation d)
  | [6, d] => some (.authority_claim d)
  | [7, d] => some (.checkpoint d)
  | [8, d] => some (.catalog d)
  | [9, d] => some (.epoch d)
  | [10, d] => some (.restore_proof d)
  | [11, d] => some (.identity d)
  | [12] => some .store_identity
  | [13, base, 1, d] => some (.index base d)
  | [13, base, 2] => some (.index_current base)
  | [14, n] => some (.quarantine n)
  | [15, 0] => some .current
  | [16, d] => some (.ref_log d)
  | [17, d] => some (.refutation d)
  | [18, d] => some (.revision d)
  | [19, d] => some (.segment .episodes d)
  | [20, d] => some (.segment .events d)
  | [21, d] => some (.segment .facts d)
  | [22, t, 0] => some (.journal t)
  | [22, t, 1, d] => some (.receipt t d)
  | [22, t, 2, d] => some (.stage t d)
  | [23] => some .watermark
  | [24] => some .project_identity
  | [25, d] => some (.tombstone d)
  | [26, d] => some (.attest_receipt d)
  | _ => none

theorem ofKey_key (p : Path) : ofKey p.key = some p := by
  cases p with
  | segment s d => cases s <;> rfl
  | _ => rfl

theorem key_injective : Function.Injective key := fun p q h => by
  simpa [ofKey_key] using congrArg ofKey h

/-- Paths in the order of their texts. -/
instance : LinearOrder Path := LinearOrder.lift' key key_injective

/-- The directory of a path, by the key without the entry's name. -/
def dir (p : Path) : List ℕ := p.key.dropLast

/-- The digest in the name of a file. -/
def digests : Path → List Digest
  | .immutable_intent d | .identity_receipt d | .authority_attestation d | .authority_claim d
  | .checkpoint d | .catalog d | .epoch d | .restore_proof d | .identity d | .ref_log d
  | .refutation d | .revision d | .segment _ d | .receipt _ d | .stage _ d | .tombstone d
  | .attest_receipt d => [d]
  | _ => []

end Path

/-! ## Transactions -/

/-- What a transaction does. -/
inductive Operation
  | init
  | write
  | checkpoint
  | refute
  | compact
  | internal_commit
  deriving DecidableEq, Repr

/-- `transaction-attempt-v1`: what a transaction id is bound to. The execution
    fingerprint is the digest of the other fields. -/
structure Attempt where
  operation : Operation
  transaction_id : Uuid
  /-- `base_revision`, or `expected_current = null` of an init. -/
  base_revision : Option Digest
  /-- The plan, initialization or mutation fingerprint, by the operation. -/
  fingerprint : Digest
  deriving DecidableEq, Repr

/-- The metadata a governed operation leaves in its transaction. -/
inductive PolicyMetadata
  | write_policy (v : Json)
  | refute_policy (v : Json)
  | compaction_policy (v : Json)
  deriving DecidableEq

/-- `transaction-stage-v1` of stage `candidate_prepared`. -/
structure Stage where
  parent : Option Digest
  candidate : Digest
  attempt : Attempt
  policy : Option PolicyMetadata
  deriving DecidableEq

inductive JournalStage
  | prepared
  | candidate_prepared
  | committed
  deriving DecidableEq, Repr

/-- `transactions/<txid>.json`: how far a transaction came. -/
structure Journal where
  stage : JournalStage
  parent : Option Digest
  attempt : Attempt
  policy : Option PolicyMetadata
  candidate : Option Digest
  stage_object : Option Digest
  candidate_receipt : Option Digest
  current_receipt : Option Digest
  observed_log : Option Digest
  /-- Of a compaction. -/
  intent_id : Option Digest
  cleanup_receipt : Option Digest
  deriving DecidableEq

inductive RefLogKind
  | intent
  | observed_commit (intent : Digest)
  deriving DecidableEq, Repr

/-- `ref-log-v1`. -/
structure RefLog where
  kind : RefLogKind
  transaction_id : Uuid
  parent : Digest
  candidate : Digest
  deriving DecidableEq, Repr

inductive ReceiptKind
  | candidate_data_durable
  | current_durable
  | repair
  deriving DecidableEq, Repr

/-- `durability-receipt-v1`. The protected paths, files apart from directories,
    each in the order of the paths. -/
structure Receipt where
  kind : ReceiptKind
  transaction_id : Uuid
  execution_fingerprint : Digest
  candidate_revision : Digest
  predecessor_receipt : Option Digest
  repair_for_kind : Option ReceiptKind
  files : List (Path × Digest)
  directories : List (List ℕ)
  deriving DecidableEq, Repr

/-! ## Revisions -/

inductive RevisionSchema
  | v1
  | v2
  | v3
  deriving DecidableEq, Repr

/-- The `transaction_id` of a manifest. -/
inductive Txid
  | root
  | uuid (u : Uuid)
  deriving DecidableEq, Repr

structure SupersedeEntry where
  stream : Stream
  target_id : String
  sustituida_por : String
  deriving DecidableEq, Repr

structure RefutationEntry where
  stream : Stream
  target_record_sha256 : Digest
  refutation_id : Digest
  deriving DecidableEq, Repr

/-- `compaction_epoch`: what a compaction root and its descendants point to. -/
structure EpochLink where
  epoch_id : Uuid
  source_revision : Digest
  export_manifest_sha256 : Digest
  tombstone_catalog : Digest
  epoch_manifest : Digest
  deriving DecidableEq, Repr

inductive Feature
  | refutations_v1
  | compaction_v1
  deriving DecidableEq, Repr

/-- `revision-v1`, `-v2` and `-v3`. -/
structure Manifest where
  schema : RevisionSchema
  revision : ℕ
  parent : Option Digest
  segments : PerStream (List Digest)
  checkpoint : Digest
  transaction_id : Txid
  canonicalization : String
  integrity_claim : String
  store_identity : Option Digest
  supersedes_map : Option (List SupersedeEntry)
  features : Option (List Feature)
  refutations_map : Option (List RefutationEntry)
  compaction_epoch : Option EpochLink
  deriving DecidableEq

namespace Manifest

/-- `manifest.get("supersedes_map", [])`. -/
def supersedes (m : Manifest) : List SupersedeEntry := m.supersedes_map.getD []

/-- `manifest.get("refutations_map", [])`. -/
def refutations (m : Manifest) : List RefutationEntry := m.refutations_map.getD []

end Manifest

/-- The watermark: the head the last writer had validated. -/
structure Watermark where
  revision : Digest
  parent : Option Digest
  epoch_id : Option Uuid
  deriving DecidableEq, Repr

/-! ## Compaction -/

/-- `compaction-proposal-v1`. -/
structure CompactionProposal where
  base_revision : Digest
  epoch_id : Uuid
  transaction_id : Uuid
  export_manifest_sha256 : Digest
  deriving DecidableEq, Repr

/-- `compaction-restore-proof-v1`. -/
structure RestoreProof where
  manifest_sha256 : Digest
  inventory_sha256 : Digest
  current_revision : Digest
  project_identity_sha256 : Digest
  store_identity_sha256 : Digest
  transaction_outcomes_sha256 : Digest
  restore_result_sha256 : Digest
  deriving DecidableEq, Repr

/-- Why a record is not active. -/
inductive TombstoneState
  | superseded
  | refuted
  | inactive
  deriving DecidableEq, Repr

structure RecordTombstone where
  stream : Stream
  record_sha256 : Digest
  state : TombstoneState
  deriving DecidableEq, Repr

/-- What a deletable file is. -/
inductive ObjectKind
  | revision
  | checkpoint
  | segment
  | ref_log
  | transaction
  | stage
  | receipt
  | refutation
  | authority_claim
  | authority_attestation
  | index
  deriving DecidableEq, Repr

structure ObjectTombstone where
  path : Path
  content_sha256 : Digest
  kind : ObjectKind
  deriving DecidableEq, Repr

structure ArchivedRevision where
  revision : Digest
  epoch_id : Uuid
  export_manifest_sha256 : Digest
  deriving DecidableEq, Repr

structure PreviousCatalog where
  epoch_id : Uuid
  catalog_sha256 : Digest
  export_manifest_sha256 : Digest
  deriving DecidableEq, Repr

/-- `compaction-tombstone-catalog-v1`: what a compaction archived. -/
structure Catalog where
  epoch_id : Uuid
  source_revision : Digest
  export_manifest_sha256 : Digest
  delete_set_sha256 : Digest
  archived_revisions : List ArchivedRevision
  record_tombstones : List RecordTombstone
  object_tombstones : List ObjectTombstone
  previous_catalogs : List PreviousCatalog
  deriving DecidableEq, Repr

/-- `compaction-epoch-v1`. -/
structure EpochManifest where
  epoch_id : Uuid
  transaction_id : Uuid
  base_revision : Digest
  proposal_sha256 : Digest
  export_manifest_sha256 : Digest
  restore_proof : Digest
  tombstone_catalog : Digest
  delete_set_sha256 : Digest
  compaction_policy : Digest
  deriving DecidableEq, Repr

/-- The core of `compaction-plan-v1`. -/
structure CompactionCore where
  base_revision : Digest
  transaction_id : Uuid
  epoch_id : Uuid
  proposal_sha256 : Digest
  restore_proof_sha256 : Digest
  catalog_sha256 : Digest
  epoch_manifest_sha256 : Digest
  delete_set_sha256 : Digest
  project_identity_sha256 : Digest
  store_identity_sha256 : Digest
  policy_fingerprint : Digest
  candidate_revision : Digest
  deriving DecidableEq, Repr

/-- `compaction-cleanup-receipt-v1`. -/
structure CleanupReceipt where
  transaction_id : Uuid
  candidate_revision : Digest
  delete_set_sha256 : Digest
  deleted_or_absent_sha256 : Digest
  synced_directories : List (List ℕ)
  deriving DecidableEq, Repr

/-! ## Identity -/

/-- `project-identity-v1`. -/
structure ProjectIdentity where
  project_uuid : Uuid
  created_by_version : String
  deriving DecidableEq, Repr

/-- `store-identity-v1`. -/
structure StoreIdentity where
  store_uuid : Uuid
  project_uuid : Uuid
  project_identity : Digest
  canonical_project_root_at_init : String
  created_by_version : String
  deriving DecidableEq, Repr

inductive IdentityOperation
  | init
  | adopt
  | repair
  deriving DecidableEq, Repr

/-- `identity-intent-v1` without its stage: what the immutable intent holds. -/
structure IdentityIntentCore where
  operation : IdentityOperation
  project_identity : ProjectIdentity
  store_identity : StoreIdentity
  current_observed : Option Digest
  transaction_id : Option Uuid
  deriving DecidableEq, Repr

inductive IdentityStage
  | intent_only
  | identities_ready_root_pending
  | complete
  deriving DecidableEq, Repr

/-- `identity-intent.json`. Its `intent_sha256` is the digest of the core. -/
structure IdentityIntent where
  core : IdentityIntentCore
  stage : IdentityStage
  deriving DecidableEq, Repr

/-- `identity-durability-receipt-v1`. -/
structure IdentityReceipt where
  operation : IdentityOperation
  intent_sha256 : Digest
  current_observed : Digest
  predecessor_receipt : Option Digest
  files : List (Path × Digest)
  directories : List (List ℕ)
  deriving DecidableEq, Repr

/-! ## What a file holds -/

/-- The content of a file, or of an object of which only the digest is kept. -/
inductive Document
  /-- `refs/CURRENT`: an identifier and a line feed. -/
  | current (revision : Digest)
  | watermark (w : Watermark)
  /-- A segment, as its text. -/
  | segment (text : List Char)
  /-- An object of an open format, in canonical text. -/
  | json (v : Json)
  | manifest (m : Manifest)
  | ref_log (r : RefLog)
  | journal (j : Journal)
  | stage (s : Stage)
  | receipt (r : Receipt)
  | cleanup_receipt (r : CleanupReceipt)
  | catalog (c : Catalog)
  | epoch (e : EpochManifest)
  | restore_proof (p : RestoreProof)
  | project_identity (p : ProjectIdentity)
  | store_identity (s : StoreIdentity)
  | identity_intent (i : IdentityIntent)
  | intent_core (i : IdentityIntentCore)
  | identity_receipt (r : IdentityReceipt)
  | attest_key (key : ℕ)
  /-- Some other content. -/
  | bytes (n : ℕ)
  /-- The first bytes of a file that was not written to its end. -/
  | torn (k : ℕ)
  -- the rest is digested, not stored
  | attempt (a : Attempt)
  | compaction_proposal (p : CompactionProposal)
  | compaction_core (c : CompactionCore)
  | delete_set (ts : List ObjectTombstone)
  | deleted_paths (ps : List Path)
  | nonce (s : String)
  | initialization (checkpoint : Json) (store_identity : Option Digest)
  deriving DecidableEq

/-- The format of a content: contents of one format have different texts. -/
def Document.kind : Document → ℕ
  | .current _ => 0
  | .watermark _ => 1
  | .segment _ => 2
  | .json _ => 3
  | .manifest _ => 4
  | .ref_log _ => 5
  | .journal _ => 6
  | .stage _ => 7
  | .receipt _ => 8
  | .cleanup_receipt _ => 8
  | .catalog _ => 10
  | .epoch _ => 11
  | .restore_proof _ => 12
  | .project_identity _ => 13
  | .store_identity _ => 14
  | .identity_intent _ => 15
  | .intent_core _ => 16
  | .identity_receipt _ => 17
  | .attest_key _ => 18
  | .bytes _ => 19
  | .torn _ => 20
  | .attempt _ => 21
  | .compaction_proposal _ => 22
  | .compaction_core _ => 23
  | .delete_set _ => 24
  | .deleted_paths _ => 25
  | .nonce _ => 26
  | .initialization _ _ => 27

end AnKla
