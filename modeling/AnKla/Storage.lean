import AnKla.Crypto
import AnKla.Durable.Write

/-!
# Reading and writing objects

The primitives the rest of the program is built from.

* `Failure`: the errors, with the codes of the source.
* `read_json_object`: a content-addressed object is read back only under the
  digest of what the file holds.
* `storage`: immutable writes; a file of other content is moved to the
  quarantine, which is bounded.
* the directories that are listed.
-/

namespace AnKla

open PyJson Durable

/-- The errors of the program. -/
inductive Failure
  /-- `IntegrityError`. -/
  | integrity (code : String)
  /-- `StoreError`. -/
  | store (code : String)
  /-- `TransactionError`. -/
  | transaction (code : String)
  /-- `IdentityError`. -/
  | identity (code : String)
  /-- `WritePolicyError`. -/
  | write_policy (code : String) (detail : String)
  /-- `AttestError`, a `WritePolicyError`. -/
  | attest (code : String) (detail : String)
  /-- `CheckpointPolicyError`. -/
  | checkpoint_policy (code : String) (detail : String)
  /-- `RefutePolicyError`. -/
  | refute_policy (code : String) (detail : String)
  /-- `CompactionError`. -/
  | compaction (code : String)
  /-- `ValueError` and the errors of a missing key or a wrong type. -/
  | value (code : String)
  /-- `OSError`. -/
  | storage (code : String)
  deriving DecidableEq, Repr

/-- The files of a store. -/
abbrev Disk := Durable.Disk Path Document

variable (H : Crypto)

/-! ## Objects -/

/-- `_read_json_object(kind, identifier)`: the object of a file whose digest is
    the identifier it is filed under. -/
def read_json_object {α : Type*} (d : Disk) (kind : String) (path : Path) (identifier : Digest)
    (get : Document → Option α) : Except Failure α :=
  match d.read path with
  | none => .error (.integrity ("object_missing:" ++ kind))
  | some c =>
    if H.digest c ≠ identifier then .error (.integrity ("object_hash_mismatch:" ++ kind))
    else match get c with
      | none => .error (.integrity ("object_json_invalid:" ++ kind))
      | some x => .ok x

theorem read_json_object_ok {H : Crypto} {α : Type*} {d : Disk} {kind : String} {path : Path}
    {identifier : Digest} {get : Document → Option α} {x : α} :
    read_json_object H d kind path identifier get = .ok x ↔
      ∃ c, d.read path = some c ∧ H.digest c = identifier ∧ get c = some x := by
  rw [read_json_object]
  split
  · next h => simp [h]
  · next c h =>
    split_ifs with hd
    · simp [h, hd]
    · rw [not_not] at hd
      split
      · next hg => simp [h, hg]
      · next y hg => simp [h, hg, hd]

namespace Document

def json? : Document → Option Json
  | .json v => some v
  | _ => none

def manifest? : Document → Option Manifest
  | .manifest m => some m
  | _ => none

def stage? : Document → Option Stage
  | .stage s => some s
  | _ => none

def ref_log? : Document → Option RefLog
  | .ref_log r => some r
  | _ => none

def receipt? : Document → Option Receipt
  | .receipt r => some r
  | _ => none

def catalog? : Document → Option Catalog
  | .catalog c => some c
  | _ => none

def epoch? : Document → Option EpochManifest
  | .epoch e => some e
  | _ => none

def restore_proof? : Document → Option RestoreProof
  | .restore_proof p => some p
  | _ => none

def store_identity? : Document → Option StoreIdentity
  | .store_identity s => some s
  | _ => none

end Document

def read_manifest (d : Disk) (id : Digest) : Except Failure Manifest :=
  read_json_object H d "revisions" (.revision id) id Document.manifest?

def read_checkpoint (d : Disk) (id : Digest) : Except Failure Json :=
  read_json_object H d "checkpoints" (.checkpoint id) id Document.json?

def read_stage (d : Disk) (txid : Uuid) (id : Digest) : Except Failure Stage :=
  read_json_object H d "transactions/stages" (.stage txid id) id Document.stage?

def read_receipt (d : Disk) (txid : Uuid) (id : Digest) : Except Failure Receipt :=
  read_json_object H d "transactions/receipts" (.receipt txid id) id Document.receipt?

def read_ref_log (d : Disk) (id : Digest) : Except Failure RefLog :=
  read_json_object H d "refs/ref-log" (.ref_log id) id Document.ref_log?

def read_refutation (d : Disk) (id : Digest) : Except Failure Json :=
  read_json_object H d "refutations" (.refutation id) id Document.json?

def read_authority_claim (d : Disk) (id : Digest) : Except Failure Json :=
  read_json_object H d "authority-claims" (.authority_claim id) id Document.json?

def read_authority_attestation (d : Disk) (id : Digest) : Except Failure Json :=
  read_json_object H d "authority-attestations" (.authority_attestation id) id Document.json?

def read_identity (d : Disk) (id : Digest) : Except Failure StoreIdentity :=
  read_json_object H d "identities" (.identity id) id Document.store_identity?

def read_catalog (d : Disk) (id : Digest) : Except Failure Catalog :=
  read_json_object H d "compaction/catalogs" (.catalog id) id Document.catalog?

def read_epoch (d : Disk) (id : Digest) : Except Failure EpochManifest :=
  read_json_object H d "compaction/epochs" (.epoch id) id Document.epoch?

def read_restore_proof (d : Disk) (id : Digest) : Except Failure RestoreProof :=
  read_json_object H d "compaction/restore-proofs" (.restore_proof id) id Document.restore_proof?

/-- `read_current`: the revision that `refs/CURRENT` names. -/
def read_current (d : Disk) : Except Failure Digest :=
  match d.read .current with
  | none => .error (.integrity "current_missing")
  | some (.current r) => .ok r
  | some _ => .error (.integrity "current_invalid_syntax")

theorem read_current_ok {d : Disk} {r : Digest} :
    read_current d = .ok r ↔ d.read .current = some (.current r) := by
  rw [read_current]
  cases h : d.read .current with
  | none => simp
  | some c => cases c <;> simp

/-! ## Directories -/

def revisions : Dir Path Digest where
  path := .revision
  entry
    | .revision d => some d
    | _ => none
  entry_iff {p x} := by cases p <;> simp

def ref_logs : Dir Path Digest where
  path := .ref_log
  entry
    | .ref_log d => some d
    | _ => none
  entry_iff {p x} := by cases p <;> simp

def stages (txid : Uuid) : Dir Path Digest where
  path := .stage txid
  entry
    | .stage t d => if t = txid then some d else none
    | _ => none
  entry_iff {p x} := by cases p <;> simp

def receipts (txid : Uuid) : Dir Path Digest where
  path := .receipt txid
  entry
    | .receipt t d => if t = txid then some d else none
    | _ => none
  entry_iff {p x} := by cases p <;> simp

def identity_receipts : Dir Path Digest where
  path := .identity_receipt
  entry
    | .identity_receipt d => some d
    | _ => none
  entry_iff {p x} := by cases p <;> simp

def quarantined : Dir Path ℕ where
  path := .quarantine
  entry
    | .quarantine n => some n
    | _ => none
  entry_iff {p x} := by cases p <;> simp

/-! ## Immutable writes -/

/-- Files and bytes the quarantine holds at most. -/
def quarantine_max_files : ℕ := 128

def quarantine_max_bytes : ℕ := 64 * 1024 * 1024

/-- The bytes of the quarantined files. -/
def quarantine_used (d : Disk) : ℕ :=
  ((quarantined.listing d).map fun n => ((d.read (.quarantine n)).map H.size).getD 0).sum

/-- A name that no quarantined file has. -/
def quarantine_fresh (d : Disk) : ℕ := (quarantined.listing d).foldr max 0 + 1

/-- `_quarantine_conflict(target)`. -/
def quarantine_conflict (d : Disk) (target : Path) : Except Failure Disk :=
  match d.read target with
  | none => .ok d
  | some c =>
    if quarantine_max_files ≤ (quarantined.listing d).length ∨
        quarantine_max_bytes < quarantine_used H d + H.size c then
      .error (.store "quarantine_quota_exceeded")
    else .ok ((d.remove target).write (.quarantine (quarantine_fresh d)) c)

theorem quarantine_fresh_spec (d : Disk) : d.read (.quarantine (quarantine_fresh d)) = none := by
  by_contra h
  have hmem : quarantine_fresh d ∈ quarantined.listing d :=
    Dir.mem_listing.2 (Option.isSome_iff_ne_none.2 h)
  have hle {l : List ℕ} {n : ℕ} (hn : n ∈ l) : n ≤ l.foldr max 0 := by
    induction l with
    | nil => cases hn
    | cons m l ih =>
      rw [List.foldr_cons]
      obtain rfl | hn := List.mem_cons.1 hn
      · exact le_max_left _ _
      · exact (ih hn).trans (le_max_right _ _)
  exact absurd (hle hmem) (by rw [quarantine_fresh]; omega)

/-- The file system, as immutable writes use it. -/
def storage : Fs Path Document Failure where
  conflict := quarantine_conflict H
  cut _ k := .torn k
  aside p := ∃ n, p = .quarantine n
  conflict_spec {d d' p} h := by
    rw [quarantine_conflict] at h
    split at h
    · next hp =>
      cases h
      exact ⟨hp, fun _ _ _ => rfl⟩
    · next c hp =>
      split_ifs at h with hq
      cases h
      have hne : p ≠ .quarantine (quarantine_fresh d) := by
        rintro rfl
        rw [quarantine_fresh_spec] at hp
        cases hp
      refine ⟨by rw [Disk.read_write_ne c hne, Disk.read_remove], fun q hqp ha => ?_⟩
      rw [Disk.read_write_ne c (fun h => ha ⟨_, h⟩), Disk.read_remove_ne hqp]

end AnKla
