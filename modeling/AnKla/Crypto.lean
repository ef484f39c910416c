import AnKla.Objects

/-!
# Ideal hashing

What the program takes from its host: a digest of contents, a message
authentication code, the sizes of files. The digest is ideal in two ways.

* `Crypto.injective`: contents of one format with one digest are equal.
* `Crypto.rank_lt`: no content mentions its own digest, directly or through
  the objects it mentions: the mentioned digests are of lower rank.
-/

namespace AnKla

open PyJson

/-! ## The digests a content mentions -/

mutual

/-- The digests written in the strings of a JSON value. -/
def idents : Json → List Digest
  | .str s => (bare_digest s).toList
  | .arr xs => identsList xs
  | .obj kvs => identsItems kvs
  | _ => []

def identsList : List Json → List Digest
  | [] => []
  | x :: xs => idents x ++ identsList xs

def identsItems : List (String × Json) → List Digest
  | [] => []
  | (_, x) :: kvs => idents x ++ identsItems kvs

end

def PolicyMetadata.value : PolicyMetadata → Json
  | .write_policy v | .refute_policy v | .compaction_policy v => v

def Attempt.mentions (a : Attempt) : List Digest := a.fingerprint :: a.base_revision.toList

def EpochLink.mentions (l : EpochLink) : List Digest :=
  [l.source_revision, l.export_manifest_sha256, l.tombstone_catalog, l.epoch_manifest]

def Manifest.mentions (m : Manifest) : List Digest :=
  m.parent.toList ++ m.segments.facts ++ m.segments.events ++ m.segments.episodes ++
    [m.checkpoint] ++ m.store_identity.toList ++ m.refutations.map (·.refutation_id) ++
    (m.compaction_epoch.map EpochLink.mentions).getD []

def RefLog.mentions (r : RefLog) : List Digest :=
  match r.kind with
  | .intent => [r.parent, r.candidate]
  | .observed_commit i => [r.parent, r.candidate, i]

def Stage.mentions (s : Stage) : List Digest :=
  s.candidate :: s.parent.toList ++ s.attempt.mentions

def Journal.mentions (j : Journal) : List Digest :=
  j.parent.toList ++ j.attempt.mentions ++ j.candidate.toList ++ j.stage_object.toList ++
    j.candidate_receipt.toList ++ j.current_receipt.toList ++ j.observed_log.toList ++
    j.intent_id.toList ++ j.cleanup_receipt.toList

def fileMentions (files : List (Path × Digest)) : List Digest :=
  files.flatMap fun f => f.2 :: f.1.digests

def Receipt.mentions (r : Receipt) : List Digest :=
  r.candidate_revision :: r.predecessor_receipt.toList ++ fileMentions r.files

def tombstoneMentions (ts : List ObjectTombstone) : List Digest :=
  ts.flatMap fun t => t.content_sha256 :: t.path.digests

def Catalog.mentions (c : Catalog) : List Digest :=
  [c.source_revision, c.export_manifest_sha256, c.delete_set_sha256] ++
    c.archived_revisions.map (·.revision) ++ tombstoneMentions c.object_tombstones ++
    c.previous_catalogs.map (·.catalog_sha256)

def EpochManifest.mentions (e : EpochManifest) : List Digest :=
  [e.base_revision, e.proposal_sha256, e.export_manifest_sha256, e.restore_proof,
    e.tombstone_catalog, e.delete_set_sha256, e.compaction_policy]

/-- The digests a content mentions. -/
def Document.mentions : Document → List Digest
  | .current r => [r]
  | .json v => idents v
  | .manifest m => m.mentions
  | .ref_log r => r.mentions
  | .journal j => j.mentions
  | .stage s => s.mentions
  | .receipt r => r.mentions
  | .catalog c => c.mentions
  | .epoch e => e.mentions
  | .attempt a => a.mentions
  | .delete_set ts => tombstoneMentions ts
  | _ => []

/-! ## The host -/

/-- The host's hashing, message authentication and file sizes. -/
structure Crypto where
  /-- `digest_bytes` of a file, `digest_json` of a value. -/
  digest : Document → Digest
  /-- No two contents of one format collide. -/
  injective : ∀ {c c'}, c.kind = c'.kind → digest c = digest c' → c = c'
  /-- How deep a digest is in the order of mention. -/
  rank : Digest → ℕ
  /-- A content is hashed after what it mentions. -/
  rank_lt : ∀ {c d}, d ∈ c.mentions → rank d < rank (digest c)
  /-- The size of a file in bytes. -/
  size : Document → ℕ
  /-- `_sign(key, value)`: the code of a value under a key, with its prefix. -/
  sign : ℕ → Json → String

namespace Crypto

variable (H : Crypto)

/-- `digest_json(value)`. -/
def digest_json (v : Json) : Digest := H.digest (.json v)

/-- `digest_json(value)` as a JSON string. -/
def json_ident (v : Json) : Json := .str (ident (H.digest_json v))

variable {H}

theorem digest_json_inj {v w : Json} (h : H.digest_json v = H.digest_json w) : v = w := by
  have hk : (Document.json v).kind = (Document.json w).kind := rfl
  have := H.injective hk h
  injection this

theorem json_ident_inj {v w : Json} (h : H.json_ident v = H.json_ident w) : v = w := by
  simp only [json_ident, Json.str.injEq] at h
  exact digest_json_inj (ident_injective h)

theorem manifest_inj {m n : Manifest} (h : H.digest (.manifest m) = H.digest (.manifest n)) :
    m = n := by
  have hk : (Document.manifest m).kind = (Document.manifest n).kind := rfl
  have := H.injective hk h
  injection this

/-- The execution fingerprint of an attempt. -/
def execution_fingerprint (H : Crypto) (a : Attempt) : Digest := H.digest (.attempt a)

end Crypto

end AnKla
