import AnKla.Transactions.Commit

/-!
# Creating a store

* `identity_writes`: the intent and the two identities.
* `genesis`: the first revision, and what `initialize_locked` writes.
* `bootstrap_initialize`: all of it, in an empty place.
-/

namespace AnKla

open PyJson Durable

variable (H : Crypto)

/-- What the host chooses for a new store. -/
structure InitCall where
  project_uuid : Uuid
  store_uuid : Uuid
  transaction_id : Uuid
  version : String
  project_root : String

namespace InitCall

variable (i : InitCall)

/-! ## Identity -/

def project : ProjectIdentity := ⟨i.project_uuid, i.version⟩

def store : StoreIdentity :=
  ⟨i.store_uuid, i.project_uuid, H.digest (.project_identity i.project), i.project_root, i.version⟩

def identity : Digest := H.digest (.store_identity (i.store H))

/-- The core of the intent. -/
def intent_core : IdentityIntentCore where
  operation := .init
  project_identity := i.project
  store_identity := i.store H
  current_observed := none
  transaction_id := some i.transaction_id

def intent_sha256 : Digest := H.digest (.intent_core (i.intent_core H))

/-- `_publish_intent`, of an intent that is there. -/
def publish_intent (stage : IdentityStage) : List (Write Path Document Failure) :=
  [.replace .identity_intent (.identity_intent ⟨i.intent_core H, stage⟩),
    .create (.immutable_intent (i.intent_sha256 H)) (.intent_core (i.intent_core H))]

/-- The intent, then `_write_identities`. -/
def identity_writes : List (Write Path Document Failure) :=
  .create .identity_intent (.identity_intent ⟨i.intent_core H, .intent_only⟩) ::
    .create (.immutable_intent (i.intent_sha256 H)) (.intent_core (i.intent_core H)) ::
    .create (.identity (i.identity H)) (.store_identity (i.store H)) ::
    .create .store_identity (.store_identity (i.store H)) ::
    .create .project_identity (.project_identity i.project) ::
    i.publish_intent H .identities_ready_root_pending

/-! ## The first revision -/

/-- The checkpoint of a new store. -/
def checkpoint : Json := dict
  [("schema", .str "an-kla/checkpoint-v1"),
    ("revision", .int 0),
    ("goal", .null),
    ("next", .null),
    ("decisions", .arr []),
    ("blockers", .arr [])]

/-- `begin_transaction("initialize", ...)`. -/
def attempt : Attempt :=
  ⟨.init, i.transaction_id, none, H.digest (.initialization checkpoint (some (i.identity H)))⟩

/-- The first manifest. -/
def genesis : Manifest where
  schema := .v1
  revision := 0
  parent := none
  segments := .ofFn fun _ => []
  checkpoint := H.digest_json checkpoint
  transaction_id := .uuid i.transaction_id
  canonicalization := "canonical-json/v1"
  integrity_claim := "content_identity_not_truth_or_authorship"
  store_identity := some (i.identity H)
  supersedes_map := none
  features := none
  refutations_map := none
  compaction_epoch := none

def revision : Digest := H.digest (.manifest (i.genesis H))

def stage : Stage := ⟨none, i.revision H, i.attempt H, none⟩

def stage_id : Digest := H.digest (.stage (i.stage H))

def prepared_journal : Journal where
  stage := .prepared
  parent := none
  attempt := i.attempt H
  policy := none
  candidate := none
  stage_object := none
  candidate_receipt := none
  current_receipt := none
  observed_log := none
  intent_id := none
  cleanup_receipt := none

def journal (stage : JournalStage) (candidate_receipt current_receipt : Option Digest) : Journal :=
  { (i.stage H).as_journal with
    stage, candidate_receipt, current_receipt
    stage_object := some (i.stage_id H) }

def candidate_receipt : Receipt :=
  receipt_of H (i.attempt H) .candidate_data_durable (i.revision H) none
    [(.checkpoint (H.digest_json checkpoint), H.digest_json checkpoint),
      (.revision (i.revision H), i.revision H),
      (.stage i.transaction_id (i.stage_id H), i.stage_id H)]

def candidate_receipt_id : Digest := H.digest (.receipt (i.candidate_receipt H))

def current_receipt : Receipt :=
  current_receipt_of H (i.attempt H) (i.revision H) (i.candidate_receipt_id H)

/-- `initialize_locked`. -/
def root_writes : List (Write Path Document Failure) :=
  let record (j : Journal) : Write Path Document Failure :=
    .replace (.journal i.transaction_id) (.journal j)
  [record (i.prepared_journal H),
    .create (.checkpoint (H.digest_json checkpoint)) (.json checkpoint),
    .create (.revision (i.revision H)) (.manifest (i.genesis H)),
    .create (.stage i.transaction_id (i.stage_id H)) (.stage (i.stage H)),
    record (i.journal H .candidate_prepared none none)] ++
  write_receipt H (i.candidate_receipt H) ++
  [record (i.journal H .candidate_prepared (some (i.candidate_receipt_id H)) none),
    .replace .current (.current (i.revision H))] ++
  write_receipt H (i.current_receipt H) ++
  [.check fun d => ensure (read_current d = .ok (i.revision H)) (.storage "current_reread_mismatch"),
    record (i.journal H .committed (some (i.candidate_receipt_id H))
      (some (H.digest (.receipt (i.current_receipt H)))))]

/-! ## The receipt of the identity -/

/-- The files that the identity receipt protects. -/
def identity_files : List (Path × Digest) :=
  [(.immutable_intent (i.intent_sha256 H), i.intent_sha256 H),
    (.project_identity, H.digest (.project_identity i.project)),
    (.store_identity, i.identity H),
    (.identity (i.identity H), i.identity H),
    (.current, H.digest (.current (i.revision H)))]

def identity_receipt : IdentityReceipt where
  operation := .init
  intent_sha256 := i.intent_sha256 H
  current_observed := i.revision H
  predecessor_receipt := none
  files := (i.identity_files H).insertionSort fun f g => f.1 ≤ g.1
  directories := (((i.identity_files H).map fun f => f.1.dir).insertionSort (· ≤ ·)).dedup

/-- Everything that a new store is made of. -/
def writes : List (Write Path Document Failure) :=
  i.identity_writes H ++ i.root_writes H ++
    [sync_protected H (i.identity_receipt H).files,
      .create (.identity_receipt (H.digest (.identity_receipt (i.identity_receipt H))))
        (.identity_receipt (i.identity_receipt H))] ++
    i.publish_intent H .complete

end InitCall

/-- `bootstrap_initialize(store)`, in an empty place and when nothing goes wrong. -/
def bootstrap_initialize (i : InitCall) : Disk × Progress Failure :=
  perform (storage H) (i.writes H) none ∅

end AnKla
