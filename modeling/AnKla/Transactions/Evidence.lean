import AnKla.Compaction.Contracts

/-!
# Evidence of a transaction

What a transaction leaves beside its candidate, read back.

* `journal`, `manifest_candidates`, `stage_attempts`: what a transaction id has
  been used for.
* `stage_evidence`: the one stage object of a candidate.
* `required_candidate_files`: the files that the candidate receipt protects.
* `validate_receipt_evidence`: a receipt, against the files it protects.
-/

namespace AnKla

open PyJson Durable

/-! ## Attempts -/

/-- `begin_transaction` of an operation on a base revision. -/
def begin_transaction (operation : Operation) (transaction_id : Uuid) (base_revision : Digest)
    (fingerprint : Digest) : Attempt :=
  ⟨operation, transaction_id, some base_revision, fingerprint⟩

variable (H : Crypto)

/-! ## Discovery -/

/-- `_journal(store, txid)`: missing, corrupt or readable. -/
def journal (d : Disk) (txid : Uuid) : Option (Option Journal) :=
  (d.read (.journal txid)).map fun
    | .journal j => some j
    | _ => none

/-- `_manifest_candidates(store, txid)`. -/
def manifest_candidates (d : Disk) (txid : Uuid) : List Digest :=
  (revisions.listing d).filter fun id =>
    match read_manifest H d id with
    | .ok m => m.transaction_id = .uuid txid
    | .error _ => false

/-- `_stage_evidence(store, txid, candidate)`: the stage of a candidate, unless
    there is none or more than one. -/
def stage_evidence (d : Disk) (txid : Uuid) (candidate : Digest) : Option Stage :=
  let found := (stages txid).listing d |>.filterMap fun id =>
    match read_stage H d txid id with
    | .ok s => if s.candidate = candidate ∧ s.attempt.transaction_id = txid then some s else none
    | .error _ => none
  match found with
  | [s] => some s
  | _ => none

/-- `_stage_attempts(store, txid)`: a stage that cannot be read is an error. -/
def stage_attempts (d : Disk) (txid : Uuid) : Except Failure (List Attempt) :=
  (stages txid).listing d |>.mapM fun id =>
    match read_stage H d txid id with
    | .error _ => .error (.transaction "transaction_evidence_missing_or_invalid")
    | .ok s =>
      if s.attempt.transaction_id ≠ txid then .error (.transaction "transaction_binding_conflict")
      else .ok s.attempt

/-- `_receipt_ids(store, txid)`. -/
def receipt_ids (d : Disk) (txid : Uuid) : List Digest := (receipts txid).listing d

/-! ## Files that a candidate needs -/

/-- The stage that the journal of a transaction names. -/
def named_stage (d : Disk) (txid : Uuid) : Option Digest :=
  (journal d txid).join.bind (·.stage_object)

/-- `_exact_stage_path`: the stage that the journal names, or the only one. -/
def exact_stage_path (d : Disk) (txid : Uuid) (candidate : Digest) (attempt : Attempt) :
    Except Failure Digest :=
  let candidates := match named_stage d txid with
    | some id => [id]
    | none => (stages txid).listing d
  let found := candidates.filter fun id =>
    match read_stage H d txid id with
    | .ok s => s.candidate = candidate && s.attempt = attempt
    | .error _ => false
  match found with
  | [id] => .ok id
  | _ => .error (.value "candidate_stage_missing_or_ambiguous")

/-- `_exact_intent_path`: the only intent entry of the candidate. -/
def exact_intent_path (d : Disk) (txid : Uuid) (candidate : Digest) (parent : Option Digest) :
    Except Failure Digest :=
  let found := (ref_logs.listing d).filter fun id =>
    match read_ref_log H d id with
    | .ok r => r.kind = .intent && r.transaction_id = txid && r.candidate = candidate &&
        some r.parent = parent
    | .error _ => false
  match found with
  | [id] => .ok id
  | _ => .error (.value "transaction_intent_missing_or_ambiguous")

/-- The digest of a field of a refutation. -/
def refutation_digest (refutation : Json) (key : String) : Except Failure Digest :=
  match digest_of (item refutation key) with
  | some d => .ok d
  | none => .error (.value key)

/-- The `refute_policy` metadata of a refutation. -/
def refute_metadata (refutation : Json) (refutation_id : Digest) : Json := dict
  [("schema", .str "an-kla/refute-policy-transaction-v1"),
    ("proposal_sha256", item refutation "proposal_sha256"),
    ("authority_claim_sha256", item refutation "authority_claim_sha256"),
    ("authority_attestation_id", item refutation "authority_attestation_id"),
    ("policy_fingerprint", item refutation "policy_fingerprint"),
    ("decision_sha256", item refutation "decision_sha256"),
    ("evidence_sha256", item refutation "evidence_sha256"),
    ("plan_fingerprint", item refutation "plan_fingerprint"),
    ("decision", .str "refute"),
    ("reason", item refutation "reason"),
    ("target", dict [("stream", item refutation "stream"),
      ("record_sha256", item refutation "target_record_sha256")]),
    ("refutation_id", .str (ident refutation_id))]

/-- The fields of a refutation that its metadata repeats. -/
def refutation_keys : List String :=
  ["proposal_sha256", "authority_claim_sha256", "authority_attestation_id", "policy_fingerprint",
    "decision_sha256", "evidence_sha256", "plan_fingerprint", "reason", "stream",
    "target_record_sha256"]

/-- The segments of a manifest that its parent does not have. -/
def new_segments (m : Manifest) (parent : Option Manifest) (stream : Stream) : List Digest :=
  (m.segments.get stream).filter fun id =>
    match parent with
    | some p => id ∉ p.segments.get stream
    | none => true

/-- The refutations of a manifest that its parent does not have. -/
def new_refutations (m : Manifest) (parent : Option Manifest) : List RefutationEntry :=
  m.refutations.filter fun e =>
    match parent with
    | some p => e.refutation_id ∉ p.refutations.map (·.refutation_id)
    | none => true

/-- The files of a refutation: itself, its claim and its attestation. -/
def refutation_files (d : Disk) (entry : RefutationEntry) : Except Failure (List Path) := do
  let refutation ← read_refutation H d entry.refutation_id
  let claim_id ← refutation_digest refutation "authority_claim_sha256"
  let attestation_id ← refutation_digest refutation "authority_attestation_id"
  return [.refutation entry.refutation_id, .authority_claim claim_id,
    .authority_attestation attestation_id]

/-- What a candidate of an operation needs beside its own files. -/
def operation_files (d : Disk) (txid : Uuid) (m : Manifest) (parent : Option Manifest)
    (stage : Stage) (attempt : Attempt) : Except Failure (List Path) :=
  match attempt.operation with
  | .compact => do
    let invalid := Failure.value "compaction_transaction_binding_invalid"
    ensure (m.schema = .v3 && m.parent = none) invalid
    match m.compaction_epoch with
    | none => .error (.value "compaction_epoch")
    | some link =>
      let epoch ← read_epoch H d link.epoch_manifest
      match validate_policy_config stage.policy with
      | .error _ => .error invalid
      | .ok policy =>
        ensure (epoch.compaction_policy = H.digest_json policy && epoch.transaction_id = txid &&
          some epoch.base_revision = attempt.base_revision) invalid
        return [.restore_proof epoch.restore_proof, .catalog epoch.tombstone_catalog,
          .epoch link.epoch_manifest]
  | .refute => do
    match new_refutations m parent with
    | [entry] =>
      let refutation ← read_refutation H d entry.refutation_id
      ensure (refutation_keys.all (refutation.keys.contains ·)) (.value "refutation_key_missing")
      ensure (stage.policy = some (.refute_policy (refute_metadata refutation entry.refutation_id)) &&
        item refutation "plan_fingerprint" = .str (ident attempt.fingerprint) &&
        item refutation "target_revision" = opt_ident m.parent)
        (.value "refute_transaction_binding_invalid")
      return []
    | _ => .error (.value "refute_manifest_delta_invalid")
  | _ => do
    let clean := match stage.policy with
      | some (.refute_policy _) | some (.compaction_policy _) => false
      | _ => true
    ensure (new_refutations m parent = [] && clean) (.value "refute_transaction_binding_invalid")
    return []

/-- The parent of a manifest, if it has one. -/
def read_parent (d : Disk) (m : Manifest) : Except Failure (Option Manifest) :=
  match m.parent with
  | none => .ok none
  | some p => (read_manifest H d p).map some

/-- The intent entry of a candidate, which only an init does without. -/
def intent_files (d : Disk) (txid : Uuid) (candidate : Digest) (m : Manifest) (attempt : Attempt) :
    Except Failure (List Path) :=
  if attempt.operation = .init then .ok []
  else (exact_intent_path H d txid candidate
    (if attempt.operation = .compact then attempt.base_revision else m.parent)).map
      fun id => [.ref_log id]

/-- `required_candidate_files`, as a list. -/
def required_candidate_files (d : Disk) (txid : Uuid) (candidate : Digest) (attempt : Attempt) :
    Except Failure (List Path) := do
  let m ← read_manifest H d candidate
  let parent ← read_parent H d m
  let segments := STREAMS.flatMap fun s => (new_segments m parent s).map (Path.segment s)
  let refutations ← (new_refutations m parent).mapM (refutation_files H d)
  let stage_id ← exact_stage_path H d txid candidate attempt
  let stage ← read_stage H d txid stage_id
  let extra ← operation_files H d txid m parent stage attempt
  let intent ← intent_files H d txid candidate m attempt
  return [.revision candidate, .checkpoint m.checkpoint] ++ segments ++ refutations.flatten ++
    [.stage txid stage_id] ++ extra ++ intent

/-! ## Receipts -/

/-- What stands between a candidate and CURRENT. -/
inductive Relation
  | current
  | ancestor
  | orphan
  | unknown
  deriving DecidableEq, Repr

/-- `relation in {"current", "ancestor"}`. -/
def Relation.authoritative : Relation → Bool
  | .current | .ancestor => true
  | _ => false

/-- One protected file: it is there, with the content the receipt says. CURRENT
    may have moved on. -/
def protected_file_ok (d : Disk) (relation : Relation) (file : Path × Digest) :
    Except Failure Unit :=
  match d.read file.1 with
  | none => .error (.storage "file_missing")
  | some c => ensure (file.1 = .current && relation = .ancestor || H.digest c = file.2)
      (.value "receipt_content_hash_mismatch")

/-- The links a receipt of a kind has. -/
def receipt_links_ok (r : Receipt) : Except Failure Unit :=
  match r.kind with
  | .candidate_data_durable => ensure (r.predecessor_receipt = none && r.repair_for_kind = none)
      (.value "invalid_candidate_receipt_link")
  | .current_durable => ensure (r.predecessor_receipt ≠ none && r.repair_for_kind = none)
      (.value "invalid_current_receipt_link")
  | .repair => ensure (r.repair_for_kind = some .candidate_data_durable ||
      r.repair_for_kind = some .current_durable) (.value "invalid_repair_receipt_link")

/-- The files that a receipt must protect. -/
def expected_files (d : Disk) (txid : Uuid) (attempt : Attempt) (candidate : Digest)
    (r : Receipt) : Except Failure (List Path) :=
  let target := if r.kind = .repair then r.repair_for_kind else some r.kind
  if target = some .candidate_data_durable then
    required_candidate_files H d txid candidate attempt
  else if r.kind = .repair then
    (· ++ [.current]) <$> required_candidate_files H d txid candidate attempt
  else .ok [.current]

/-- The two lists hold the same elements. -/
def same_set {α : Type*} [DecidableEq α] (xs ys : List α) : Bool :=
  xs.all (· ∈ ys) && ys.all (· ∈ xs)

/-- `validate_receipt_evidence`. A protected directory exists when a protected
    file lies in it. -/
def validate_receipt_evidence (d : Disk) (txid : Uuid) (identifier : Digest) (attempt : Attempt)
    (candidate : Digest) (kind : ReceiptKind) (relation : Relation) : Except Failure Receipt := do
  let r ← read_receipt H d txid identifier
  ensure (r.kind = kind && r.transaction_id = txid &&
    r.execution_fingerprint = H.execution_fingerprint attempt &&
    r.candidate_revision = candidate) (.value "invalid_receipt_binding")
  receipt_links_ok r
  ensure (r.files ≠ [] || r.directories ≠ []) (.value "invalid_receipt_protected")
  r.files.forM (protected_file_ok H d relation)
  ensure (decide ((r.files.map Prod.fst).Pairwise (· < ·)) &&
    decide (r.directories.Pairwise (· < ·))) (.value "receipt_protected_not_sorted")
  let expected ← expected_files H d txid attempt candidate r
  ensure (same_set (r.files.map Prod.fst) expected) (.value "receipt_required_files_mismatch")
  ensure (same_set r.directories (expected.map Path.dir))
    (.value "receipt_required_directories_mismatch")
  return r

/-- `observed_log_complete`. -/
def observed_log_complete (d : Disk) (j : Journal) (txid : Uuid) (candidate : Digest) : Bool :=
  match j.observed_log with
  | none => false
  | some id =>
    match read_ref_log H d id with
    | .ok ⟨.observed_commit intent_id, t, parent, c⟩ =>
      match read_ref_log H d intent_id with
      | .ok ⟨.intent, t', parent', c'⟩ =>
        t = txid && c = candidate && some parent = j.parent &&
          (t' = txid && c' = candidate && some parent' = j.parent)
      | _ => false
    | _ => false

end AnKla
