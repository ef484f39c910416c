import AnKla.Identity

/-!
# What became of a transaction

* `candidate_relation`: where a candidate stands to CURRENT.
* `make_outcome`: the verdict on a transaction, from what was observed of it.
* `inspect_transaction`: the verdict, from the files alone; `store_inspect_transaction`
  knows of archived transactions.
* `reconcile_attempt`: whether an id has been used, and with which attempt.
-/

namespace AnKla

open PyJson Durable

/-! ## Outcomes -/

inductive OutcomeState
  | outcome_unknown
  | durability_incomplete
  | committed_audit_incomplete
  | committed
  | not_committed
  deriving DecidableEq, Repr

inductive AuthorityState
  | candidate_authoritative
  | parent_lineage_authoritative
  | unknown
  deriving DecidableEq, Repr

inductive AuditState
  | prepared
  | incomplete
  | complete
  deriving DecidableEq, Repr

inductive DurabilityState
  | complete
  | incomplete
  | unknown
  deriving DecidableEq, Repr

/-- `commit-outcome-v2`. -/
structure Outcome where
  transaction_id : Uuid
  parent_revision : Option Digest
  candidate_revision : Option Digest
  current_observed : Option Digest
  candidate_relation : Relation
  state : OutcomeState
  committed : Option Bool
  recorded : Option Bool
  authority_state : AuthorityState
  audit_state : AuditState
  durability_state : DurabilityState
  operation_error_code : Option String
  warnings : List String
  deriving DecidableEq, Repr

/-- `make_outcome`. -/
def make_outcome (transaction_id : Uuid) (parent_revision candidate_revision
    current_observed : Option Digest) (relation : Relation) (recorded : Option Bool)
    (audit_state : AuditState) (durability_state : DurabilityState)
    (operation_error_code : Option String) (warnings : List String) : Outcome :=
  let authority := if relation.authoritative then AuthorityState.candidate_authoritative
    else if current_observed = parent_revision ∧ (relation = .orphan ∨ relation = .unknown) then
      .parent_lineage_authoritative
    else .unknown
  let committed := match authority with
    | .candidate_authoritative => some true
    | .parent_lineage_authoritative => some false
    | .unknown => none
  { transaction_id, parent_revision, candidate_revision, current_observed, recorded, audit_state,
    durability_state, operation_error_code, committed
    candidate_relation := relation
    state := if authority = .unknown then .outcome_unknown
      else if durability_state = .incomplete then .durability_incomplete
      else if committed = some true ∧ audit_state ≠ .complete then .committed_audit_incomplete
      else if committed = some true then .committed
      else .not_committed
    authority_state := authority
    warnings := sorted_set warnings }

/-- An outcome that says nothing but why. -/
def unknown_outcome (transaction_id : Uuid) (current : Option Digest) (recorded : Option Bool)
    (code : String) : Outcome where
  transaction_id := transaction_id
  parent_revision := none
  candidate_revision := none
  current_observed := current
  candidate_relation := .unknown
  state := .outcome_unknown
  committed := none
  recorded := recorded
  authority_state := .unknown
  audit_state := .incomplete
  durability_state := .unknown
  operation_error_code := some code
  warnings := []

variable (H : Crypto)

/-! ## Candidates -/

/-- The relation of a candidate to a head that is another revision. The chain of
    the head is audited first. -/
def relation_to_head (d : Disk) (candidate current : Digest) : Except Failure Relation := do
  let head ← read_manifest H d current
  validate_manifest .value head
  validate_revision_chain H .value none d current head
  let walk ← walk_revisions H d current
  let root_schema := walk.getLast?.map (·.2.schema)
  if head.schema = .v3 ∧ root_schema ≠ some .v3 then return .unknown
  else if walk.any (·.1 = candidate) then return .ancestor
  else return .orphan

/-- `candidate_relation(store, candidate, current)`. -/
def candidate_relation (d : Disk) (candidate current : Option Digest) : Relation :=
  match candidate, current with
  | some candidate, some current =>
    if candidate = current then .current
    else match relation_to_head H d candidate current with
      | .ok r => r
      | .error _ => .unknown
  | _, _ => .unknown

/-- `_valid_receipt`. -/
def valid_receipt (d : Disk) (txid : Uuid) (id : Option Digest) (attempt : Attempt)
    (candidate : Option Digest) (kind : ReceiptKind) : Option Receipt :=
  match id, candidate, read_current d with
  | some id, some candidate, .ok current =>
    (validate_receipt_evidence H d txid id attempt candidate kind
      (candidate_relation H d (some candidate) (some current))).toOption
  | _, _, _ => none

/-! ## Inspection -/

/-- A stage, read as the journal it once was. -/
def Stage.as_journal (s : Stage) : Journal where
  stage := .candidate_prepared
  parent := s.parent
  attempt := s.attempt
  policy := s.policy
  candidate := some s.candidate
  stage_object := none
  candidate_receipt := none
  current_receipt := none
  observed_log := none
  intent_id := none
  cleanup_receipt := none

/-- A refutation whose candidate exists: its stage must hold the policy metadata that
    its journal holds, unless it can be resumed before its stage. -/
def check_refute_stage (d : Disk) (txid : Uuid) (candidate : Digest) (attempt : Attempt)
    (readable : Option Journal) (current : Option Digest) : Except Failure Unit :=
  let mismatch := Failure.transaction "refute_content_hash_mismatch"
  match stage_evidence H d txid candidate with
  | none => ensure (readable.any fun j => j.stage = .prepared && current = attempt.base_revision)
      mismatch
  | some s => ensure ((match s.policy with
      | some (.refute_policy _) => true
      | _ => false) && readable.all fun j => j.policy = s.policy) mismatch

/-- The first receipt of a kind, the journal's own before the listed ones. -/
def first_receipt (d : Disk) (txid : Uuid) (named : Option Digest) (attempt : Attempt)
    (candidate : Option Digest) (kind : ReceiptKind) : Option Receipt :=
  (named :: (receipt_ids d txid).map some).findSome? fun id =>
    valid_receipt H d txid id attempt candidate kind

/-- The last repair receipt, looked for when one of the other two is not named. -/
def repair_receipt (d : Disk) (txid : Uuid) (j : Journal) (candidate : Option Digest) :
    Option Receipt :=
  let named (id : Option Digest) (kind : ReceiptKind) :=
    valid_receipt H d txid id j.attempt candidate kind
  if (named j.candidate_receipt .candidate_data_durable).isSome ∧
      (named j.current_receipt .current_durable).isSome then none
  else ((receipt_ids d txid).filterMap fun id => named (some id) .repair).getLast?

/-- Whether the receipts of a transaction are complete, by where its candidate stands. -/
def durability_of (d : Disk) (txid : Uuid) (j : Journal) (candidate : Option Digest)
    (relation : Relation) : DurabilityState :=
  let candidate_receipt := first_receipt H d txid j.candidate_receipt j.attempt candidate
    .candidate_data_durable
  let current_receipt := (first_receipt H d txid j.current_receipt j.attempt candidate
    .current_durable).filter fun r =>
      candidate_receipt.any fun c => r.predecessor_receipt = some (H.digest (.receipt c))
  let repaired := (repair_receipt H d txid j candidate).bind (·.repair_for_kind)
  let complete := if relation.authoritative then
      current_receipt.isSome || repaired = some .current_durable
    else candidate_receipt.isSome || repaired = some .candidate_data_durable
  if complete then .complete else .incomplete

/-- `read_current`, or nothing. -/
def current? (d : Disk) : Option Digest := (read_current d).toOption

/-- The journal of a transaction, or the stage of its only candidate. -/
def recovered_journal (d : Disk) (txid : Uuid) (candidates : List Digest) : Option Journal :=
  match journal d txid, candidates with
  | some (some j), _ => some j
  | _, [c] => (stage_evidence H d txid c).map Stage.as_journal
  | _, _ => none

/-- The journal of a transaction, if it can be read. -/
def readable_journal (d : Disk) (txid : Uuid) : Option Journal := (journal d txid).join

/-- `inspect_transaction(store, transaction_id)`. -/
def inspect_transaction (d : Disk) (txid : Uuid) : Except Failure Outcome :=
  let candidates := manifest_candidates H d txid
  let current := current? d
  if 1 < candidates.length then
    .ok (unknown_outcome txid current (if (readable_journal d txid).isSome then some true else none)
      "transaction_candidate_ambiguous")
  else match recovered_journal H d txid candidates with
    | none => .ok (unknown_outcome txid current none "transaction_evidence_missing_or_invalid")
    | some j => do
      let candidate := j.candidate.or candidates.head?
      match candidate with
      | some c =>
        if j.attempt.operation = .refute then
          check_refute_stage H d txid c j.attempt (readable_journal d txid) current
        else pure ()
      | none => pure ()
      let relation := candidate_relation H d candidate current
      let logged := j.attempt.operation = .init ∨
        candidate.any (observed_log_complete H d j txid) = true
      let complete := (readable_journal d txid).any (·.stage = .committed) ∧ logged
      return make_outcome txid (j.parent.or j.attempt.base_revision) candidate current relation
        (some true) (if complete then .complete else .incomplete)
        (durability_of H d txid j candidate relation)
        (if complete then none else some "audit_incomplete") []

/-! ## Archived transactions -/

/-- `archived_transaction_link_under_gate`: the catalog whose compaction deleted the
    journal of a transaction. -/
def archived_transaction_link (d : Disk) (txid : Uuid) :
    Except Failure (Option (Digest × Catalog)) := do
  let current ← read_current d
  let m ← read_manifest H d current
  match m.schema, m.compaction_epoch with
  | .v3, some link => do
    let catalogs ← validate_catalog_chain H d link.tombstone_catalog
    return catalogs.find? fun x => x.2.object_tombstones.any fun t => t.path = .journal txid
  | .v3, none => .error (.value "compaction_epoch")
  | _, _ => return none

/-- `store.inspect_transaction(transaction_id)`: nothing for an archived one. -/
def store_inspect_transaction (d : Disk) (txid : Uuid) : Except Failure (Option Outcome) := do
  let outcome ← inspect_transaction H d txid
  if outcome.state = .outcome_unknown ∧
      outcome.operation_error_code = some "transaction_evidence_missing_or_invalid" then do
    let archived ← archived_transaction_link H d txid
    return if archived.isSome then none else some outcome
  else return some outcome

/-! ## Bindings -/

/-- The attempts that a transaction id is bound to, all of them equal to the one at
    hand; the other errors of `commit_locked` before it reads the base. -/
def check_binding (d : Disk) (attempt : Attempt) : Except Failure (List Digest × List Attempt) := do
  let txid := attempt.transaction_id
  let existing := journal d txid
  let candidates := manifest_candidates H d txid
  ensure (decide (candidates.length ≤ 1)) (.transaction "transaction_candidate_ambiguous")
  let staged ← stage_attempts H d txid
  let attempts ← match existing with
    | none => pure staged
    | some (some j) => do
      ensure (j.attempt = attempt) (.transaction "transaction_binding_conflict")
      pure (staged ++ [j.attempt])
    | some none => do
      ensure (staged ≠ [] || candidates ≠ []) (.transaction "transaction_evidence_missing_or_invalid")
      pure staged
  ensure (attempts.all (· = attempt)) (.transaction "transaction_binding_conflict")
  ensure (candidates = [] || attempts ≠ []) (.transaction "transaction_evidence_missing_or_invalid")
  return (candidates, attempts)

/-- `reconcile_attempt(store, attempt)`: the outcome, if the id has left any evidence. -/
def reconcile_attempt (d : Disk) (attempt : Attempt) : Except Failure (Option Outcome) := do
  let (candidates, attempts) ← check_binding H d attempt
  if (journal d attempt.transaction_id).isSome ∨ attempts ≠ [] ∨ candidates ≠ [] then
    some <$> inspect_transaction H d attempt.transaction_id
  else return none

end AnKla
