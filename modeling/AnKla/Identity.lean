import AnKla.Revisions.Chain

/-!
# The identity of a store

A store belongs to a project: two identity files, an intent that created them and
receipts that they are durable. Every governed operation checks them first.

* `walk_revisions`: the revisions from one to its root, by their numbers.
* `read_binding`: the two live files and the immutable copy.
* `identity_status`: how complete they are.
* `mutation_preflight`, `assert_unchanged`: the checks around the store's lock.
-/

namespace AnKla

open PyJson Durable

variable (H : Crypto)

/-! ## Walking the revisions -/

/-- One revision of a walk, below one of a number. -/
def walk_ok (child_revision : Option ℕ) (m : Manifest) : Bool :=
  (match child_revision with
    | some r => r = m.revision + 1
    | none => true) &&
  match m.parent with
  | none => m.schema = .v1 && m.revision = 0 || m.schema = .v3 && m.revision ≠ 0
  | some _ => m.revision ≠ 0

/-- The loop of `walk_revisions`, with a bound on its steps: the revisions it
    visits, and whether it comes to a root. -/
def walk_loop (d : Disk) : ℕ → Digest → Option ℕ → List Digest → List (Digest × Manifest) × Bool
  | 0, _, _, _ => ([], false)
  | n + 1, cursor, child_revision, seen =>
    if cursor ∈ seen then ([], false)
    else match read_manifest H d cursor with
      | .error _ => ([], false)
      | .ok m =>
        if walk_ok child_revision m then
          match m.parent with
          | none => ([(cursor, m)], true)
          | some parent =>
            let rest := walk_loop d n parent (some m.revision) (cursor :: seen)
            ((cursor, m) :: rest.1, rest.2)
        else ([], false)

/-- The steps of `walk_revisions(store, current)`: the numbers fall by one. -/
def walk_steps (d : Disk) (current : Digest) : List (Digest × Manifest) × Bool :=
  match read_manifest H d current with
  | .ok m => walk_loop H d (m.revision + 1) current none []
  | .error _ => ([], false)

/-- `walk_revisions(store, current)`, read to its end. -/
def walk_revisions (d : Disk) (current : Digest) : Except Failure (List (Digest × Manifest)) :=
  if (walk_steps H d current).2 then .ok (walk_steps H d current).1
  else .error (.value "revision_transition_invalid")

/-- `_is_ancestor(store, candidate, current)`. -/
def is_ancestor (d : Disk) (candidate current : Digest) : Bool :=
  (walk_steps H d current).1.any fun x => x.1 = candidate

/-- The points of `_LineageSummary`: a revision, whether all revisions down to it
    name the identity, and whether all but it do and it names none. -/
def lineage_points (identity : Digest) : Bool → List (Digest × Manifest) →
    List (Digest × Bool × Bool)
  | _, [] => []
  | prefix_ok, (id, m) :: rest =>
    let strict := prefix_ok && m.store_identity = some identity
    (id, strict, prefix_ok && m.store_identity.isNone) :: lineage_points identity strict rest

/-- `_LineageSummary`. -/
structure Lineage where
  points : List (Digest × Bool × Bool)
  root_schema : Option RevisionSchema

/-- `_LineageSummary(store, current, identity)`. -/
def lineage_summary (d : Disk) (current identity : Digest) : Except Failure Lineage := do
  let walk ← walk_revisions H d current
  return ⟨lineage_points identity true walk, walk.getLast?.map (·.2.schema)⟩

/-- `_LineageSummary.bound(identifier, allow_legacy)`. -/
def Lineage.bound (l : Lineage) (id : Digest) (allow_legacy : Bool) : Bool :=
  match l.points.lookup id with
  | some (strict, legacy) => strict || allow_legacy && legacy
  | none => false

/-! ## Identity files -/

/-- `read_binding`, without the paths of the project. -/
structure Binding where
  project : ProjectIdentity
  store : StoreIdentity
  store_identity : Digest
  deriving DecidableEq, Repr

/-- `digest_bytes(binding["project_bytes"])`. -/
def Binding.project_digest (b : Binding) : Digest := H.digest (.project_identity b.project)

/-- `_validate_pair(project, identity)`. -/
def pair_ok (project : ProjectIdentity) (identity : StoreIdentity) : Bool :=
  identity.project_uuid = project.project_uuid &&
    identity.project_identity = H.digest (.project_identity project)

/-- `read_binding(store)`. -/
def read_binding (d : Disk) : Except Failure Binding := do
  let project ← match d.read .project_identity with
    | none => .error (.identity "project_identity_missing")
    | some (.project_identity p) => pure p
    | some _ => .error (.identity "project_identity_invalid")
  let identity ← match d.read .store_identity with
    | none => .error (.identity "store_identity_missing")
    | some (.store_identity s) => pure s
    | some _ => .error (.identity "store_identity_invalid")
  ensure (pair_ok H project identity) (.identity "project_identity_mismatch")
  let id := H.digest (.store_identity identity)
  let immutable ← read_identity H d id
  ensure (immutable = identity) (.identity "store_identity_invalid")
  return ⟨project, identity, id⟩

/-- `intent["intent_sha256"]`. -/
def IdentityIntent.sha256 (i : IdentityIntent) : Digest := H.digest (.intent_core i.core)

/-- The identity that an intent creates. -/
def IdentityIntent.identity (i : IdentityIntent) : Digest :=
  H.digest (.store_identity i.core.store_identity)

/-- `_read_intent(store)`. -/
def read_intent (d : Disk) : Except Failure (Option IdentityIntent) :=
  let conflict := Failure.identity "identity_bootstrap_conflict"
  match d.read .identity_intent with
  | none => .ok none
  | some (.identity_intent i) => do
    ensure (pair_ok H i.core.project_identity i.core.store_identity)
      (.identity "project_identity_mismatch")
    ensure (match i.core.operation with
      | .init => i.core.current_observed.isNone && i.core.transaction_id.isSome
      | .adopt => i.core.transaction_id.isNone && i.core.current_observed.isSome
      | .repair => false) conflict
    return some i
  | some _ => .error conflict

/-! ## Identity receipts -/

/-- The files that a receipt of an intent must protect. -/
def identity_files (i : IdentityIntent) : List Path :=
  [.immutable_intent (i.sha256 H), .project_identity, .store_identity, .identity (i.identity H),
    .current]

/-- One protected file of an identity receipt. -/
def identity_file_ok (d : Disk) (current : Digest) (file : Path × Digest) : Bool :=
  if file.1 = .current then file.2 = H.digest (.current current)
  else match d.read file.1 with
    | some c => H.digest c = file.2
    | none => false

/-- A receipt that the intent's files are durable. -/
def identity_receipt_ok (d : Disk) (i : IdentityIntent) (r : IdentityReceipt) : Bool :=
  r.intent_sha256 = i.sha256 H && r.files.all (identity_file_ok H d r.current_observed) &&
    decide ((r.files.map Prod.fst).Pairwise (· < ·)) && decide (r.directories.Pairwise (· < ·)) &&
    (identity_files H i).all (· ∈ r.files.map Prod.fst) &&
    r.files.all fun f => f.1.dir ∈ r.directories

/-- The receipts of an intent that `valid_identity_receipt` prepares, each with the
    revision it observed. -/
def prepared_receipts (d : Disk) (i : IdentityIntent) : List (Digest × Digest) :=
  (identity_receipts.listing d).filterMap fun id =>
    match d.read (.identity_receipt id) with
    | some (.identity_receipt r) =>
      if H.digest (.identity_receipt r) = id ∧ identity_receipt_ok H d i r then
        some (id, r.current_observed)
      else none
    | _ => none

/-- The revision a receipt observed is one of CURRENT's, which may have moved on. -/
def still_observed (d : Disk) (current captured : Digest) : Bool :=
  match read_current d with
  | .ok latest => latest = current || is_ancestor H d captured latest
  | .error _ => false

/-- `valid_identity_receipt(store, intent, current)`: the last receipt whose
    observed revision is bound to the identity. -/
def valid_identity_receipt (d : Disk) (i : IdentityIntent) (current : Digest) : Option Digest :=
  match lineage_summary H d current (i.identity H) with
  | .error _ => none
  | .ok lineage =>
    let found := (prepared_receipts H d i).filter fun x =>
      lineage.bound x.2 (i.core.operation = .adopt && some x.2 = i.core.current_observed) &&
        still_observed H d current x.2
    (found.map Prod.fst).getLast?

/-- `_completed_adoption_matches(store, parent)`. -/
def completed_adoption_matches (d : Disk) (parent : Digest) : Bool :=
  match read_intent H d with
  | .ok (some i) => i.core.operation = .adopt && i.stage = .complete &&
      i.core.current_observed = some parent && (valid_identity_receipt H d i parent).isSome
  | _ => false

/-! ## Status -/

inductive IdentityStatus
  | absent
  | legacy_unadopted
  | intent_only
  | store_only
  | project_only
  | complete
  | partial_consistent
  | identities_ready_root_pending
  | conflict
  deriving DecidableEq, Repr

/-- The status of a store that has both identity files. -/
def bound_status (d : Disk) : Except Failure IdentityStatus := do
  let mismatch := Failure.identity "store_identity_lineage_mismatch"
  let binding ← read_binding H d
  let intent ← read_intent H d
  if (d.read .current).isNone then return .identities_ready_root_pending
  else
    let current ← read_current d
    let identity := match intent with
      | some i => i.identity H
      | none => binding.store_identity
    let lineage ← (lineage_summary H d current identity).mapError fun _ => mismatch
    let receipt := intent.bind fun i => valid_identity_receipt H d i current
    let m ← read_manifest H d current
    let adopted := m.store_identity.isNone && receipt.isSome && intent.any fun i =>
      i.core.operation = .adopt && i.core.current_observed = some current
    ensure (m.store_identity = some binding.store_identity || adopted) mismatch
    let compacted ← if m.store_identity = some binding.store_identity ∧
        (m.schema = .v3 ∨ lineage.root_schema = some .v3) then do
          (validate_manifest .identity m).mapError fun _ => mismatch
          (validate_revision_chain H .identity none d current m).mapError fun _ => mismatch
          pure true
      else pure false
    if compacted ∨ receipt.isSome ∧ intent.any (·.stage = .complete) then return .complete
    else return .partial_consistent

/-- `identity_status(store)`. -/
def identity_status (d : Disk) : Except Failure IdentityStatus :=
  let current_exists := (d.read .current).isSome
  let project_exists := (d.read .project_identity).isSome
  let store_exists := (d.read .store_identity).isSome
  let intent_exists := (d.read .identity_intent).isSome
  if current_exists && !project_exists && !store_exists && !intent_exists then
    .ok .legacy_unadopted
  else if intent_exists && !project_exists && !store_exists then .ok .intent_only
  else if store_exists && !project_exists then .ok .store_only
  else if project_exists && !store_exists then .ok .project_only
  else if project_exists && store_exists then
    match bound_status H d with
    | .error (.identity _) => .ok .conflict
    | r => r
  else .ok .absent

/-- `mutation_preflight(store)`. -/
def mutation_preflight (d : Disk) : Except Failure Binding := do
  let status ← identity_status H d
  ensure (status ≠ .legacy_unadopted) (.identity "legacy_store_identity_adoption_required")
  ensure (status = .complete) (.identity "store_identity_invalid")
  read_binding H d

/-- `assert_unchanged(store, before, parent)`. -/
def assert_unchanged (d : Disk) (before : Binding) (parent : Digest) : Except Failure Digest := do
  ensure (d.read .project_identity = some (.project_identity before.project) &&
    d.read .store_identity = some (.store_identity before.store)) (.identity "store_identity_changed")
  let after ← read_binding H d
  let m ← read_manifest H d parent
  match m.store_identity with
  | some linked =>
    ensure (linked = after.store_identity) (.identity "store_identity_lineage_mismatch")
  | none =>
    ensure (completed_adoption_matches H d parent)
      (.identity "legacy_store_identity_adoption_required")
  return after.store_identity

end AnKla
