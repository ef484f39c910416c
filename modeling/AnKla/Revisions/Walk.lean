import AnKla.Sealed.Bundle
import AnKla.Storage

/-!
# Walking the files of the revisions

The manifests of a store as JSON files, each under its digest, and what one operation keeps of
a walk over them. A walk checks no more of a manifest than its number, its schema and its parent.

* `walk_steps`, `walk_revisions`: the manifests from one to its root; the numbers fall by one.
* `validate_bound_descendants`: the check of a captured revision on a walk of its own.
* `OperationContext`: the schemas and transactions that a walk has seen.
* `LineageSummary`: all captured revisions at once, on one walk.
* `manifest_candidates`: the revisions of a transaction, with a context or without one.
-/

namespace AnKla.Walk

open PyJson Durable Base64 Sealed

variable (P : Primitives)

/-! ## Files -/

/-- The files of `revisions/sha256` by their stems, some of which cannot be read. -/
abbrev Files := Durable.Disk String (Option Bytes)

/-- The directory. -/
def directory : Dir String String where
  path name := name
  entry name := some name
  entry_iff := by
    intro p x
    exact Option.some_inj

/-- `bare_digest(identifier)`. -/
def bare_digest (identifier : String) : Option String :=
  let value := identifier.toList.drop digestPrefix.length
  if digestPrefix.isPrefixOf identifier.toList = true ∧ identifier.length = 71 ∧
      value.all isHexDigit = true then some (String.ofList value)
  else none

/-- `"sha256:" + path.stem`. -/
def identifier_of (stem : String) : String := String.ofList (digestPrefix ++ stem.toList)

/-- `_read_json_object("revisions", identifier)`. -/
def read_json_object (d : Files) (identifier : String) : Except Failure Json :=
  match bare_digest identifier with
  | none => .error (.value "invalid_sha256_identifier")
  | some name =>
    match d.read name with
    | none => .error (.integrity "object_missing:revisions")
    | some none => .error (.storage "revisions")
    | some (some payload) =>
      if digest_bytes P payload ≠ identifier then
        .error (.integrity "object_hash_mismatch:revisions")
      else match json_loads payload with
        | none => .error (.integrity "object_json_invalid:revisions")
        | some value =>
          if canonical_json value = payload then .ok value
          else .error (.integrity "object_not_canonical:revisions")

/-! ## Contexts -/

/-- `_SCHEMAS`. -/
def SCHEMAS : List String := ["an-kla/revision-v1", "an-kla/revision-v2", "an-kla/revision-v3"]

/-- `is_canonical_uuid(value)`: digits in groups of 8, 4, 4, 4 and 12, of a version of RFC 4122. -/
def is_canonical_uuid (value : String) : Bool :=
  let s := value.toList
  s.length = 36 && (s.zipIdx.all fun x =>
    if x.2 ∈ [8, 13, 18, 23] then x.1 = '-' else isHexDigit x.1) &&
    s[14]?.any (· ∈ ['1', '2', '3', '4', '5']) && s[19]?.any (· ∈ ['8', '9', 'a', 'b'])

/-- `_OperationContext`: the schema and the transaction of a revision; of two entries of one
    revision, the last one counts. -/
structure OperationContext where
  projections : List (String × String × String) := []

/-- `_OperationContext._candidate(identifier)`. -/
def OperationContext.candidate (context : OperationContext) (identifier : String) :
    Option (String × String) :=
  context.projections.lookup identifier

/-- `_OperationContext._remember(identifier, manifest)`. -/
def OperationContext.remember (context : OperationContext) (identifier : String)
    (manifest : Json) : OperationContext :=
  match item manifest "schema", item manifest "transaction_id" with
  | .str schema, .str txid =>
    if manifest.isObj = true ∧ schema ∈ SCHEMAS ∧ txid.length = 36 ∧
        is_canonical_uuid txid = true then
      ⟨(identifier, schema, txid) :: context.projections⟩
    else context
  | _, _ => context

/-! ## Walks -/

/-- The number of a manifest. -/
def revision_of (manifest : Json) : Option ℕ :=
  match item manifest "revision" with
  | .int r => if 0 ≤ r then some r.toNat else none
  | _ => none

/-- The schema of a manifest, if it is known. -/
def schema_of (manifest : Json) : Option String :=
  match item manifest "schema" with
  | .str schema => if schema ∈ SCHEMAS then some schema else none
  | _ => none

/-- The parent of a manifest with a number and a schema: none at a root. -/
def parent_of (manifest : Json) (revision : ℕ) (schema : String) : Option (Option String) :=
  match item manifest "parent" with
  | .null =>
    if (schema = "an-kla/revision-v1" ∧ revision = 0) ∨
        (schema = "an-kla/revision-v3" ∧ 0 < revision) then some none
    else none
  | .str parent =>
    if revision ≠ 0 ∧ (bare_digest parent).isSome = true then some (some parent) else none
  | _ => none

/-- One manifest of a walk, below one of a number: its own number, and its parent. -/
def visit (child_revision : Option ℕ) (manifest : Json) : Option (ℕ × Option String) :=
  match manifest.isObj, revision_of manifest, schema_of manifest with
  | true, some revision, some schema =>
    if child_revision.all (· = revision + 1) then
      (parent_of manifest revision schema).map fun parent => (revision, parent)
    else none
  | _, _, _ => none

/-- One step of a walk, and the rest of it: the manifests that it yields, and whether it comes
    to a root. -/
def walk_step (d : Files) (child_revision : Option ℕ) (cursor : String) (seen : List String)
    (rest : ℕ → String → List (String × Json) × Bool) : List (String × Json) × Bool :=
  if cursor ∈ seen then ([], false)
  else match read_json_object P d cursor with
    | .error _ => ([], false)
    | .ok manifest =>
      match visit child_revision manifest with
      | none => ([], false)
      | some (_, none) => ([(cursor, manifest)], true)
      | some (revision, some parent) =>
        ((cursor, manifest) :: (rest revision parent).1, (rest revision parent).2)

/-- The rest of a walk, below a manifest of a number: a number is never below zero. -/
def walk_below (d : Files) : ℕ → String → List String → List (String × Json) × Bool
  | 0, _, _ => ([], false)
  | child_revision + 1, cursor, seen =>
    walk_step P d (some (child_revision + 1)) cursor seen fun _ parent =>
      walk_below d child_revision parent (cursor :: seen)

/-- What `walk_revisions(store, current)` yields, and whether it comes to a root. -/
def walk_steps (d : Files) (current : String) : List (String × Json) × Bool :=
  walk_step P d none current [] fun revision parent => walk_below P d revision parent [current]

/-- `walk_revisions(store, current)`, read to its end. -/
def walk_revisions (d : Files) (current : String) : Except Failure (List (String × Json)) :=
  if (walk_steps P d current).2 then .ok (walk_steps P d current).1
  else .error (.value "revision_transition_invalid")

/-! ## The check of one revision -/

/-- The loop of `validate_bound_descendants`. -/
def bound_descendants (captured identity_digest : String) (allow_captured_legacy : Bool) :
    List (String × Json) → Except Failure Unit
  | [] => .error (.identity "store_identity_lineage_mismatch")
  | (identifier, manifest) :: walk =>
    let linked := item manifest "store_identity"
    if identifier = captured then
      if linked = .str identity_digest ∨ (allow_captured_legacy = true ∧ linked = .null) then .ok ()
      else .error (.identity "store_identity_lineage_mismatch")
    else if linked ≠ .str identity_digest then
      .error (.identity "store_identity_lineage_mismatch")
    else bound_descendants captured identity_digest allow_captured_legacy walk

/-- `validate_bound_descendants(store, current, captured, identity_digest,
    allow_captured_legacy)`: a walk that breaks off ends the loop. -/
def validate_bound_descendants (d : Files) (current captured identity_digest : String)
    (allow_captured_legacy : Bool) : Except Failure Unit :=
  bound_descendants captured identity_digest allow_captured_legacy (walk_steps P d current).1

/-! ## The summary of a walk -/

/-- The points of a summary after those so far: whether all revisions down to one name the
    identity, and whether all but it do and it names none. -/
def add_points (identity : String) : Bool → List (String × Bool × Bool) → List (String × Json) →
    List (String × Bool × Bool)
  | _, points, [] => points
  | prefix_ok, points, (identifier, manifest) :: walk =>
    let linked := item manifest "store_identity"
    let strict := prefix_ok && linked = .str identity
    let legacy := prefix_ok && linked = .null
    add_points identity strict ((identifier, strict, legacy) :: points) walk

/-- `_LineageSummary`. -/
structure LineageSummary where
  current : String
  identity : String
  points : List (String × Bool × Bool)
  root_schema : Option Json

/-- `_LineageSummary(store, current, identity, context)`, and the context after it. -/
def lineage_summary (d : Files) (current identity : String) (context : Option OperationContext) :
    Except Failure (LineageSummary × Option OperationContext) := do
  let walk ← walk_revisions P d current
  return (⟨current, identity, add_points identity true [] walk,
      walk.getLast?.map fun x => item x.2 "schema"⟩,
    context.map fun c => walk.foldl (fun c x => c.remember x.1 x.2) c)

/-- `_LineageSummary.contains(identifier)`. -/
def LineageSummary.contains (l : LineageSummary) (identifier : String) : Bool :=
  (l.points.lookup identifier).isSome

/-- `_LineageSummary.bound(identifier, allow_legacy)`. -/
def LineageSummary.bound (l : LineageSummary) (identifier : String) (allow_legacy : Bool) : Bool :=
  let point := (l.points.lookup identifier).getD (false, false)
  point.1 || (allow_legacy && point.2)

/-! ## Candidates -/

/-- A revision with a schema and a transaction, if it is one of a transaction: an array or an
    object is in no set. -/
def take_candidate (identifier txid : String) (schema candidate_txid : Json) :
    Except Failure (Option String) :=
  match schema with
  | .arr _ | .obj _ => .error (.value "unhashable")
  | .str s => .ok (if s ∈ SCHEMAS ∧ candidate_txid = .str txid then some identifier else none)
  | _ => .ok none

/-- One file of `_manifest_candidates`. -/
def candidate_of (d : Files) (txid : String) (context : Option OperationContext) (stem : String) :
    Except Failure (Option String) :=
  match d.read stem with
  | some (some payload) =>
    if digest_bytes P payload ≠ identifier_of stem then .ok none
    else match context.bind fun c => c.candidate (identifier_of stem) with
      | some (schema, candidate_txid) =>
        take_candidate (identifier_of stem) txid (.str schema) (.str candidate_txid)
      | none =>
        match json_loads payload with
        | none => .ok none
        | some value =>
          if canonical_json value ≠ payload ∨ value.isObj = false then .ok none
          else take_candidate (identifier_of stem) txid (item value "schema") (item value "transaction_id")
  | _ => .ok none

/-- `_manifest_candidates(store, txid, _context)`. -/
def manifest_candidates (d : Files) (txid : String) (context : Option OperationContext) :
    Except Failure (List String) := do
  let found ← (directory.listing d).mapM (candidate_of P d txid context)
  return found.reduceOption

end AnKla.Walk
