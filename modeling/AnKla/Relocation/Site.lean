import AnKla.Durable.Crash
import AnKla.Durable.Disk
import AnKla.Sealed.Bundle
import AnKla.Storage

/-!
# Custody roots

Where the store of a project lies: below the project, or in an external vault that a
pointer in the project names.

* `Vault`: the files of a custody root. `Site`: the roots, the pointer and the journals.
* `resolve_store_root`, `check_custody`: the root that a client opens.
* `Plan`, `validate_plan`: a relocation, bound to the files that it moves.
* `new_receipt`: the receipt of a move, at the head of the chain of receipts.
-/

namespace AnKla.Relocation

open PyJson Durable Sealed Base64

/-- The files below a custody root, by their paths in an export (`anchor/...`). -/
abbrev Vault := Durable.Disk String Bytes

/-! ## Plans and journals -/

deriving instance DecidableEq for Entry

inductive Direction
  | project_local_to_external
  | external_to_project_local
  deriving DecidableEq

def Direction.name : Direction → String
  | .project_local_to_external => "project_local_to_external"
  | .external_to_project_local => "external_to_project_local"

/-- `core` of a plan. -/
structure Core where
  direction : Direction
  transaction_id : String
  project_root : String
  source_store_root : String
  destination_store_root : String
  base_revision : String
  custody_fingerprint : String
  store_identity : String
  entries : List Entry
  deriving DecidableEq

def Core.json (c : Core) : Json := dict
  [("direction", .str c.direction.name), ("transaction_id", .str c.transaction_id),
    ("project_root", .str c.project_root), ("source_store_root", .str c.source_store_root),
    ("destination_store_root", .str c.destination_store_root),
    ("base_revision", .str c.base_revision), ("custody_fingerprint", .str c.custody_fingerprint),
    ("store_identity", .str c.store_identity), ("entries", .arr (c.entries.map Entry.json))]

/-- `an-kla/relocate-plan-v1`. -/
structure Plan where
  core : Core
  plan_sha256 : String
  deriving DecidableEq

/-- `STAGES`. -/
inductive Stage
  | staging
  | published
  | pointer_written
  | pointer_removed
  | cleaned
  | aborted
  deriving DecidableEq

/-- What a cleanup reports: files, by their paths in an export. -/
structure Cleanup where
  changed_kept : List String
  residue : List String

/-- `an-kla/relocate-journal-v1`. Its transaction is that of the plan. -/
structure Journal where
  plan : Plan
  stage : Stage
  relocation_receipt : Option String
  lock_free_residue : List String
  cleanup : Option Cleanup
  /-- Written by the way back only. -/
  pointer_removal_started : Bool := false

/-! ## Sites -/

/-- `an-kla/store-root-pointer-v1`. -/
structure Pointer where
  store_root : String
  custody_fingerprint : String
  deriving DecidableEq

/-- The file of the pointer. -/
inductive PointerFile
  | absent
  /-- Not the canonical text of a pointer: cut in the middle, for one. -/
  | invalid
  | names (p : Pointer)
  deriving DecidableEq

/-- A project and the custody roots around it. -/
structure Site where
  /-- The directories, by their paths. None lies in another one. -/
  dirs : String → Option Vault
  pointer : PointerFile
  /-- `relocations/<txid>.json`: no file, a file that is no journal, or a journal. -/
  journals : String → Option (Option Journal)

namespace Site

variable (s : Site)

def set_dir (dir : String) (v : Option Vault) : Site :=
  { s with dirs := Function.update s.dirs dir v }

def set_pointer (p : PointerFile) : Site := { s with pointer := p }

def set_journal (j : Journal) : Site :=
  { s with journals := Function.update s.journals j.plan.core.transaction_id (some (some j)) }

@[simp] theorem journals_set_journal (j : Journal) :
    (s.set_journal j).journals j.plan.core.transaction_id = some (some j) :=
  Function.update_self ..

@[simp] theorem dirs_set_dir (dir : String) (v : Option Vault) :
    (s.set_dir dir v).dirs dir = v := Function.update_self ..

theorem dirs_set_dir_ne {dir other : String} (v : Option Vault) (h : other ≠ dir) :
    (s.set_dir dir v).dirs other = s.dirs other := Function.update_of_ne h ..

end Site

/-! ## Errors -/

/-- `RelocateError(code)`, `CustodyError(code)`: both are errors of the store. -/
def refused (code : String) : Failure := .store code

/-- `RelocationReceiptError(code)`. -/
def receipt_error (code : String) : Failure := .value code

/-- `OSError`. -/
def os_error : Failure := .storage "storage_io_failed"

/-- The errors of the readers of a store. -/
def of_seal : SealFailure → Failure
  | .export_io code => refused code
  | .integrity code => .integrity code
  | .value detail => .value detail
  | _ => .value ""

/-! ## Vaults -/

/-- What the identity files of a vault bind. -/
structure Bound where
  project_uuid : String
  store_identity : String

/-- What `MemoryStore` answers for a vault, from its files alone. -/
structure Readers where
  verify : Vault → Except SealFailure Verified
  /-- `read_binding`. -/
  read_binding : Vault → Except Failure Bound
  /-- `mutation_preflight`, but for `check_custody`. -/
  preflight : Vault → Except Failure Bound

variable (P : Primitives) (R : Readers)

/-- The store of a vault, as an export reads it. -/
def Vault.store (v : Vault) : Store where
  files := v.entries.map fun f => (f.1, f.2)
  nodup := by
    rw [List.map_map]
    exact v.nodupKeys
  verify := R.verify v

/-- `store.read_current()`. -/
def read_current (v : Vault) : Except Failure String := (v.store R).read_current.mapError of_seal

/-- `_raw_current(anchor)`: CURRENT without its last byte, unchecked. -/
def raw_current (v : Vault) : Option String :=
  ((v.read current_path).bind fun raw => decode_ascii raw.dropLast).map String.ofList

/-- `custody_fingerprint(binding)`. -/
def custody_fingerprint (b : Bound) : String := digest_json P (dict
  [("schema", .str "an-kla/custody-binding-v1"), ("project_uuid", .str b.project_uuid),
    ("store_identity", .str b.store_identity)])

/-- The path of the key that a relocation takes along, and an export does not. -/
def attest_key : String := "anchor/attest.key"

/-- `_move_set(anchor)`: the files that an export takes along, and the key. -/
def move_set (v : Vault) : Except Failure (List (String × Bytes)) := do
  let rows ← (v.store R).export_files.mapError of_seal
  let key := (v.read attest_key).elim [] fun payload => [(attest_key, payload)]
  return (rows ++ key).insertionSort fun f g => f.1 ≤ g.1

/-- `_read(anchor, relative)`. -/
def read_file (v : Vault) (path : String) : Except Failure Bytes :=
  (v.read path).elim (.error (refused "export_unsafe_path")) .ok

/-- `vault_present(store_root)`. -/
def vault_present (s : Site) (dir : String) : Bool :=
  (s.dirs dir).any fun v =>
    ["anchor/project-identity.json", current_path].any fun path => (v.read path).isSome

/-! ## Custody -/

/-- `default_store_root(project_root)`. -/
def default_store_root (project : String) : String := project ++ "/.an-kla"

/-- A directory lies below another one. -/
def below (dir parent : String) : Bool := (parent ++ "/").toList.isPrefixOf dir.toList

/-- `MemoryStore(project_root, store_root=...)` accepts the root. -/
def store_root_valid (project dir : String) : Bool :=
  dir = default_store_root project || !(dir = project || below project dir ||
    below dir (default_store_root project))

/-- `read_pointer(project_root)`. -/
def read_pointer (s : Site) : Except Failure (Option Pointer) :=
  match s.pointer with
  | .absent => .ok none
  | .invalid => .error (refused "store_root_pointer_invalid")
  | .names p => .ok (some p)

/-- `resolve_store_root(project_root)`, without a flag and without the environment. -/
def resolve_store_root (project : String) (s : Site) : Except Failure String := do
  let pointer ← read_pointer s
  return (pointer.map Pointer.store_root).getD (default_store_root project)

/-- `check_custody(store, binding)` for a store opened at a root, under its binding. -/
def check_custody (project dir : String) (b : Bound) (s : Site) : Except Failure Unit := do
  let divergence := refused "store_root_divergence"
  let external := decide (dir ≠ default_store_root project)
  match ← read_pointer s with
  | none => ensure (!(external && vault_present s (default_store_root project))) divergence
  | some p => do
    ensure external divergence
    ensure (custody_fingerprint P b = p.custody_fingerprint) divergence
    ensure (!(p.store_root ≠ dir && vault_present s p.store_root)) divergence

/-- `mutation_preflight(store)`. -/
def mutation_preflight (project dir : String) (v : Vault) (s : Site) : Except Failure Bound := do
  let binding ← R.preflight v
  check_custody P project dir binding s
  return binding

/-! ## Plans -/

/-- `_TXID`: the text of a random UUID. -/
def txid_shape : List (Char → Bool) :=
  let h (n : ℕ) : List (Char → Bool) := List.replicate n isHexDigit
  let dash : List (Char → Bool) := [fun c => decide (c = '-')]
  let version : List (Char → Bool) := [fun c => decide (c = '4')]
  let variant : List (Char → Bool) := [fun c => ['8', '9', 'a', 'b'].contains c]
  h 8 ++ dash ++ h 4 ++ dash ++ version ++ h 3 ++ dash ++ variant ++ h 3 ++ dash ++ h 12

def is_txid (text : String) : Bool := shapeMatches txid_shape text.toList

/-- `validate_plan(plan)`. -/
def validate_plan (plan : Plan) : Except Failure Core := do
  let c := plan.core
  let invalid := refused "relocate_plan_invalid"
  ensure (is_txid c.transaction_id) invalid
  ensure (digest_json P c.json = plan.plan_sha256) (refused "relocate_plan_digest_mismatch")
  ensure (c.direction ≠ .external_to_project_local ||
    c.destination_store_root = default_store_root c.project_root) invalid
  ensure (c.entries.map Entry.path).Nodup invalid
  ensure (c.entries.all fun e => allowed e.path || e.path = attest_key) invalid
  return c

/-- The parent directory of a path. -/
def parent (dir : String) : String :=
  String.ofList ((dir.toList.reverse.dropWhile (· ≠ '/')).drop 1).reverse

/-- `_staging(target, txid)`: beside the destination. -/
def Core.staging (c : Core) : String :=
  parent c.destination_store_root ++ "/.staging-" ++ c.transaction_id

end AnKla.Relocation
