import AnKla.Context.Block
import AnKla.Json.Indent

/-!
# Installing the context package

The package is three files of a project: `AGENTS.md` with the managed block, the contract
`AN-KLA.md`, and a manifest that says what was there before. Backups are kept by the digest of
their content.

* `ContextFiles`: the files, by their place.
* `load_manifest`, `plan_context_change`: what is read before anything is written.
* `apply_context_plan`: the writes of a plan, in their order. Each one replaces its file at once.
* `ContextFiles.run`: the files after some writes.
-/

namespace AnKla.Context

open PyJson PyText Base64

/-! ## Template versions -/

/-- `(0|[1-9][0-9]*)`. -/
def template_number (text : List Char) : Option ℕ :=
  if text ≠ [] ∧ text.all Char.isDigit ∧ (text.head? = some '0' → text = ['0']) then
    some (Nat.ofDigitChars 10 text 0)
  else none

/-- The place of a phase in the order of `a`, `b`, `rc` and `z`. -/
def template_phase (text : List Char) : Option ℕ :=
  if text = "alpha".toList then some 0
  else if text = "beta".toList then some 1
  else if text = "rc".toList then some 2
  else none

/-- `(\d+)\.(\d+)\.(\d+)`. -/
def template_base (text : List Char) : Option (List ℕ) :=
  match text.splitOn '.' with
  | [major, minor, patch] => do
    let major ← template_number major
    let minor ← template_number minor
    let patch ← template_number patch
    return [major, minor, patch]
  | _ => none

/-- `_parse_version_tuple(normalized_release_tag("v" + label))`, for a label of the grammar. -/
def template_version (label : String) : Option (List ℕ) :=
  match label.toList.splitOn '-' with
  | [base] => (template_base base).map (· ++ [3, 0])
  | [base, suffix] =>
    match suffix.splitOn '.' with
    | [phase, number] => do
      let base ← template_base base
      let phase ← template_phase phase
      let number ← template_number number
      return base ++ [phase, number]
    | _ => none
  | _ => none

/-- `compare_template_versions(left, right)`. -/
def compare_template_versions (left right : String) : Option ℤ := do
  let a ← template_version left
  let b ← template_version right
  return (if b < a then 1 else 0) - (if a < b then 1 else 0)

/-! ## Texts of a release -/

/-- What a release says in its texts: the contract, and for each earlier template the digests of its
payload and of its contract. -/
structure ContextTexts where
  DETAILED_CONTRACT : List Char
  KNOWN_CONTEXT_TEMPLATES : List (String × String × String)
  /-- The contract is written with line feeds. -/
  contract_lines : '\r' ∉ DETAILED_CONTRACT

def INSTALLATION_SCHEMA : String := "an-kla/context-installation/v1"

def PLAN_SCHEMA : String := "an-kla/context-plan/v1"

def APPLY_RESULT_SCHEMA : String := "an-kla/context-apply-result/v1"

def TARGET : String := "AGENTS.md"

def BACKUPS : List Char := ".an-kla/context/backups/".toList

variable (P : Sealed.Primitives) (T : ContextTexts)

/-- `_semantic_text_sha(text)`. -/
def semantic_text_sha (text : List Char) : String :=
  Sealed.digest_bytes P (Sealed.utf8 (canonical_payload text))

/-- `_known_template_equivalent(block, contract_text)`. -/
def known_template_equivalent (block : Option ManagedBlock) (contract_text : Option (List Char)) :
    Bool :=
  match block, contract_text with
  | some block, some contract_text =>
    match T.KNOWN_CONTEXT_TEMPLATES.find? fun known =>
      item block.metadata "version" = .str known.1 with
    | some known => item block.metadata "content_sha256" = .str known.2.1 &&
        semantic_text_sha P contract_text = known.2.2
    | none => false
  | _, _ => false

/-- `_block_newer_than_runtime(block)`. -/
def block_newer_than_runtime (block : Option ManagedBlock) : Bool :=
  match block with
  | none => false
  | some block =>
    match item block.metadata "version" with
    | .str label =>
      if label ∈ T.KNOWN_CONTEXT_TEMPLATES.map Prod.fst then false
      else match compare_template_versions label TEMPLATE_VERSION with
        | some order => decide (0 < order)
        | none => false
    | _ => false

/-- `_desired_contract_bytes(contract_text)`. -/
def desired_contract_bytes (contract_text : Option (List Char)) : Bytes :=
  Sealed.utf8 (replace_newline (newline_for (contract_text.getD [])).text T.DETAILED_CONTRACT)

/-- `_contract_equivalent(text)`. -/
def contract_equivalent (text : Option (List Char)) : Bool :=
  match text with
  | some text => canonical_payload text = T.DETAILED_CONTRACT
  | none => false

/-! ## Files -/

/-- The places of the files of the package. A backup is placed by its path in the project. -/
inductive Place
  | target
  | contract
  | manifest
  | backup (path : List Char)
  deriving DecidableEq

abbrev ContextFiles := Place → Option Bytes

/-- One step of an operation: a file replaced, or removed. -/
abbrev FileWrite := Place × Option Bytes

def ContextFiles.write (files : ContextFiles) (w : FileWrite) : ContextFiles :=
  Function.update files w.1 w.2

/-- The files after some writes. -/
def ContextFiles.run (files : ContextFiles) (writes : List FileWrite) : ContextFiles :=
  writes.foldl ContextFiles.write files

/-- `_read_utf8(path)`, without the bytes. -/
def read_utf8 (file : Option Bytes) : Except Failure (Option (List Char)) :=
  match file with
  | none => .ok none
  | some payload =>
    match Sealed.decode_utf8 payload with
    | some text => .ok (some text)
    | none => .error (.value "context_target_not_utf8")

/-- `_observed_sha(payload)`. -/
def observed_sha (payload : Option Bytes) : String :=
  match payload with
  | none => "missing"
  | some payload => Sealed.digest_bytes P payload

/-- `PurePosixPath(path).parts` has no `..`. -/
def no_parent_part (path : List Char) : Bool := !(path.splitOn '/').contains ['.', '.']

/-- The path of the backup of a file. -/
def backup_path (payload : Bytes) (name : String) : List Char :=
  BACKUPS ++ hex (P.sha256 payload) ++ '/' :: name.toList

/-! ## The manifest -/

def MANIFEST_KEYS : List String :=
  ["schema", "target", "block_id", "template_version", "managed_content_sha256", "target_sha256",
    "contract_sha256", "original_target_sha256", "original_backup", "file_created_by_an_kla",
    "contract_created_by_an_kla"]

/-- A SHA-256 identifier. -/
def is_sha : Json → Bool
  | .str s => Sealed.is_identifier s
  | _ => false

/-- The path of a backup, or none. -/
def is_backup : Json → Bool
  | .null => true
  | .str s => BACKUPS.isPrefixOf s.toList && no_parent_part s.toList
  | _ => false

/-- The test of `_load_manifest`. -/
def manifest_valid (value : Json) : Bool :=
  exact_keys value MANIFEST_KEYS && item value "schema" = .str INSTALLATION_SCHEMA &&
    item value "target" = .str TARGET && item value "block_id" = .str BLOCK_ID &&
    is_str (item value "template_version") &&
    is_sha (item value "managed_content_sha256") && is_sha (item value "target_sha256") &&
    is_sha (item value "contract_sha256") &&
    (item value "original_target_sha256" = .str "missing" ||
      is_sha (item value "original_target_sha256")) &&
    is_bool (item value "file_created_by_an_kla") &&
    is_bool (item value "contract_created_by_an_kla") && is_backup (item value "original_backup")

/-- `_load_manifest(root)`. -/
def load_manifest (file : Option Bytes) : Except Failure (Option Json) :=
  match file with
  | none => .ok none
  | some payload =>
    match Sealed.json_loads payload with
    | none => .error (.value "context_manifest_invalid")
    | some value =>
      if manifest_valid value then .ok (some value)
      else .error (.value "context_manifest_invalid")

/-- The text of a manifest file. -/
def manifest_text (value : Json) : List Char := dumpsIndent 0 value ++ ['\n']

/-- `manifest and manifest.get(key) is True`. -/
def recorded (manifest : Option Json) (key : String) : Bool :=
  match manifest with
  | some manifest => item manifest key = .bool true
  | none => false

/-! ## Plans -/

/-- An uninstallation that leaves white space only keeps a file that AN-KLA has not created. -/
def kept_empty (manifest : Option Json) (operation : String) (current : List Char)
    (block : Option ManagedBlock) (result : Option (List Char) × String) :
    Except Failure (Option (List Char) × String) :=
  if operation = "uninstall" ∧ result.1 = none ∧ recorded manifest "file_created_by_an_kla" = false
  then
    match block with
    | none => .error (.value "managed_block_missing")
    | some block => .ok (some (around (split_keep current) block []), "preserve_empty")
  else .ok result

def installs (operation : String) : Bool := operation = "install" || operation = "update"

/-- The digest of the contract after an operation. -/
def result_contract_sha256 (operation : String) (manifest : Option Json) (contract : Option Bytes)
    (contract_text : Option (List Char)) : String :=
  if installs operation then
    match contract with
    | some payload =>
      if contract_equivalent T contract_text then Sealed.digest_bytes P payload
      else Sealed.digest_bytes P (desired_contract_bytes T contract_text)
    | none => Sealed.digest_bytes P (desired_contract_bytes T contract_text)
  else if contract_equivalent T contract_text && recorded manifest "contract_created_by_an_kla" then
    "missing"
  else observed_sha P contract

/-- The recorded target is not the present one. -/
def target_drift (manifest : Option Json) (target : Option Bytes) : Bool :=
  match manifest, target with
  | some manifest, some payload =>
    item manifest "target_sha256" ≠ .str (Sealed.digest_bytes P payload)
  | _, _ => false

/-- A contract that an installation would overwrite. -/
def contract_modified (operation : String) (block : Option ManagedBlock) (contract : Option Bytes)
    (contract_text : Option (List Char)) : Bool :=
  contract.isSome && !contract_equivalent T contract_text &&
    !(operation = "update" && known_template_equivalent P T block contract_text)

/-- A plan. -/
def context_plan (files : ContextFiles) (operation : String) (manifest : Option Json)
    (contract_text : Option (List Char)) (result : Option (List Char) × String) : Json :=
  dict [
    ("schema", .str PLAN_SCHEMA),
    ("operation", .str operation),
    ("target", .str TARGET),
    ("action", .str result.2),
    ("base_target_sha256", .str (observed_sha P (files .target))),
    ("result_target_sha256", .str (observed_sha P (result.1.map Sealed.utf8))),
    ("base_contract_sha256", .str (observed_sha P (files .contract))),
    ("base_manifest_sha256", .str (observed_sha P (files .manifest))),
    ("result_contract_sha256",
      .str (result_contract_sha256 P T operation manifest (files .contract) contract_text)),
    ("managed_content_sha256", .str (managed_payload_sha256 P COMPACT_PAYLOAD)),
    ("template_version", .str TEMPLATE_VERSION)]

/-- `plan_context_change(project_root, operation)`. -/
def plan_context_change (files : ContextFiles) (operation : String) (allow_target_drift : Bool) :
    Except Failure Json := do
  let before_text ← read_utf8 (files .target)
  let result ← transform_document P before_text operation
  let block ← parse_managed_block P (before_text.getD [])
  ensure (!(installs operation && block_newer_than_runtime T block))
    (.value "runtime_older_than_context_template")
  let manifest ← load_manifest (files .manifest)
  ensure (!(installs operation && !allow_target_drift && target_drift P manifest (files .target)))
    (.value "context_target_drift_adoption_required")
  let result ← kept_empty manifest operation (before_text.getD []) block result
  let contract_text ← read_utf8 (files .contract)
  ensure (!(installs operation &&
    contract_modified P T operation block (files .contract) contract_text))
    (.value "managed_contract_modified")
  return context_plan P T files operation manifest contract_text result

/-! ## Applying -/

/-- What a manifest says of the document before the first installation, and the backup that has to
be written for it. -/
structure Original where
  sha256 : Json
  backup : Json
  created : Json
  writes : List FileWrite

/-- The original document: the recorded one, or the present one. -/
def original_of (files : ContextFiles) (manifest : Option Json) : Original :=
  match manifest with
  | some manifest =>
    ⟨item manifest "original_target_sha256", item manifest "original_backup",
      .bool (item manifest "file_created_by_an_kla" = .bool true), []⟩
  | none =>
    match files .target with
    | none => ⟨.str "missing", .null, .bool true, []⟩
    | some payload =>
      let path := backup_path P payload TARGET
      ⟨.str (Sealed.digest_bytes P payload), .str (String.ofList path), .bool false,
        if (files (.backup path)).isSome then [] else [(.backup path, some payload)]⟩

/-- The writes that install the contract, and its bytes. -/
def contract_writes (files : ContextFiles) (contract_text : Option (List Char)) :
    List FileWrite × Bytes :=
  let desired := desired_contract_bytes T contract_text
  match files .contract with
  | none => ([(.contract, some desired)], desired)
  | some payload =>
    if contract_equivalent T contract_text then ([], payload)
    else
      let path := backup_path P payload "AN-KLA.md"
      ((if (files (.backup path)).isSome then [] else [(.backup path, some payload)]) ++
        [(.contract, some desired)], desired)

/-- The manifest of an installation. -/
def manifest_payload (original : Original) (target contract : Bytes) (contract_created : Bool) :
    Json :=
  dict [
    ("schema", .str INSTALLATION_SCHEMA),
    ("target", .str TARGET),
    ("block_id", .str BLOCK_ID),
    ("template_version", .str TEMPLATE_VERSION),
    ("managed_content_sha256", .str (managed_payload_sha256 P COMPACT_PAYLOAD)),
    ("target_sha256", .str (Sealed.digest_bytes P target)),
    ("contract_sha256", .str (Sealed.digest_bytes P contract)),
    ("original_target_sha256", original.sha256),
    ("original_backup", original.backup),
    ("file_created_by_an_kla", original.created),
    ("contract_created_by_an_kla", .bool contract_created)]

/-- The writes of an installation: the backup, the contract, the target and the manifest. -/
def install_writes (files : ContextFiles) (manifest : Option Json)
    (contract_text : Option (List Char)) (result_text : Option (List Char)) : List FileWrite :=
  let original := original_of P files manifest
  let contract := contract_writes P T files contract_text
  let result_bytes := Sealed.utf8 (result_text.getD [])
  let contract_created :=
    match manifest with
    | some manifest => item manifest "contract_created_by_an_kla" = .bool true
    | none => (files .contract).isNone
  original.writes ++ (contract.1 ++ [(.target, some result_bytes), (.manifest, some (Sealed.utf8
    (manifest_text (manifest_payload P original result_bytes contract.2 contract_created))))])

/-- The writes of an uninstallation. -/
def uninstall_writes (files : ContextFiles) (manifest : Option Json)
    (contract_text : Option (List Char)) (result_text : Option (List Char)) : List FileWrite :=
  (.target, result_text.map Sealed.utf8) ::
    ((if contract_equivalent T contract_text && recorded manifest "contract_created_by_an_kla" then
      [(.contract, none)] else []) ++
    if (files .manifest).isSome then [(.manifest, none)] else [])

/-- The installation is there already. -/
def nothing_to_do (files : ContextFiles) (manifest : Option Json)
    (contract_text : Option (List Char)) (operation action : String) (plan : Json) : Bool :=
  installs operation && action = "noop" &&
    (match manifest with
    | some manifest => item manifest "target_sha256" = item plan "result_target_sha256" &&
        item manifest "template_version" = .str TEMPLATE_VERSION
    | none => false) &&
    (files .contract).isSome && contract_equivalent T contract_text

def apply_result (operation action : String) (plan : Json) : Json :=
  dict [("schema", .str APPLY_RESULT_SCHEMA), ("operation", .str operation),
    ("action", .str action), ("target", .str TARGET),
    ("target_sha256", item plan "result_target_sha256"),
    ("template_version", .str TEMPLATE_VERSION)]

/-- `apply_context_plan(project_root, plan)`: its writes in their order, and its result. -/
def apply_context_plan (files : ContextFiles) (plan : Json) (allow_target_drift : Bool) :
    Except Failure (List FileWrite × Json) := do
  ensure (plan.isObj && item plan "schema" = .str PLAN_SCHEMA) (.value "invalid_context_plan")
  match item plan "operation", item plan "target" with
  | .str operation, .str target => do
    ensure (target = TARGET) (.value "invalid_context_target")
    let rebuilt ← plan_context_change P T files operation allow_target_drift
    ensure (rebuilt = plan ||
      item rebuilt "base_target_sha256" = item plan "base_target_sha256")
      (.value "context_file_concurrent_update")
    ensure (rebuilt = plan) (.value "context_plan_mismatch")
    let before_text ← read_utf8 (files .target)
    let result ← transform_document P before_text operation
    let manifest ← load_manifest (files .manifest)
    let contract_text ← read_utf8 (files .contract)
    if nothing_to_do T files manifest contract_text operation result.2 plan then
      return ([], apply_result operation "noop" plan)
    else if installs operation then
      return (install_writes P T files manifest contract_text result.1,
        apply_result operation result.2 plan)
    else do
      let block ← parse_managed_block P (before_text.getD [])
      let result ← kept_empty manifest operation (before_text.getD []) block result
      return (uninstall_writes T files manifest contract_text result.1,
        apply_result operation result.2 plan)
  | _, _ => .error (.value "invalid_context_plan")

end AnKla.Context
