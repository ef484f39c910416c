import AnKla.Sealed.Paths
import AnKla.Policy.Fields

/-!
# Sealed bundles

An export under encryption: every file of the store under its own nonce, and a
manifest that lists them. The key is generated for the bundle and wrapped by an
adapter outside of the program.

* `Primitives`: the cryptography, with what makes it correct.
* `KeyAdapter`: the answers of the adapter; its `unwrap` undoes its `wrap`.
* `create_sealed_bundle`: the tree of files that is published.
* `inspect_bundle`: what a tree is checked for without the key.
* `decrypt_all`, `verify_sealed_bundle`: what it is checked for with the key.
-/

namespace AnKla.Sealed

open PyJson Base64

/-- The errors of a sealed export. -/
inductive SealFailure
  /-- `ExportIOError`. -/
  | export_io (code : String)
  /-- `IntegrityError`. -/
  | integrity (code : String)
  /-- `ValueError`. -/
  | value (detail : String)
  /-- `SealedEntryTooLargeError`. -/
  | entry_too_large
  /-- `SealedAdapterIdInvalidError`. -/
  | adapter_id_invalid
  /-- `SealingAdapterError`. -/
  | adapter_error
  /-- `SealedPayloadAuthFailedError`: one error, whatever failed. -/
  | auth_failed
  deriving DecidableEq, Repr

/-- `if not test: raise failure`. -/
def demand (test : Bool) (failure : SealFailure) : Except SealFailure Unit :=
  if test then .ok () else .error failure

@[simp] theorem demand_ok {test : Bool} {failure : SealFailure} {u : Unit} :
    demand test failure = .ok u ↔ test = true := by
  rw [demand]
  split_ifs with h <;> simp [h]

/-! ## Limits -/

def MANIFEST_SCHEMA : String := "an-kla/export-manifest-v2"

def SEALED_PROFILE : String := "sealed-export/v1"

def NONCE_BYTES : ℕ := 12

def GCM_TAG_BYTES : ℕ := 16

def BUNDLE_ID_RAW_LENGTH : ℕ := 16

def CEK_LENGTH : ℕ := 32

/-- 512 MiB. -/
def MAX_ENTRY_BYTES : ℕ := 512 * 1024 * 1024

def MAX_FILES : ℕ := 100000

/-- 10 GiB. -/
def MAX_BUNDLE_BYTES : ℕ := 10 * 1024 ^ 3

def WRAPPED_CEK_MAX_CHARS : ℕ := 4096

/-! ## Bytes of texts -/

/-- `text.encode("utf-8")`. -/
def utf8 (s : List Char) : Bytes := s.flatMap String.utf8EncodeChar

/-- `raw.decode("utf-8")`. -/
def decode_utf8 (raw : Bytes) : Option (List Char) :=
  raw.toByteArray.utf8Decode?.map Array.toList

@[simp] theorem decode_utf8_utf8 (s : List Char) : decode_utf8 (utf8 s) = some s := by
  rw [decode_utf8, utf8, ← List.utf8Encode, List.utf8Decode?_utf8Encode, Option.map_some]

/-- `raw.decode("ascii")`. -/
def decode_ascii (raw : Bytes) : Option (List Char) :=
  if raw.all (fun b => b.toNat < 128) then some (raw.map fun b => Char.ofNat b.toNat) else none

/-- `canonical_json(value)`. -/
def canonical_json (v : Json) : Bytes := utf8 (dumps v)

/-- `json.loads(raw)`. -/
def json_loads (raw : Bytes) : Option Json := (decode_utf8 raw).bind loads

theorem json_loads_canonical_json {v : Json} (hw : v.Wf) (hi : v.intsFit = true) :
    json_loads (canonical_json v) = some v := by
  rw [json_loads, canonical_json, decode_utf8_utf8, Option.bind_some, loads_dumps hw hi]

/-- White space, among ASCII characters. -/
def blank (c : Char) : Bool :=
  c = ' ' || (9 ≤ c.toNat && c.toNat ≤ 13) || (28 ≤ c.toNat && c.toNat ≤ 31)

/-- `text.strip()`. -/
def strip (s : List Char) : List Char :=
  ((s.dropWhile blank).reverse.dropWhile blank).reverse

/-- `_HEX32_RE`, `_HEX64_RE`: so many hexadecimal digits. -/
def hex_text (n : ℕ) : Json → Bool
  | .str s => s.toList.length = n && s.toList.all isHexDigit
  | _ => false

/-- The text is `sha256:` and 64 hexadecimal digits. -/
def is_identifier (s : String) : Bool :=
  s.toList.take 7 = "sha256:".toList && s.toList.length = 71 && (s.toList.drop 7).all isHexDigit

/-! ## Cryptography -/

/-- The primitives that a bundle rests on: AES-256-GCM, HKDF-Expand, HMAC-SHA256
    and SHA-256, and the case folding of Unicode texts. -/
structure Primitives where
  encrypt (key nonce plaintext aad : Bytes) : Bytes
  decrypt (key nonce ciphertext aad : Bytes) : Option Bytes
  hkdf_expand (prk info : Bytes) (length : ℕ) : Bytes
  hmac_sha256 (key message : Bytes) : Bytes
  sha256 (payload : Bytes) : Bytes
  casefold (text : String) : String
  decrypt_encrypt : ∀ key nonce plaintext aad,
    decrypt key nonce (encrypt key nonce plaintext aad) aad = some plaintext
  length_encrypt : ∀ key nonce plaintext aad,
    (encrypt key nonce plaintext aad).length = plaintext.length + GCM_TAG_BYTES
  length_hkdf_expand : ∀ prk info length, (hkdf_expand prk info length).length = length
  length_hmac_sha256 : ∀ key message, (hmac_sha256 key message).length = 32
  length_sha256 : ∀ payload, (sha256 payload).length = 32
  casefold_ascii : ∀ text, (∀ c ∈ text.toList, c.toNat < 128) → casefold text = lower text

/-- A content encryption key. -/
abbrev Cek := {raw : Bytes // raw.length = CEK_LENGTH}

/-- `SealedSubkeys`. -/
structure Subkeys where
  aead_key : Bytes
  bundle_id_raw : Bytes
  mac_key : Bytes

variable (P : Primitives)

/-- `derive_subkeys(cek)`. -/
def derive_subkeys (cek : Bytes) : Subkeys where
  aead_key := P.hkdf_expand cek (utf8 "aead-key".toList) 32
  bundle_id_raw := P.hkdf_expand cek (utf8 "bundle-id".toList) BUNDLE_ID_RAW_LENGTH
  mac_key := P.hkdf_expand cek (utf8 "manifest-mac".toList) 32

/-- `digest_bytes(payload)`. -/
def digest_bytes (payload : Bytes) : String :=
  String.ofList ("sha256:".toList ++ hex (P.sha256 payload))

/-- `digest_json(value)`. -/
def digest_json (v : Json) : String := digest_bytes P (canonical_json v)

/-- `entry_nonce(index)`: the index, as twelve bytes. -/
def entry_nonce (index : ℕ) : Except SealFailure Bytes :=
  if index < MAX_FILES then
    .ok ((List.range NONCE_BYTES).map fun k => UInt8.ofNat (index / 256 ^ (NONCE_BYTES - 1 - k)))
  else .error (.value "nonce index out of domain")

/-- `entry_aad(bundle_id_raw, entry)`. -/
def entry_aad (bundle_id_raw : Bytes) (entry : Json) : Bytes :=
  utf8 SEALED_PROFILE.toList ++ bundle_id_raw ++ canonical_json entry

/-- `manifest_transcript(seal_without_mac, core, manifest_sha256)`. -/
def manifest_transcript (seal_without_mac core manifest_sha256 : Json) : Json :=
  dict [("schema", .str MANIFEST_SCHEMA), ("profile", .str SEALED_PROFILE),
    ("seal", seal_without_mac), ("core", core), ("manifest_sha256", manifest_sha256)]

/-- `compute_manifest_mac(mac_key, transcript)`. -/
def compute_manifest_mac (mac_key : Bytes) (transcript : Json) : String :=
  String.ofList (hex (P.hmac_sha256 mac_key (canonical_json transcript)))

/-- `verify_manifest_mac(mac_key, transcript, expected)`. -/
def verify_manifest_mac (mac_key : Bytes) (transcript expected : Json) : Bool :=
  hex_text 64 expected && decide (expected = .str (compute_manifest_mac P mac_key transcript))

/-! ## The key adapter -/

/-- The adapter outside of the program, by what it answers; an adapter that fails
    answers `null`. -/
structure KeyAdapter where
  wrap (cek : Bytes) : Json
  unwrap (wrapped_cek : String) : Json
  /-- What it has wrapped, it unwraps. -/
  undo : ∀ cek wrapped_cek, item (wrap cek) "wrapped_cek" = .str wrapped_cek →
    unwrap wrapped_cek = dict [("cek_b64", .str (String.ofList (b64encode cek)))]

/-- `validate_adapter_id`. -/
def validate_adapter_id (adapter_id : String) : Bool :=
  let first (c : Char) : Bool := c.isAlphanum
  let rest (c : Char) : Bool := c.isAlphanum || c = '.' || c = '_' || c = '-'
  1 ≤ adapter_id.length && adapter_id.length ≤ 64 && !([".", ".."].contains adapter_id) &&
    (adapter_id.toList.take 1).all first && adapter_id.toList.all rest

/-- `runner.wrap_cek(cek)`: the wrapped key and the adapter's id. -/
def wrap_cek (adapter : KeyAdapter) (cek : Bytes) : Except SealFailure (String × String) :=
  let payload := adapter.wrap cek
  match exact_keys payload ["wrapped_cek", "adapter_id"], item payload "wrapped_cek",
      item payload "adapter_id" with
  | true, .str wrapped_cek, .str adapter_id =>
    if decide (wrapped_cek.length ≤ WRAPPED_CEK_MAX_CHARS) &&
        (decodeCanonical wrapped_cek.toList).isSome && validate_adapter_id adapter_id then
      .ok (wrapped_cek, adapter_id)
    else .error .adapter_error
  | _, _, _ => .error .adapter_error

/-- `runner.unwrap_cek(wrapped_cek)`. -/
def unwrap_cek (adapter : KeyAdapter) (wrapped_cek : Json) : Except SealFailure Bytes :=
  match wrapped_cek with
  | .str wrapped =>
    if decide (wrapped.length ≤ WRAPPED_CEK_MAX_CHARS) && (decodeCanonical wrapped.toList).isSome then
      let payload := adapter.unwrap wrapped
      match exact_keys payload ["cek_b64"], item payload "cek_b64" with
      | true, .str cek_b64 =>
        match decodeCanonical cek_b64.toList with
        | some cek => if cek.length = CEK_LENGTH then .ok cek else .error .adapter_error
        | none => .error .adapter_error
      | _, _ => .error .adapter_error
    else .error .adapter_error
  | _ => .error .adapter_error

/-! ## Creating a bundle -/

/-- What `store.verify()` reports that an export reads. -/
structure Verified where
  revision : String
  identity_status : String

/-- A store under its lock: the files below its root, by their paths, and what its
    verification answers. -/
structure Store where
  files : List (String × Bytes)
  nodup : (files.map Prod.fst).Nodup
  verify : Except SealFailure Verified

/-- `read_current()`. -/
def Store.read_current (store : Store) : Except SealFailure String :=
  match store.files.lookup current_path with
  | none => .error (.integrity "current_missing")
  | some raw =>
    if raw.length ≠ 72 ∨ raw.getLast? ≠ some 10 then .error (.integrity "current_invalid_length")
    else match decode_ascii raw.dropLast with
      | none => .error (.integrity "current_invalid_syntax")
      | some value =>
        if is_identifier (String.ofList value) then .ok (String.ofList value)
        else .error (.integrity "current_invalid_syntax")

/-- `_files(anchor)`: the files that are taken along, in the order of their paths. -/
def Store.export_files (store : Store) : Except SealFailure (List (String × Bytes)) :=
  if store.files.all fun f => allowed f.1 || ignored f.1 then
    .ok ((store.files.filter fun f => allowed f.1).insertionSort fun f g => f.1 ≤ g.1)
  else .error (.export_io "export_unrecognized_durable_path")

/-- An entry of a manifest. -/
structure Entry where
  path : String
  size : ℕ
  content_sha256 : String

def Entry.json (e : Entry) : Json :=
  dict [("path", .str e.path), ("size", .int e.size), ("content_sha256", .str e.content_sha256)]

/-- The entry of a file. -/
def entry_of (path : String) (payload : Bytes) : Entry :=
  ⟨path, payload.length, digest_bytes P payload⟩

/-- The loop over the files: their entries, and what they are encrypted to. -/
def seal_rows (keys : Subkeys) : ℕ → List (String × Bytes) → Except SealFailure (List (Entry × Bytes))
  | _, [] => .ok []
  | index, (path, payload) :: rows => do
    demand (index < MAX_FILES) (.export_io "export_limits_exceeded")
    demand (payload.length ≤ MAX_ENTRY_BYTES) .entry_too_large
    let entry := entry_of P path payload
    let nonce ← entry_nonce index
    let rest ← seal_rows keys (index + 1) rows
    return (entry, P.encrypt keys.aead_key nonce payload
      (entry_aad keys.bundle_id_raw entry.json)) :: rest

/-- `by_path[path]["content_sha256"]`. -/
def content_of (entries : List Entry) (path : String) : Json :=
  match entries.find? fun e => e.path = path with
  | some e => .str e.content_sha256
  | none => .null

/-- The entries without which no bundle is written. -/
def required_entries (entries : List Entry) : Bool :=
  (["anchor/project-identity.json", "anchor/memory/identity.json", current_path].all fun path =>
    entries.any fun e => e.path = path) &&
  ["anchor/memory/revisions/", "anchor/memory/checkpoints/"].all fun p =>
    entries.any fun e => p.toList.isPrefixOf e.path.toList

def core_json (current : String) (entries : List Entry) : Json :=
  dict [("current_revision", .str current),
    ("project_identity_sha256", content_of entries "anchor/project-identity.json"),
    ("store_identity_sha256", content_of entries "anchor/memory/identity.json"),
    ("entry_count", .int entries.length), ("total_bytes", .int (entries.map Entry.size).sum),
    ("entries", .arr (entries.map Entry.json))]

/-- The items of `seal_without_mac`. -/
def seal_items (keys : Subkeys) (adapter_id wrapped_cek : String) : List (String × Json) :=
  [("algorithm", .str "aes-256-gcm"), ("kdf", .str "hkdf-sha256"), ("adapter_id", .str adapter_id),
    ("wrapped_cek", .str wrapped_cek),
    ("bundle_id", .str (String.ofList (hex keys.bundle_id_raw)))]

def manifest_json (keys : Subkeys) (adapter_id wrapped_cek : String) (core : Json) : Json :=
  let manifest_sha256 := .str (digest_json P core)
  let seal_without_mac := seal_items keys adapter_id wrapped_cek
  let manifest_mac := compute_manifest_mac P keys.mac_key
    (manifest_transcript (dict seal_without_mac) core manifest_sha256)
  dict [("schema", .str MANIFEST_SCHEMA), ("profile", .str SEALED_PROFILE),
    ("seal", dict (seal_without_mac ++ [("manifest_mac", .str manifest_mac)])), ("core", core),
    ("manifest_sha256", manifest_sha256)]

/-- A directory: its regular files by their relative paths, and the directories in it. -/
structure Tree where
  files : List (String × Bytes)
  dirs : List String

/-- The directories above a path. -/
def parents (path : String) : List String :=
  let parts := components path.toList
  (List.range (parts.length - 1)).map fun i =>
    String.ofList (List.intercalate ['/'] (parts.take (i + 1)))

/-- What is renamed to the target: the manifest, and the encrypted files under `entries`. -/
def staged_tree (manifest : Json) (rows : List (Entry × Bytes)) : Tree :=
  let files := ("manifest.json", canonical_json manifest) ::
    rows.map fun r => ("entries/" ++ r.1.path, r.2)
  ⟨files, files.flatMap fun f => parents f.1⟩

/-- `create_sealed_bundle(store, bundle, runner)`, under a generated key. -/
def create_sealed_bundle (adapter : KeyAdapter) (store : Store) (cek : Cek) :
    Except SealFailure Tree := do
  let keys := derive_subkeys P cek
  let verified ← store.verify
  demand (verified.identity_status = "complete") (.export_io "export_source_identity_incomplete")
  let current ← store.read_current
  let files ← store.export_files
  let rows ← seal_rows P keys 0 files
  demand (verified.revision = current) (.export_io "export_source_changed")
  let entries := rows.map Prod.fst
  demand ((entries.map Entry.size).sum ≤ MAX_BUNDLE_BYTES) (.export_io "export_limits_exceeded")
  demand (required_entries entries) (.export_io "export_required_entry_missing")
  let wrapped ← wrap_cek adapter cek
  demand (wrapped.1.length ≤ WRAPPED_CEK_MAX_CHARS) (.export_io "sealing_adapter_error")
  demand (validate_adapter_id wrapped.2) .adapter_id_invalid
  return staged_tree (manifest_json P keys wrapped.2 wrapped.1 (core_json current entries)) rows

/-! ## Inspection without the key -/

/-- `safe_read(root, relative)`. -/
def Tree.safe_read (t : Tree) (relative : String) : Option Bytes :=
  if (components relative.toList).any fun part => part = [] || part = ['.'] || part = ['.', '.'] then
    none
  else t.files.lookup relative

/-- `_manifest_structurally_invalid(manifest)`. -/
def manifest_structurally_invalid (manifest : Json) : Bool :=
  !exact_keys manifest ["schema", "profile", "seal", "core", "manifest_sha256"] ||
  (item manifest "schema" ≠ .str MANIFEST_SCHEMA || item manifest "profile" ≠ .str SEALED_PROFILE) ||
  let seal_obj := item manifest "seal"
  let core := item manifest "core"
  !exact_keys seal_obj ["algorithm", "kdf", "adapter_id", "wrapped_cek", "bundle_id", "manifest_mac"] ||
  (item seal_obj "algorithm" ≠ .str "aes-256-gcm" || item seal_obj "kdf" ≠ .str "hkdf-sha256") ||
  !is_str (item seal_obj "adapter_id") ||
  !(match item seal_obj "wrapped_cek" with
    | .str wrapped => decide (wrapped.length ≤ WRAPPED_CEK_MAX_CHARS) && b64Shape wrapped.toList
    | _ => false) ||
  !hex_text 32 (item seal_obj "bundle_id") ||
  !hex_text 64 (item seal_obj "manifest_mac") ||
  !exact_keys core ["current_revision", "project_identity_sha256", "store_identity_sha256",
    "entry_count", "total_bytes", "entries"] ||
  item manifest "manifest_sha256" ≠ .str (digest_json P core) ||
  !([item manifest "manifest_sha256", item core "current_revision",
    item core "project_identity_sha256", item core "store_identity_sha256"].all fun v =>
      match v with
      | .str s => is_identifier s
      | _ => false)

/-- `type(value) is int and value >= 0`. -/
def read_nat : Json → Option ℕ
  | .int i => if 0 ≤ i then some i.toNat else none
  | _ => none

/-- An entry of a manifest, if it has the shape of one. -/
def read_entry (v : Json) : Option Entry :=
  match exact_keys v ["path", "size", "content_sha256"], item v "path", read_nat (item v "size"),
      item v "content_sha256" with
  | true, .str path, some size, .str content_sha256 => some ⟨path, size, content_sha256⟩
  | _, _, _, _ => none

/-- What an inspection returns: the manifest, the encrypted files, and what is wrong. -/
structure Inspection where
  manifest : Option Json
  ciphertexts : List (String × Bytes)
  diagnostics : List String

/-- `None, {}, ["manifest_invalid"]`. -/
def Inspection.invalid : Inspection := ⟨none, [], ["manifest_invalid"]⟩

/-- The files of the tree against the entries. -/
def tree_diagnostics (t : Tree) (paths : List String) : List String :=
  let expected := "manifest.json" :: paths.map ("entries/" ++ ·)
  let actual := t.files.map Prod.fst
  (if expected.all (actual.contains ·) then [] else ["entry_missing"]) ++
  (if actual.all (expected.contains ·) then [] else ["entry_unexpected"]) ++
  (if t.dirs.all ((expected.flatMap parents).contains ·) then [] else ["entry_unexpected"])

/-- The checks of a manifest of the right shape against the limits and the tree. -/
def inspect_entries (t : Tree) (max_files max_bytes : ℕ) (manifest : Json) (entries : List Json) :
    Inspection :=
  match entries.mapM read_entry with
  | none => .invalid
  | some es =>
    let core := item manifest "core"
    let counts_ok := item core "entry_count" = .int es.length && es.length ≤ max_files &&
      (match read_nat (item core "total_bytes") with
        | some total => decide (total ≤ max_bytes)
        | none => false)
    let paths := es.map Entry.path
    let early := (if counts_ok then [] else ["count_mismatch"]) ++
      (paths.filter fun path => !allowed path).map fun _ => "unsafe_path"
    if !(decide paths.Nodup && decide (paths.map P.casefold).Nodup &&
        decide (paths = paths.insertionSort (· ≤ ·))) then .invalid
    else if early ≠ [] then ⟨some manifest, [], early⟩
    else
      let diagnostics :=
        (if item core "total_bytes" = .int (es.map Entry.size).sum then [] else ["count_mismatch"]) ++
          tree_diagnostics t paths
      if diagnostics ≠ [] then ⟨some manifest, [], diagnostics⟩
      else match paths.mapM fun path => (t.safe_read ("entries/" ++ path)).map (path, ·) with
        | some ciphertexts => ⟨some manifest, ciphertexts, []⟩
        | none => ⟨some manifest, [], ["unsafe_path"]⟩

/-- `_inspect_bundle(bundle, max_files, max_bytes)`. -/
def inspect_bundle (t : Tree) (max_files max_bytes : ℕ) : Inspection :=
  match t.safe_read "manifest.json" with
  | none => .invalid
  | some raw =>
    match json_loads raw with
    | none => .invalid
    | some manifest =>
      if !manifest.isObj || canonical_json manifest ≠ raw then .invalid
      else if manifest_structurally_invalid P manifest then .invalid
      else match item (item manifest "core") "entries" with
        | .arr entries => inspect_entries P t max_files max_bytes manifest entries
        | _ => .invalid

/-! ## Verification with the key -/

/-- The loop over the entries: every file is decrypted under its own nonce. -/
def decrypt_rows (keys : Subkeys) (ciphertexts : List (String × Bytes)) :
    ℕ → List Json → Except SealFailure (List (String × Bytes))
  | _, [] => .ok []
  | index, v :: vs =>
    match read_entry v with
    | none => .error .auth_failed
    | some entry => do
      let ciphertext := (ciphertexts.lookup entry.path).getD []
      demand (ciphertext.length = entry.size + GCM_TAG_BYTES) .auth_failed
      let nonce ← entry_nonce index
      match P.decrypt keys.aead_key nonce ciphertext (entry_aad keys.bundle_id_raw v) with
      | none => .error .auth_failed
      | some plaintext => do
        demand (plaintext.length = entry.size && digest_bytes P plaintext = entry.content_sha256)
          .auth_failed
        let rest ← decrypt_rows keys ciphertexts (index + 1) vs
        return (entry.path, plaintext) :: rest

/-- `{key: value for key, value in seal.items() if key != "manifest_mac"}`. -/
def seal_without_mac : Json → Json
  | .obj kvs => .obj (kvs.filter fun kv => kv.1 ≠ "manifest_mac")
  | v => v

/-- `_decrypt_all(manifest, ciphertexts, cek)`. -/
def decrypt_all (manifest : Json) (ciphertexts : List (String × Bytes)) (cek : Bytes) :
    Except SealFailure (List (String × Bytes)) := do
  let keys := derive_subkeys P cek
  let seal_obj := item manifest "seal"
  demand (item seal_obj "bundle_id" = .str (String.ofList (hex keys.bundle_id_raw))) .auth_failed
  let transcript := manifest_transcript (seal_without_mac seal_obj) (item manifest "core")
    (item manifest "manifest_sha256")
  demand (verify_manifest_mac P keys.mac_key transcript (item seal_obj "manifest_mac")) .auth_failed
  decrypt_rows P keys ciphertexts 0 (elems (item (item manifest "core") "entries"))

/-- `_identity_crosscheck(manifest, payloads)`. -/
def identity_crosscheck (manifest : Json) (payloads : List (String × Bytes)) :
    Except SealFailure Unit := do
  let core := item manifest "core"
  let entries := (elems (item core "entries")).filterMap read_entry
  demand (content_of entries "anchor/project-identity.json" = item core "project_identity_sha256" &&
    content_of entries "anchor/memory/identity.json" = item core "store_identity_sha256")
    (.export_io "export_identity_mismatch")
  match ((payloads.lookup current_path).bind decode_ascii).map strip with
  | none => .error (.value "CURRENT")
  | some current =>
    demand (item core "current_revision" = .str (String.ofList current))
      (.export_io "export_current_mismatch")

/-- How the key is given: itself, or through the adapter. -/
inductive Key
  | cek (cek : Bytes)
  | runner (adapter : KeyAdapter)

/-- `_resolve_cek(cek, runner, manifest)`. -/
def resolve_cek (manifest : Json) : Key → Except SealFailure Bytes
  | .cek cek =>
    if cek.length = CEK_LENGTH then .ok cek
    else .error (.value "cek must be bytes of exactly 32 bytes")
  | .runner adapter => unwrap_cek adapter (item (item manifest "seal") "wrapped_cek")

/-- The error of a diagnostic, `_DIAGNOSTIC_TO_EXPORT_ERROR`. -/
def export_error (diagnostic : String) : SealFailure :=
  .export_io ((([("manifest_invalid", "export_manifest_invalid"),
    ("unsafe_path", "export_unsafe_path"), ("entry_missing", "export_extra_or_missing_entry"),
    ("entry_unexpected", "export_extra_or_missing_entry"),
    ("count_mismatch", "export_limits_exceeded")] : List (String × String)).lookup diagnostic).getD "")

/-- What a verification answers. -/
structure Verification where
  verified : Bool
  structure_verified : Bool
  payloads_verified : Bool
  diagnostics : List String
  deriving DecidableEq

/-- `verify_sealed_bundle(bundle, key)`: the files it decrypts, and its answer. -/
def verify_keyed (t : Tree) (key : Key) (max_files max_bytes : ℕ) :
    Except SealFailure (List (String × Bytes) × Verification) :=
  let inspection := inspect_bundle P t max_files max_bytes
  match inspection.diagnostics, inspection.manifest with
  | diagnostic :: _, _ => .error (export_error diagnostic)
  | [], none => .error (.value "manifest")
  | [], some manifest => do
    let cek ← resolve_cek manifest key
    let payloads ← decrypt_all P manifest inspection.ciphertexts cek
    identity_crosscheck manifest payloads
    return (payloads, ⟨true, true, true, []⟩)

/-- `verify_sealed_bundle(bundle)`, without a key. -/
def verify_unkeyed (t : Tree) (max_files max_bytes : ℕ) : Verification :=
  let inspection := inspect_bundle P t max_files max_bytes
  let entries := (inspection.manifest.map fun manifest =>
    (elems (item (item manifest "core") "entries")).filterMap read_entry).getD []
  let sizes_ok := entries.all fun e =>
    ((inspection.ciphertexts.lookup e.path).getD []).length = e.size + GCM_TAG_BYTES
  let diagnostics := inspection.diagnostics ++
    if inspection.diagnostics = [] && !sizes_ok then ["entry_size_mismatch"] else []
  ⟨false, diagnostics = [], false, diagnostics⟩

end AnKla.Sealed
