import AnKla.Policy.Dict
import AnKla.Sealed.Bundle
import Mathlib.Algebra.Order.BigOperators.Group.List

/-!
# The manifest of a bundle

What a manifest that creation has written looks like to inspection.

* `read_entry_json`: an entry is read back.
* `manifest_wf`, `manifest_intsFit`: the manifest is a value that its text determines.
* `structurally_invalid_manifest`: it has the required shape, unless the wrapped key is
  empty.
-/

namespace AnKla.Sealed

open PyJson Base64

variable {P : Primitives}

/-! ## Objects under distinct keys -/

/-- A size below the limits is short enough to be read back. -/
theorem intsFit_nat {n : ℕ} (h : n < 10 ^ 20) : (Json.int n).intsFit = true := by
  have hlen : (Nat.toDigits 10 n).length ≤ 20 := Nat.toDigits_length 10 n 20 (by omega) h
  have hcount : digitCount (dumpInt n) ≤ (Nat.toDigits 10 n).length := by
    exact List.countP_le_length
  rw [Json.intsFit, decide_eq_true_eq]
  exact (hcount.trans hlen).trans (by decide)

/-- Without one of the items, an object of items under distinct keys is the object of
    the others. -/
theorem seal_without_mac_dict {kvs : List (String × Json)} {mac : Json}
    (h : ((kvs ++ [("manifest_mac", mac)]).map Prod.fst).Nodup) :
    seal_without_mac (dict (kvs ++ [("manifest_mac", mac)])) = dict kvs := by
  have hkvs : (kvs.map Prod.fst).Nodup := by
    rw [List.map_append] at h
    exact h.of_append_left
  have hmac : ∀ kv ∈ kvs, kv.1 ≠ "manifest_mac" := by
    intro kv hkv he
    rw [List.map_append, List.nodup_append] at h
    exact h.2.2 kv.1 (List.mem_map_of_mem hkv) "manifest_mac" (by simp) he
  have hfilter : (kvs ++ [("manifest_mac", mac)]).filter (fun kv => kv.1 ≠ "manifest_mac") = kvs := by
    rw [List.filter_append, List.filter_eq_self.2 (by simpa using hmac)]
    simp
  have hperm : ((Json.ofItems (kvs ++ [("manifest_mac", mac)])).filter
      fun kv => kv.1 ≠ "manifest_mac").Perm (Json.ofItems kvs) := by
    have h1 := (Json.perm_ofItems h).filter fun kv => kv.1 ≠ "manifest_mac"
    rw [hfilter] at h1
    exact h1.trans (Json.perm_ofItems hkvs).symm
  rw [dict, seal_without_mac, dict, Json.obj.injEq]
  have hs := (Json.keysSorted_ofItems (kvs ++ [("manifest_mac", mac)])).filter
    fun kv => kv.1 ≠ "manifest_mac"
  exact hperm.eq_of_pairwise (fun a b _ _ hab hba => absurd hba (lt_asymm hab)) hs
    (Json.keysSorted_ofItems kvs)

/-! ## Entries -/

theorem Entry.wf_json (e : Entry) : e.json.Wf := by
  refine wf_dict fun kv hkv => ?_
  simp only [List.mem_cons, List.not_mem_nil, or_false] at hkv
  obtain rfl | rfl | rfl := hkv <;> trivial

theorem Entry.intsFit_json {e : Entry} (h : e.size < 10 ^ 20) : e.json.intsFit = true := by
  refine (intsFit_dict (by simp)).2 fun kv hkv => ?_
  simp only [List.mem_cons, List.not_mem_nil, or_false] at hkv
  obtain rfl | rfl | rfl := hkv
  · rfl
  · exact intsFit_nat h
  · rfl

@[simp] theorem read_nat_natCast (n : ℕ) : read_nat (.int n) = some n := by
  rw [read_nat, if_pos (Int.natCast_nonneg n), Int.toNat_natCast]

/-- An entry is read back. -/
@[simp] theorem read_entry_json (e : Entry) : read_entry e.json = some e := by
  have hnd : (([("path", .str e.path), ("size", .int e.size),
      ("content_sha256", .str e.content_sha256)] : List (String × Json)).map Prod.fst).Nodup := by
    simp
  have hkeys : exact_keys e.json ["path", "size", "content_sha256"] = true :=
    exact_keys_dict hnd fun k => Iff.rfl
  have hpath : item e.json "path" = .str e.path := item_dict hnd (by simp)
  have hsize : item e.json "size" = .int e.size := item_dict hnd (by simp)
  have hsha : item e.json "content_sha256" = .str e.content_sha256 := item_dict hnd (by simp)
  rw [read_entry, hkeys, hpath, hsize, hsha, read_nat_natCast]

/-- An entry is read from its own text alone. -/
theorem eq_json_of_read_entry {v : Json} {e : Entry} (hw : v.Wf) (h : read_entry v = some e) :
    v = e.json := by
  rw [read_entry] at h
  split at h
  · next path size sha hkeys hpath hsize hsha =>
    cases h
    obtain ⟨hobj, hk⟩ := exact_keys_iff.1 hkeys
    have hint : item v "size" = .int size := by
      cases hv : item v "size" with
      | int i =>
        rw [hv, read_nat] at hsize
        split_ifs at hsize with hi
        cases hsize
        rw [Int.toNat_of_nonneg hi]
      | _ => rw [hv] at hsize; cases hsize
    rw [eq_dict_of_keys hobj hw (by simp) hk]
    simp only [List.map_cons, List.map_nil, hpath, hint, hsha]
    rfl
  · cases h

/-! ## Identifiers -/

/-- A text of the prefix and as many digits as a hash has is an identifier. -/
theorem is_identifier_ofList {s : List Char} (hs : s.length = 64) (hhex : s.all isHexDigit = true) :
    is_identifier (String.ofList ("sha256:".toList ++ s)) = true := by
  have hlen : "sha256:".toList.length = 7 := by decide
  have htake : ("sha256:".toList ++ s).take 7 = "sha256:".toList := List.take_left' hlen
  have hdrop : ("sha256:".toList ++ s).drop 7 = s := List.drop_left' hlen
  rw [is_identifier, String.toList_ofList, htake, hdrop, List.length_append, hlen, hs, hhex]
  simp

theorem is_identifier_digest_bytes (payload : Bytes) :
    is_identifier (digest_bytes P payload) = true := by
  refine is_identifier_ofList ?_ (isHexDigit_hex _)
  rw [length_hex, P.length_sha256]

theorem hex_text_hex (n : ℕ) {raw : Bytes} (h : 2 * raw.length = n) :
    hex_text n (.str (String.ofList (hex raw))) = true := by
  rw [hex_text, String.toList_ofList, length_hex, h, isHexDigit_hex]
  simp

/-! ## The core -/

section Core

variable {current : String} {entries : List Entry}

/-- The items of a core stand under distinct keys. -/
theorem nodup_core : (([("current_revision", .str current),
    ("project_identity_sha256", content_of entries "anchor/project-identity.json"),
    ("store_identity_sha256", content_of entries "anchor/memory/identity.json"),
    ("entry_count", .int entries.length), ("total_bytes", .int (entries.map Entry.size).sum),
    ("entries", .arr (entries.map Entry.json))] : List (String × Json)).map Prod.fst).Nodup := by
  simp

theorem exact_keys_core : exact_keys (core_json current entries) ["current_revision",
    "project_identity_sha256", "store_identity_sha256", "entry_count", "total_bytes",
    "entries"] = true :=
  exact_keys_dict nodup_core fun _ => Iff.rfl

@[simp] theorem core_current : item (core_json current entries) "current_revision" = .str current :=
  item_dict nodup_core (by simp)

@[simp] theorem core_project : item (core_json current entries) "project_identity_sha256" =
    content_of entries "anchor/project-identity.json" :=
  item_dict nodup_core (by simp)

@[simp] theorem core_store : item (core_json current entries) "store_identity_sha256" =
    content_of entries "anchor/memory/identity.json" :=
  item_dict nodup_core (by simp)

@[simp] theorem core_count : item (core_json current entries) "entry_count" = .int entries.length :=
  item_dict nodup_core (by simp)

@[simp] theorem core_total : item (core_json current entries) "total_bytes" =
    .int (entries.map Entry.size).sum :=
  item_dict nodup_core (by simp)

@[simp] theorem core_entries : item (core_json current entries) "entries" =
    .arr (entries.map Entry.json) :=
  item_dict nodup_core (by simp)

theorem content_of_wf (path : String) :
    (content_of entries path).Wf ∧ (content_of entries path).intsFit = true := by
  rw [content_of]
  split
  · exact ⟨trivial, rfl⟩
  · exact ⟨trivial, rfl⟩

theorem core_wf : (core_json current entries).Wf := by
  refine wf_dict fun kv hkv => ?_
  simp only [List.mem_cons, List.not_mem_nil, or_false] at hkv
  obtain rfl | rfl | rfl | rfl | rfl | rfl := hkv
  · trivial
  · exact (content_of_wf _).1
  · exact (content_of_wf _).1
  · trivial
  · trivial
  · refine Json.WfList_iff.2 fun v hv => ?_
    obtain ⟨e, -, rfl⟩ := List.mem_map.1 hv
    exact e.wf_json

/-- Within the limits, the core is short enough to be read back. -/
theorem core_intsFit (hcount : entries.length ≤ MAX_FILES)
    (htotal : (entries.map Entry.size).sum ≤ MAX_BUNDLE_BYTES) :
    (core_json current entries).intsFit = true := by
  have hfiles : MAX_FILES < 10 ^ 20 := by decide
  have hbytes : MAX_BUNDLE_BYTES < 10 ^ 20 := by decide
  refine (intsFit_dict nodup_core).2 fun kv hkv => ?_
  simp only [List.mem_cons, List.not_mem_nil, or_false] at hkv
  obtain rfl | rfl | rfl | rfl | rfl | rfl := hkv
  · rfl
  · exact (content_of_wf _).2
  · exact (content_of_wf _).2
  · exact intsFit_nat (lt_of_le_of_lt hcount hfiles)
  · exact intsFit_nat (lt_of_le_of_lt htotal hbytes)
  · refine intsFit_arr fun v hv => ?_
    obtain ⟨e, he, rfl⟩ := List.mem_map.1 hv
    have hsize : e.size ≤ (entries.map Entry.size).sum :=
      List.single_le_sum (fun _ _ => Nat.zero_le _) _ (List.mem_map_of_mem he)
    exact Entry.intsFit_json (lt_of_le_of_lt (hsize.trans htotal) hbytes)

end Core

/-! ## The manifest -/

section Manifest

variable {keys : Subkeys} {adapter_id wrapped_cek : String} {core : Json}

/-- The authentication code of a manifest. -/
def manifest_mac (P : Primitives) (keys : Subkeys) (adapter_id wrapped_cek : String) (core : Json) :
    String :=
  compute_manifest_mac P keys.mac_key (manifest_transcript
    (dict (seal_items keys adapter_id wrapped_cek)) core (.str (digest_json P core)))

/-- The seal of a manifest. -/
def seal_json (P : Primitives) (keys : Subkeys) (adapter_id wrapped_cek : String) (core : Json) :
    Json :=
  dict (seal_items keys adapter_id wrapped_cek ++
    [("manifest_mac", .str (manifest_mac P keys adapter_id wrapped_cek core))])

theorem nodup_seal (mac : Json) :
    ((seal_items keys adapter_id wrapped_cek ++ [("manifest_mac", mac)]).map Prod.fst).Nodup := by
  simp [seal_items]

theorem nodup_manifest (seal_obj sha : Json) : (([("schema", .str MANIFEST_SCHEMA),
    ("profile", .str SEALED_PROFILE), ("seal", seal_obj), ("core", core),
    ("manifest_sha256", sha)] : List (String × Json)).map Prod.fst).Nodup := by
  simp

@[simp] theorem manifest_schema :
    item (manifest_json P keys adapter_id wrapped_cek core) "schema" = .str MANIFEST_SCHEMA :=
  item_dict (nodup_manifest _ _) (by simp)

@[simp] theorem manifest_profile :
    item (manifest_json P keys adapter_id wrapped_cek core) "profile" = .str SEALED_PROFILE :=
  item_dict (nodup_manifest _ _) (by simp)

@[simp] theorem manifest_seal :
    item (manifest_json P keys adapter_id wrapped_cek core) "seal" =
      seal_json P keys adapter_id wrapped_cek core :=
  item_dict (nodup_manifest _ _) (by simp [seal_json, manifest_mac])

@[simp] theorem manifest_core :
    item (manifest_json P keys adapter_id wrapped_cek core) "core" = core :=
  item_dict (nodup_manifest _ _) (by simp)

@[simp] theorem manifest_sha256 :
    item (manifest_json P keys adapter_id wrapped_cek core) "manifest_sha256" =
      .str (digest_json P core) :=
  item_dict (nodup_manifest _ _) (by simp)

theorem exact_keys_manifest : exact_keys (manifest_json P keys adapter_id wrapped_cek core)
    ["schema", "profile", "seal", "core", "manifest_sha256"] = true :=
  exact_keys_dict (nodup_manifest _ _) fun _ => Iff.rfl

theorem exact_keys_seal : exact_keys (seal_json P keys adapter_id wrapped_cek core)
    ["algorithm", "kdf", "adapter_id", "wrapped_cek", "bundle_id", "manifest_mac"] = true :=
  exact_keys_dict (nodup_seal _) fun _ => Iff.rfl

@[simp] theorem seal_algorithm :
    item (seal_json P keys adapter_id wrapped_cek core) "algorithm" = .str "aes-256-gcm" :=
  item_dict (nodup_seal _) (by simp [seal_items])

@[simp] theorem seal_kdf :
    item (seal_json P keys adapter_id wrapped_cek core) "kdf" = .str "hkdf-sha256" :=
  item_dict (nodup_seal _) (by simp [seal_items])

@[simp] theorem seal_adapter_id :
    item (seal_json P keys adapter_id wrapped_cek core) "adapter_id" = .str adapter_id :=
  item_dict (nodup_seal _) (by simp [seal_items])

@[simp] theorem seal_wrapped_cek :
    item (seal_json P keys adapter_id wrapped_cek core) "wrapped_cek" = .str wrapped_cek :=
  item_dict (nodup_seal _) (by simp [seal_items])

@[simp] theorem seal_bundle_id :
    item (seal_json P keys adapter_id wrapped_cek core) "bundle_id" =
      .str (String.ofList (hex keys.bundle_id_raw)) :=
  item_dict (nodup_seal _) (by simp [seal_items])

@[simp] theorem seal_manifest_mac :
    item (seal_json P keys adapter_id wrapped_cek core) "manifest_mac" =
      .str (manifest_mac P keys adapter_id wrapped_cek core) :=
  item_dict (nodup_seal _) (by simp)

theorem seal_without_mac_seal : seal_without_mac (seal_json P keys adapter_id wrapped_cek core) =
    dict (seal_items keys adapter_id wrapped_cek) :=
  seal_without_mac_dict (nodup_seal _)

theorem manifest_wf (hcore : core.Wf) : (manifest_json P keys adapter_id wrapped_cek core).Wf := by
  refine wf_dict fun kv hkv => ?_
  simp only [List.mem_cons, List.not_mem_nil, or_false] at hkv
  obtain rfl | rfl | rfl | rfl | rfl := hkv
  · trivial
  · trivial
  · refine wf_dict fun kv hkv => ?_
    simp only [seal_items, List.cons_append, List.nil_append, List.mem_cons, List.not_mem_nil,
      or_false] at hkv
    obtain rfl | rfl | rfl | rfl | rfl | rfl := hkv <;> trivial
  · exact hcore
  · trivial

theorem manifest_intsFit (hcore : core.intsFit = true) :
    (manifest_json P keys adapter_id wrapped_cek core).intsFit = true := by
  refine (intsFit_dict (nodup_manifest _ _)).2 fun kv hkv => ?_
  simp only [List.mem_cons, List.not_mem_nil, or_false] at hkv
  obtain rfl | rfl | rfl | rfl | rfl := hkv
  · rfl
  · rfl
  · refine (intsFit_dict (nodup_seal _)).2 fun kv hkv => ?_
    simp only [seal_items, List.cons_append, List.nil_append, List.mem_cons, List.not_mem_nil,
      or_false] at hkv
    obtain rfl | rfl | rfl | rfl | rfl | rfl := hkv <;> rfl
  · exact hcore
  · rfl

/-- A manifest that creation writes has the required shape exactly when its wrapped key has
    that of base64: inspection asks for at least one character. -/
theorem structurally_invalid_manifest {current : String} {entries : List Entry}
    (hid : keys.bundle_id_raw.length = BUNDLE_ID_RAW_LENGTH)
    (hwrapped : wrapped_cek.length ≤ WRAPPED_CEK_MAX_CHARS) (hcurrent : is_identifier current = true)
    (hproject : ∃ s, content_of entries "anchor/project-identity.json" = .str s ∧
      is_identifier s = true)
    (hstore : ∃ s, content_of entries "anchor/memory/identity.json" = .str s ∧
      is_identifier s = true) :
    manifest_structurally_invalid P
      (manifest_json P keys adapter_id wrapped_cek (core_json current entries)) =
        !b64Shape wrapped_cek.toList := by
  obtain ⟨project, hp, hpi⟩ := hproject
  obtain ⟨store, hs, hsi⟩ := hstore
  have hbundle : hex_text 32 (.str (String.ofList (hex keys.bundle_id_raw))) = true :=
    hex_text_hex 32 (by rw [hid]; rfl)
  have hmac : hex_text 64
      (.str (manifest_mac P keys adapter_id wrapped_cek (core_json current entries))) = true :=
    hex_text_hex 64 (by rw [P.length_hmac_sha256])
  have hsha : is_identifier (digest_json P (core_json current entries)) = true :=
    is_identifier_digest_bytes _
  rw [manifest_structurally_invalid]
  simp only [exact_keys_manifest, manifest_schema, manifest_profile, manifest_seal, manifest_core,
    exact_keys_seal, seal_algorithm, seal_kdf, seal_adapter_id, seal_wrapped_cek, seal_bundle_id,
    seal_manifest_mac, hbundle, hmac, exact_keys_core, manifest_sha256, core_current, core_project,
    core_store, hp, hs, is_str, hwrapped, List.all_cons, List.all_nil, hsha, hcurrent, hpi, hsi]
  simp

end Manifest

end AnKla.Sealed
