import AnKla.Sealed.Opens
import AnKla.Json.Loads

/-!
# What a key binds

Whoever has not the key can only repeat what was authenticated under it: the one transcript,
and the encrypted files with their nonces and their associated data. Under this assumption
a bundle that passes verification with the key is the bundle that was published.

* `entry_nonce_inj`: no two entries of a bundle have one nonce.
* `Unforged`: the assumption, of one tree against the published one.
* `manifest_of_transcript`: the transcript determines the manifest.
* `Inspected`: what inspection has established when it finds nothing wrong.
* `lookup_of_decrypted`: a tree that is decrypted has the files of the published one.
-/

namespace AnKla.Sealed

open PyJson Base64

/-! ## Nonces -/

/-- The nonce of an index determines it. -/
theorem entry_nonce_inj {i j : ℕ} {nonce : Bytes} (hi : entry_nonce i = .ok nonce)
    (hj : entry_nonce j = .ok nonce) : i = j := by
  rw [entry_nonce] at hi hj
  split_ifs at hi with hi'
  split_ifs at hj with hj'
  have hbytes := Except.ok.inj (hi.trans hj.symm)
  have hbyte (k : ℕ) (hk : k < NONCE_BYTES) : i / 256 ^ (NONCE_BYTES - 1 - k) % 256 =
      j / 256 ^ (NONCE_BYTES - 1 - k) % 256 := by
    have hget := congrArg (fun l => (l[k]?).map UInt8.toNat) hbytes
    simpa [List.getElem?_map, List.getElem?_range hk] using hget
  have h0 := hbyte 11 (by decide)
  have h1 := hbyte 10 (by decide)
  have h2 := hbyte 9 (by decide)
  simp only [NONCE_BYTES, MAX_FILES] at h0 h1 h2 hi' hj'
  norm_num at h0 h1 h2
  omega

/-! ## Transcripts -/

variable (P : Primitives)

/-- The transcript that the code of a manifest is on. -/
def transcript_of (manifest : Json) : Json :=
  manifest_transcript (seal_without_mac (item manifest "seal")) (item manifest "core")
    (item manifest "manifest_sha256")

/-- The manifest of a tree. -/
def Tree.manifest (t : Tree) : Option Json := (t.safe_read "manifest.json").bind json_loads

/-- A file of a tree is encrypted under this nonce, with these associated data. -/
def EncryptedIn (keys : Subkeys) (t : Tree) (nonce aad ciphertext : Bytes) : Prop :=
  ∃ manifest index v e, t.manifest = some manifest ∧
    (elems (item (item manifest "core") "entries"))[index]? = some v ∧ read_entry v = some e ∧
    entry_nonce index = .ok nonce ∧ aad = entry_aad keys.bundle_id_raw v ∧
    t.safe_read ("entries/" ++ e.path) = some ciphertext

/-- The second tree holds nothing that is authentic under the key, but what is in the first. -/
structure Unforged (keys : Subkeys) (t t' : Tree) : Prop where
  mac : ∀ manifest', t'.manifest = some manifest' →
    verify_manifest_mac P keys.mac_key (transcript_of manifest')
      (item (item manifest' "seal") "manifest_mac") = true →
    ∃ manifest, t.manifest = some manifest ∧
      canonical_json (transcript_of manifest') = canonical_json (transcript_of manifest)
  aead : ∀ path nonce ciphertext aad plaintext, t'.safe_read ("entries/" ++ path) = some ciphertext →
    P.decrypt keys.aead_key nonce ciphertext aad = some plaintext →
    EncryptedIn keys t nonce aad ciphertext

variable {P}

theorem canonical_json_inj {v w : Json} (hv : v.Written) (hw : w.Written)
    (h : canonical_json v = canonical_json w) : v = w := by
  have hdecode := congrArg decode_utf8 h
  rw [canonical_json, canonical_json, decode_utf8_utf8, decode_utf8_utf8, Option.some.injEq] at hdecode
  exact dumps_inj hv hw hdecode

theorem written_of_json_loads {raw : Bytes} {v : Json} (h : json_loads raw = some v) : v.Written := by
  obtain ⟨s, -, hs⟩ := Option.bind_eq_some_iff.1 h
  exact loads_written hs

theorem storable_seal_without_mac {v : Json} (h : Storable v) : Storable (seal_without_mac v) := by
  cases v with
  | obj kvs =>
    obtain ⟨⟨hsorted, hwf⟩, hfit⟩ := h
    refine ⟨⟨hsorted.sublist List.filter_sublist, ?_⟩, ?_⟩
    · exact Json.WfItems_iff.2 fun kv hkv => Json.WfItems_iff.1 hwf kv (List.mem_of_mem_filter hkv)
    · exact Json.intsFitItems_iff.2 fun kv hkv =>
        Json.intsFitItems_iff.1 hfit kv (List.mem_of_mem_filter hkv)
  | _ => exact h

theorem item_seal_without_mac (v : Json) {k : String} (hk : k ≠ "manifest_mac") :
    item (seal_without_mac v) k = item v k := by
  cases v with
  | obj kvs =>
    have hfind : (kvs.filter fun kv => kv.1 ≠ "manifest_mac").find? (fun kv => kv.1 = k) =
        kvs.find? fun kv => kv.1 = k := by
      rw [List.find?_filter]
      congr 1
      funext kv
      by_cases hkv : kv.1 = k
      · simp [hkv, hk]
      · simp [hkv]
    rw [seal_without_mac, item, item, Json.get?, Json.get?, hfind]
  | _ => rfl

theorem nodup_transcript (seal_obj core sha : Json) : (([("schema", .str MANIFEST_SCHEMA),
    ("profile", .str SEALED_PROFILE), ("seal", seal_obj), ("core", core),
    ("manifest_sha256", sha)] : List (String × Json)).map Prod.fst).Nodup := by
  simp

theorem storable_transcript {manifest : Json} (h : Storable manifest) :
    Storable (transcript_of manifest) := by
  refine (storable_dict (nodup_transcript _ _ _)).2 fun kv hkv => ?_
  simp only [List.mem_cons, List.not_mem_nil, or_false] at hkv
  obtain rfl | rfl | rfl | rfl | rfl := hkv
  · exact storable_str _
  · exact storable_str _
  · exact storable_seal_without_mac (storable_item h _)
  · exact storable_item h _
  · exact storable_item h _

theorem transcript_seal (m : Json) :
    item (transcript_of m) "seal" = seal_without_mac (item m "seal") :=
  item_dict (nodup_transcript _ _ _) (by simp)

theorem transcript_core (m : Json) : item (transcript_of m) "core" = item m "core" :=
  item_dict (nodup_transcript _ _ _) (by simp)

theorem transcript_sha256 (m : Json) :
    item (transcript_of m) "manifest_sha256" = item m "manifest_sha256" :=
  item_dict (nodup_transcript _ _ _) (by simp)

/-- A manifest with the keys of one. -/
structure Shaped (m : Json) : Prop where
  storable : Storable m
  keys : exact_keys m ["schema", "profile", "seal", "core", "manifest_sha256"] = true
  schema : item m "schema" = .str MANIFEST_SCHEMA
  profile : item m "profile" = .str SEALED_PROFILE
  seal_keys : exact_keys (item m "seal")
    ["algorithm", "kdf", "adapter_id", "wrapped_cek", "bundle_id", "manifest_mac"] = true

theorem eq_of_items {v w : Json} (hv : v.Wf) (hw : w.Wf) {keys : List String} (hn : keys.Nodup)
    (hkv : exact_keys v keys = true) (hkw : exact_keys w keys = true)
    (h : ∀ k ∈ keys, item v k = item w k) : v = w := by
  obtain ⟨ho, hk⟩ := exact_keys_iff.1 hkv
  obtain ⟨ho', hk'⟩ := exact_keys_iff.1 hkw
  rw [eq_dict_of_keys ho hv hn hk, eq_dict_of_keys ho' hw hn hk']
  exact congrArg dict (List.map_congr_left fun k hmem => by rw [h k hmem])

/-- The transcript and the code determine the manifest. -/
theorem manifest_of_transcript {v w : Json} (hv : Shaped v) (hw : Shaped w)
    (htranscript : transcript_of v = transcript_of w)
    (hmac : item (item v "seal") "manifest_mac" = item (item w "seal") "manifest_mac") : v = w := by
  have hwithout : seal_without_mac (item v "seal") = seal_without_mac (item w "seal") := by
    rw [← transcript_seal, htranscript, transcript_seal]
  have hseal : item v "seal" = item w "seal" := by
    refine eq_of_items (storable_item hv.storable _).1 (storable_item hw.storable _).1 (by decide)
      hv.seal_keys hw.seal_keys fun k _ => ?_
    by_cases hk : k = "manifest_mac"
    · rw [hk, hmac]
    · rw [← item_seal_without_mac _ hk, hwithout, item_seal_without_mac _ hk]
  refine eq_of_items hv.storable.1 hw.storable.1 (by decide) hv.keys hw.keys fun k hk => ?_
  simp only [List.mem_cons, List.not_mem_nil, or_false] at hk
  obtain rfl | rfl | rfl | rfl | rfl := hk
  · rw [hv.schema, hw.schema]
  · rw [hv.profile, hw.profile]
  · exact hseal
  · rw [← transcript_core, htranscript, transcript_core]
  · rw [← transcript_sha256, htranscript, transcript_sha256]

/-! ## Inspection -/

/-- What inspection has established when it finds nothing wrong. -/
structure Inspected (t : Tree) (max_files : ℕ) (manifest : Json) (es : List Entry)
    (ciphertexts : List (String × Bytes)) : Prop where
  raw : t.safe_read "manifest.json" = some (canonical_json manifest)
  loaded : t.manifest = some manifest
  shaped : Shaped manifest
  entries : (elems (item (item manifest "core") "entries")).mapM read_entry = some es
  count : es.length ≤ max_files
  nodup : (es.map Entry.path).Nodup
  tree : tree_diagnostics t (es.map Entry.path) = []
  read : (es.map Entry.path).mapM (fun path =>
    (t.safe_read ("entries/" ++ path)).map (path, ·)) = some ciphertexts

theorem shaped_of_valid {manifest : Json} (hs : Storable manifest)
    (h : manifest_structurally_invalid P manifest = false) : Shaped manifest := by
  simp only [manifest_structurally_invalid, Bool.or_eq_false_iff, Bool.not_eq_false', ne_eq,
    decide_eq_false_iff_not, not_not] at h
  obtain ⟨⟨hkeys, hschema, hprofile⟩, ⟨⟨⟨⟨⟨⟨⟨⟨hseal, -⟩, -⟩, -⟩, -⟩, -⟩, -⟩, -⟩, -⟩⟩ := h
  exact ⟨hs, hkeys, hschema, hprofile, hseal⟩

/-- An inspection that finds nothing wrong has passed every check. -/
theorem checks_nil {invalid : Prop} [Decidable invalid] {manifest : Json} {early late : List String}
    {last i : Inspection} (hi : (if invalid then Inspection.invalid
      else if early ≠ [] then ⟨some manifest, [], early⟩
      else if late ≠ [] then ⟨some manifest, [], late⟩ else last) = i) (h : i.diagnostics = []) :
    ¬invalid ∧ early = [] ∧ late = [] ∧ last = i := by
  split_ifs at hi with hinvalid hearly hlate
  · subst hi
    exact absurd h (List.cons_ne_nil _ _)
  · subst hi
    exact absurd h hearly
  · subst hi
    exact absurd h hlate
  · exact ⟨hinvalid, not_not.1 hearly, not_not.1 hlate, hi⟩

/-- The manifest, the entries and the files of an inspection that finds nothing wrong. -/
theorem inspect_entries_nil {t : Tree} {max_files max_bytes : ℕ} {manifest : Json} {vs : List Json}
    {i : Inspection} (hi : inspect_entries P t max_files max_bytes manifest vs = i)
    (h : i.diagnostics = []) :
    i.manifest = some manifest ∧ ∃ es, vs.mapM read_entry = some es ∧ es.length ≤ max_files ∧
      (es.map Entry.path).Nodup ∧ tree_diagnostics t (es.map Entry.path) = [] ∧
      (es.map Entry.path).mapM (fun path => (t.safe_read ("entries/" ++ path)).map (path, ·)) =
        some i.ciphertexts := by
  rw [inspect_entries] at hi
  cases hes : vs.mapM read_entry with
  | none =>
    rw [hes] at hi
    subst hi
    exact absurd h (List.cons_ne_nil _ _)
  | some es =>
    rw [hes] at hi
    obtain ⟨hpaths, hearly, hlate, hlast⟩ := checks_nil hi h
    simp only [Bool.not_eq_true', Bool.not_eq_false, Bool.and_eq_true, decide_eq_true_eq] at hpaths
    have hcount : es.length ≤ max_files := by
      have hcounts := (List.append_eq_nil_iff.1 hearly).1
      split_ifs at hcounts with hcounts_ok
      simp only [Bool.and_eq_true, decide_eq_true_eq] at hcounts_ok
      exact hcounts_ok.1.2
    have htree := (List.append_eq_nil_iff.1 hlate).2
    cases hread : (es.map Entry.path).mapM fun path =>
        (t.safe_read ("entries/" ++ path)).map (path, ·) with
    | none =>
      rw [hread] at hlast
      subst hlast
      exact absurd h (List.cons_ne_nil _ _)
    | some ciphertexts =>
      rw [hread] at hlast
      subst hlast
      exact ⟨rfl, es, rfl, hcount, hpaths.1.1, htree, hread⟩

/-- What an inspection that finds nothing wrong has established. -/
theorem inspected {t : Tree} {max_files max_bytes : ℕ}
    (h : (inspect_bundle P t max_files max_bytes).diagnostics = []) :
    ∃ manifest es, (inspect_bundle P t max_files max_bytes).manifest = some manifest ∧
      Inspected t max_files manifest es (inspect_bundle P t max_files max_bytes).ciphertexts := by
  have hinvalid : Inspection.invalid.diagnostics ≠ [] := List.cons_ne_nil _ _
  cases hraw : t.safe_read "manifest.json" with
  | none =>
    rw [inspect_bundle, hraw] at h
    exact absurd h hinvalid
  | some raw =>
    cases hloads : json_loads raw with
    | none =>
      simp only [inspect_bundle, hraw, hloads] at h
      exact absurd h hinvalid
    | some manifest =>
      simp only [inspect_bundle, hraw, hloads] at h ⊢
      split_ifs at h ⊢ with hcanonical hstructure
      · exact absurd h hinvalid
      · exact absurd h hinvalid
      · simp only [Bool.or_eq_true, Bool.not_eq_true', decide_eq_true_eq, ne_eq, not_or,
          Bool.not_eq_false, not_not] at hcanonical
        have hshaped := shaped_of_valid (written_of_json_loads hloads) (by simpa using hstructure)
        cases hentries : item (item manifest "core") "entries" with
        | arr vs =>
          simp only [hentries] at h ⊢
          obtain ⟨hm, es, hes, hcount, hnodup, htree, hread⟩ := inspect_entries_nil rfl h
          refine ⟨manifest, es, hm, ?_, ?_, hshaped, ?_, hcount, hnodup, htree, hread⟩
          · rw [hraw, hcanonical.2]
          · rw [Tree.manifest, hraw]
            exact hloads
          · rw [hentries]
            exact hes
        | _ =>
          simp only [hentries] at h
          exact absurd h hinvalid

theorem lookup_of_safe_read {t : Tree} {path : String} {raw : Bytes}
    (h : t.safe_read path = some raw) : t.files.lookup path = some raw := by
  rw [Tree.safe_read] at h
  split_ifs at h
  exact h

/-- The files that inspection has read, under their paths. -/
theorem Inspected.lookup {t : Tree} {max_files : ℕ} {manifest : Json} {es : List Entry}
    {ciphertexts : List (String × Bytes)} (h : Inspected t max_files manifest es ciphertexts)
    {path : String} (hpath : path ∈ es.map Entry.path) :
    ∃ raw, t.safe_read ("entries/" ++ path) = some raw ∧ ciphertexts.lookup path = some raw := by
  have hall : ∀ {paths : List String} {rows : List (String × Bytes)},
      paths.mapM (fun path => (t.safe_read ("entries/" ++ path)).map (path, ·)) = some rows →
      rows.map Prod.fst = paths ∧
        ∀ p ∈ paths, ∃ raw, t.safe_read ("entries/" ++ p) = some raw ∧ (p, raw) ∈ rows := by
    intro paths
    induction paths with
    | nil =>
      intro rows hrows
      cases hrows
      exact ⟨rfl, fun _ hp => absurd hp List.not_mem_nil⟩
    | cons p paths ih =>
      intro rows hrows
      rw [List.mapM_cons] at hrows
      obtain ⟨row, hrow, hrows⟩ := Option.bind_eq_some_iff.1 hrows
      obtain ⟨rest, hrest, hrows⟩ := Option.bind_eq_some_iff.1 hrows
      cases hrows
      obtain ⟨raw, hraw, rfl⟩ := Option.map_eq_some_iff.1 hrow
      obtain ⟨hnames, hmem⟩ := ih hrest
      refine ⟨by rw [List.map_cons, hnames], List.forall_mem_cons.2
        ⟨⟨raw, hraw, List.mem_cons_self⟩, fun q hq => ?_⟩⟩
      obtain ⟨raw', hraw', hin⟩ := hmem q hq
      exact ⟨raw', hraw', List.mem_cons_of_mem _ hin⟩
  obtain ⟨hnames, hmem⟩ := hall h.read
  obtain ⟨raw, hraw, hin⟩ := hmem path hpath
  exact ⟨raw, hraw, lookup_of_mem (hnames ▸ h.nodup) hin⟩

/-! ## Decryption -/

section Decryption

variable {keys : Subkeys} {ciphertexts : List (String × Bytes)}

/-- Every entry that was decrypted was decrypted under the nonce of its place. -/
theorem decrypt_rows_ok {k : ℕ} {vs : List Json} {payloads : List (String × Bytes)}
    (h : decrypt_rows P keys ciphertexts k vs = .ok payloads) {i : ℕ} {v : Json} {e : Entry}
    (hv : vs[i]? = some v) (he : read_entry v = some e) :
    ∃ nonce plaintext, entry_nonce (k + i) = .ok nonce ∧
      P.decrypt keys.aead_key nonce ((ciphertexts.lookup e.path).getD [])
        (entry_aad keys.bundle_id_raw v) = some plaintext := by
  induction vs generalizing k i payloads with
  | nil => cases hv
  | cons w vs ih =>
    rw [decrypt_rows] at h
    cases hw : read_entry w with
    | none =>
      rw [hw] at h
      cases h
    | some entry =>
      simp only [hw, bind_ok, demand_ok, exists_const] at h
      obtain ⟨-, nonce, hnonce, h⟩ := h
      cases hdecrypt : P.decrypt keys.aead_key nonce ((ciphertexts.lookup entry.path).getD [])
          (entry_aad keys.bundle_id_raw w) with
      | none =>
        rw [hdecrypt] at h
        cases h
      | some plaintext =>
        simp only [hdecrypt, bind_ok, demand_ok, exists_const] at h
        obtain ⟨-, rest, hrest, -⟩ := h
        cases i with
        | zero =>
          cases hv
          obtain rfl := Option.some.inj (hw.symm.trans he)
          exact ⟨nonce, plaintext, hnonce, hdecrypt⟩
        | succ i =>
          obtain ⟨nonce', plaintext', hn, hp⟩ := ih hrest hv
          exact ⟨nonce', plaintext', by rw [← hn, Nat.add_right_comm, Nat.add_assoc], hp⟩

/-- Within the limits, a decryption that fails is an authentication failure. -/
theorem decrypt_rows_error {k : ℕ} {vs : List Json} {e : SealFailure}
    (hk : k + vs.length ≤ MAX_FILES) (h : decrypt_rows P keys ciphertexts k vs = .error e) :
    e = .auth_failed := by
  induction vs generalizing k with
  | nil => cases h
  | cons w vs ih =>
    rw [List.length_cons] at hk
    rw [decrypt_rows] at h
    cases hw : read_entry w with
    | none =>
      rw [hw] at h
      cases h
      rfl
    | some entry =>
      have hlt : k < MAX_FILES := by omega
      simp only [hw, demand, entry_nonce, hlt, if_true, bind, Except.bind] at h
      split_ifs at h
      · simp only at h
        split at h
        · cases h
          rfl
        · split_ifs at h
          · simp only at h
            cases hrest : decrypt_rows P keys ciphertexts (k + 1) vs with
            | error e' =>
              rw [hrest] at h
              cases h
              exact ih (by omega) hrest
            | ok rest =>
              rw [hrest] at h
              cases h
          · cases h
            rfl
      · cases h
        rfl

end Decryption

theorem decrypt_all_ok {manifest : Json} {ciphertexts : List (String × Bytes)} {cek : Bytes}
    {payloads : List (String × Bytes)} (h : decrypt_all P manifest ciphertexts cek = .ok payloads) :
    verify_manifest_mac P (derive_subkeys P cek).mac_key (transcript_of manifest)
        (item (item manifest "seal") "manifest_mac") = true ∧
      decrypt_rows P (derive_subkeys P cek) ciphertexts 0
        (elems (item (item manifest "core") "entries")) = .ok payloads := by
  simp only [decrypt_all, bind_ok, demand_ok, exists_const] at h
  exact ⟨h.2.1, h.2.2⟩

theorem decrypt_all_error {manifest : Json} {ciphertexts : List (String × Bytes)} {cek : Bytes}
    {e : SealFailure} (hcount : (elems (item (item manifest "core") "entries")).length ≤ MAX_FILES)
    (h : decrypt_all P manifest ciphertexts cek = .error e) : e = .auth_failed := by
  simp only [decrypt_all, demand, bind, Except.bind] at h
  split_ifs at h
  · exact decrypt_rows_error (by omega) h
  all_goals
    cases h
    rfl

theorem length_of_mapM {α β : Type} {f : α → Option β} {xs : List α} {ys : List β}
    (h : xs.mapM f = some ys) : ys.length = xs.length := by
  induction xs generalizing ys with
  | nil =>
    cases h
    rfl
  | cons x xs ih =>
    rw [List.mapM_cons] at h
    obtain ⟨y, -, h⟩ := Option.bind_eq_some_iff.1 h
    obtain ⟨rest, hrest, h⟩ := Option.bind_eq_some_iff.1 h
    cases h
    rw [List.length_cons, List.length_cons, ih hrest]

/-! ## The published tree, and another -/

namespace Published

variable {adapter : KeyAdapter} {store : Store} {cek : Bytes} {current : String}
  {files : List (String × Bytes)} {rows : List (Entry × Bytes)} {wrapped_cek adapter_id : String}
  (h : Published P adapter store cek current files rows wrapped_cek adapter_id)

include h

theorem tree_manifest : (staged_tree (manifest_json P (derive_subkeys P cek) adapter_id wrapped_cek
    (core_json current (rows.map Prod.fst))) rows).manifest =
      some (manifest_json P (derive_subkeys P cek) adapter_id wrapped_cek
        (core_json current (rows.map Prod.fst))) := by
  rw [Tree.manifest, safe_read_manifest, Option.bind_some, h.loads_manifest]

theorem shaped : Shaped (manifest_json P (derive_subkeys P cek) adapter_id wrapped_cek
    (core_json current (rows.map Prod.fst))) where
  storable := ⟨manifest_wf core_wf, manifest_intsFit (core_intsFit h.count h.total)⟩
  keys := exact_keys_manifest
  schema := manifest_schema
  profile := manifest_profile
  seal_keys := by
    rw [manifest_seal]
    exact exact_keys_seal

/-- Under the key, a tree that is decrypted has the manifest that was published. -/
theorem manifest_of_decrypted {t' : Tree} (hu : Unforged P (derive_subkeys P cek)
      (staged_tree (manifest_json P (derive_subkeys P cek) adapter_id wrapped_cek
        (core_json current (rows.map Prod.fst))) rows) t')
    {manifest' : Json} (hloaded : t'.manifest = some manifest') (hshaped : Shaped manifest')
    (hmac : verify_manifest_mac P (derive_subkeys P cek).mac_key (transcript_of manifest')
      (item (item manifest' "seal") "manifest_mac") = true) :
    manifest' = manifest_json P (derive_subkeys P cek) adapter_id wrapped_cek
      (core_json current (rows.map Prod.fst)) := by
  obtain ⟨manifest, hm, hcanonical⟩ := hu.mac manifest' hloaded hmac
  obtain rfl := Option.some.inj (h.tree_manifest.symm.trans hm)
  have htranscript := canonical_json_inj (storable_transcript hshaped.storable)
    (storable_transcript h.shaped.storable) hcanonical
  refine manifest_of_transcript hshaped h.shaped htranscript ?_
  simp only [verify_manifest_mac, Bool.and_eq_true, decide_eq_true_eq] at hmac
  rw [hmac.2, htranscript, manifest_seal, seal_manifest_mac, transcript_of, manifest_seal,
    manifest_core, manifest_sha256, seal_without_mac_seal]
  rfl

/-- Under the key, a tree that is decrypted has the files that were published, and no others. -/
theorem lookup_of_decrypted {t' : Tree} (hu : Unforged P (derive_subkeys P cek)
      (staged_tree (manifest_json P (derive_subkeys P cek) adapter_id wrapped_cek
        (core_json current (rows.map Prod.fst))) rows) t')
    {manifest' : Json} {es : List Entry} {ciphertexts payloads : List (String × Bytes)}
    (hi : Inspected t' MAX_FILES manifest' es ciphertexts)
    (hd : AnKla.Sealed.decrypt_all P manifest' ciphertexts cek = .ok payloads) (path : String) :
    t'.files.lookup path = (staged_tree (manifest_json P (derive_subkeys P cek) adapter_id
      wrapped_cek (core_json current (rows.map Prod.fst))) rows).files.lookup path := by
  obtain ⟨hmac, hrows⟩ := decrypt_all_ok hd
  obtain rfl := h.manifest_of_decrypted hu hi.loaded hi.shaped hmac
  have hes : es = rows.map Prod.fst := by
    have hentries := hi.entries
    rw [manifest_core, core_entries, elems, mapM_entry?] at hentries
    exact (Option.some.inj hentries).symm
  subst hes
  have hnames (p : String) : p ∈ t'.files.map Prod.fst ↔
      p ∈ "manifest.json" :: ((rows.map Prod.fst).map Entry.path).map ("entries/" ++ ·) := by
    have htree := hi.tree
    simp only [tree_diagnostics, List.append_eq_nil_iff, ite_eq_left_iff, List.cons_ne_nil,
      imp_false, not_not, List.all_eq_true, List.contains_iff_mem] at htree
    exact ⟨htree.1.2 p, htree.1.1 p⟩
  have hpaths : (rows.map Prod.fst).map Entry.path = rows.map fun r => r.1.path := by
    rw [List.map_map]
    rfl
  by_cases hpath : path ∈ t'.files.map Prod.fst
  · rcases List.mem_cons.1 ((hnames path).1 hpath) with rfl | hentry
    · rw [lookup_of_safe_read hi.raw, lookup_of_safe_read safe_read_manifest]
    · obtain ⟨p, hp, rfl⟩ := List.mem_map.1 hentry
      obtain ⟨raw, hraw, hlookup⟩ := hi.lookup hp
      obtain ⟨e, he, rfl⟩ := List.mem_map.1 hp
      obtain ⟨i, hi'⟩ := List.getElem?_of_mem he
      have hv : ((rows.map Prod.fst).map Entry.json)[i]? = some e.json := by
        rw [List.getElem?_map, hi', Option.map_some]
      rw [manifest_core, core_entries, elems] at hrows
      obtain ⟨nonce, plaintext, hnonce, hdecrypt⟩ := decrypt_rows_ok hrows hv (read_entry_json e)
      rw [hlookup, Option.getD_some, Nat.zero_add] at *
      -- only the entry of this nonce was encrypted under it
      obtain ⟨manifest, j, w, e', hm, hw, he', hnonce', -, hread⟩ :=
        hu.aead _ _ _ _ _ hraw hdecrypt
      obtain rfl := Option.some.inj (h.tree_manifest.symm.trans hm)
      obtain rfl := entry_nonce_inj hnonce hnonce'
      rw [manifest_core, core_entries, elems, hv, Option.some.injEq] at hw
      subst hw
      obtain rfl := Option.some.inj ((read_entry_json e).symm.trans he')
      rw [lookup_of_safe_read hraw, lookup_of_safe_read hread]
  · have hnone {t : Tree} (hnot : path ∉ t.files.map Prod.fst) : t.files.lookup path = none := by
      rw [List.lookup_eq_none_iff]
      intro f hf
      rw [bne_iff_ne]
      rintro rfl
      exact hnot (List.mem_map_of_mem hf)
    have hpath' := hpath
    rw [hnames, hpaths, ← staged_paths] at hpath'
    rw [hnone hpath, hnone hpath']

end Published

end AnKla.Sealed
