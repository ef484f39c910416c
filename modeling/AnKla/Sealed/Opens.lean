import AnKla.Sealed.Manifest

/-!
# A published bundle can be opened

Creation and inspection check a manifest separately. They agree but for one thing: the
adapter may answer the empty text, which writes no bytes, and inspection asks for at
least one character.

* `decrypt_rows_seal_rows`: what was encrypted is decrypted, file by file.
* `inspect_staged_tree`: inspection of a published tree finds nothing wrong, unless the
  wrapped key is empty.
* `sealed_bundle_opens_iff`: a published bundle opens, with its key and through the
  adapter, exactly when the wrapped key is not empty.
-/

namespace AnKla.Sealed

open PyJson Base64

variable {P : Primitives}

/-! ## The files of a store -/

/-- Under distinct keys, a value is found under its key. -/
theorem lookup_of_mem {α β : Type*} [DecidableEq α] {l : List (α × β)}
    (h : (l.map Prod.fst).Nodup) {k : α} {b : β} (hkb : (k, b) ∈ l) : l.lookup k = some b := by
  induction l with
  | nil => exact absurd hkb List.not_mem_nil
  | cons x l ih =>
    obtain ⟨a, c⟩ := x
    rw [List.map_cons, List.nodup_cons] at h
    obtain he | hmem := List.mem_cons.1 hkb
    · cases he
      exact List.lookup_cons_self
    · have hne : (k == a) = false := by
        rw [beq_eq_false_iff_ne]
        rintro rfl
        exact h.1 (List.mem_map.2 ⟨_, hmem, rfl⟩)
      rw [List.lookup_cons, hne]
      exact ih h.2 hmem

/-- The files that are taken along: allowed paths, each once, in order. -/
theorem export_files_ok {store : Store} {files : List (String × Bytes)}
    (h : store.export_files = .ok files) :
    (∀ f ∈ files, allowed f.1 = true) ∧ (files.map Prod.fst).Pairwise (· < ·) ∧
      ∀ f, f ∈ files ↔ f ∈ store.files ∧ allowed f.1 = true := by
  rw [Store.export_files] at h
  split_ifs at h
  cases h
  have hmem (f : String × Bytes) : f ∈ (store.files.filter fun f => allowed f.1).insertionSort
      (fun f g => f.1 ≤ g.1) ↔ f ∈ store.files ∧ allowed f.1 = true := by
    rw [List.mem_insertionSort, List.mem_filter]
  refine ⟨fun f hf => ((hmem f).1 hf).2, ?_, hmem⟩
  have hperm := List.perm_insertionSort (fun f g : String × Bytes => f.1 ≤ g.1)
    (store.files.filter fun f => allowed f.1)
  have hnd : (((store.files.filter fun f => allowed f.1).insertionSort
      fun f g => f.1 ≤ g.1).map Prod.fst).Nodup :=
    (hperm.map Prod.fst).nodup_iff.2 (store.nodup.sublist (List.filter_sublist.map _))
  have : Std.Total (fun f g : String × Bytes => f.1 ≤ g.1) := ⟨fun f g => le_total f.1 g.1⟩
  have : IsTrans (String × Bytes) (fun f g => f.1 ≤ g.1) := ⟨fun _ _ _ => le_trans⟩
  have hsorted := List.pairwise_insertionSort (fun f g : String × Bytes => f.1 ≤ g.1)
    (store.files.filter fun f => allowed f.1)
  rw [List.pairwise_map]
  rw [List.Nodup, List.pairwise_map] at hnd
  exact (hsorted.and hnd).imp fun h => lt_of_le_of_ne h.1 h.2

/-! ## Encryption and decryption -/

section Rows

variable {keys : Subkeys}

/-- The entries are those of the files. -/
theorem seal_rows_entries {k : ℕ} {files : List (String × Bytes)} {rows : List (Entry × Bytes)}
    (h : seal_rows P keys k files = .ok rows) :
    rows.map Prod.fst = files.map fun f => entry_of P f.1 f.2 := by
  induction files generalizing k rows with
  | nil =>
    cases h
    rfl
  | cons f files ih =>
    simp only [seal_rows, bind_ok, demand_ok, pure_ok] at h
    obtain ⟨-, -, -, -, nonce, -, rest, hrest, rfl⟩ := h
    rw [List.map_cons, List.map_cons, ih hrest]

/-- There are no more files than nonces. -/
theorem seal_rows_count {k : ℕ} {files : List (String × Bytes)} {rows : List (Entry × Bytes)}
    (h : seal_rows P keys k files = .ok rows) : files = [] ∨ k + files.length ≤ MAX_FILES := by
  induction files generalizing k rows with
  | nil => exact .inl rfl
  | cons f files ih =>
    simp only [seal_rows, bind_ok, demand_ok, pure_ok, decide_eq_true_eq] at h
    obtain ⟨-, hk, -, -, nonce, -, rest, hrest, -⟩ := h
    right
    obtain rfl | ih := ih hrest
    · exact hk
    · rw [List.length_cons]
      omega

/-- An encrypted file is longer by the tag. -/
theorem seal_rows_length {k : ℕ} {files : List (String × Bytes)} {rows : List (Entry × Bytes)}
    (h : seal_rows P keys k files = .ok rows) :
    ∀ r ∈ rows, r.2.length = r.1.size + GCM_TAG_BYTES := by
  induction files generalizing k rows with
  | nil =>
    cases h
    exact fun r hr => absurd hr List.not_mem_nil
  | cons f files ih =>
    simp only [seal_rows, bind_ok, demand_ok, pure_ok] at h
    obtain ⟨-, -, -, -, nonce, -, rest, hrest, rfl⟩ := h
    intro r hr
    obtain rfl | hr := List.mem_cons.1 hr
    · exact P.length_encrypt _ _ _ _
    · exact ih hrest r hr

/-- What was encrypted is decrypted, file by file. -/
theorem decrypt_rows_seal_rows {k : ℕ} {files : List (String × Bytes)}
    {rows : List (Entry × Bytes)} (h : seal_rows P keys k files = .ok rows)
    {ciphertexts : List (String × Bytes)}
    (hc : ∀ r ∈ rows, ciphertexts.lookup r.1.path = some r.2) :
    decrypt_rows P keys ciphertexts k (rows.map fun r => r.1.json) = .ok files := by
  induction files generalizing k rows with
  | nil =>
    cases h
    rfl
  | cons f files ih =>
    have hlen := seal_rows_length h
    simp only [seal_rows, bind_ok, demand_ok, pure_ok] at h
    obtain ⟨-, -, -, -, nonce, hnonce, rest, hrest, rfl⟩ := h
    have hsize := hlen _ List.mem_cons_self
    have hfile := hc _ List.mem_cons_self
    have htail := ih hrest fun r hr => hc r (List.mem_cons_of_mem _ hr)
    simp only at hsize hfile
    simp only [List.map_cons, decrypt_rows, read_entry_json]
    rw [hfile, Option.getD_some, hsize, hnonce, htail]
    simp [demand, P.decrypt_encrypt, entry_of, bind, Except.bind, pure, Except.pure]

end Rows

/-! ## The published tree -/

section Tree

variable {manifest : Json} {rows : List (Entry × Bytes)}

/-- The paths of a published tree. -/
theorem staged_paths : (staged_tree manifest rows).files.map Prod.fst =
    "manifest.json" :: (rows.map fun r => r.1.path).map ("entries/" ++ ·) := by
  rw [staged_tree, List.map_cons, List.map_map, List.map_map]
  rfl

theorem staged_dirs : (staged_tree manifest rows).dirs =
    ("manifest.json" :: (rows.map fun r => r.1.path).map ("entries/" ++ ·)).flatMap parents := by
  rw [← @staged_paths manifest rows, List.flatMap_map]
  rfl

/-- Nothing is missing from a published tree, and nothing is in it that was not listed. -/
theorem tree_diagnostics_staged :
    tree_diagnostics (staged_tree manifest rows) (rows.map fun r => r.1.path) = [] := by
  have hself (l : List String) : l.all (l.contains ·) = true := by
    simp only [List.all_eq_true, List.contains_iff_mem]
    exact fun _ h => h
  simp only [tree_diagnostics, staged_paths, staged_dirs, hself, if_true, List.append_nil]

theorem entries_ne_manifest (path : String) : "entries/" ++ path ≠ "manifest.json" := by
  intro he
  have hhead := congrArg (fun s : String => s.toList.head?) he
  rw [String.toList_append, show "entries/".toList = 'e' :: "ntries/".toList by decide] at hhead
  exact absurd hhead (by simp)

theorem entries_inj {p q : String} (h : "entries/" ++ p = "entries/" ++ q) : p = q := by
  have htext := congrArg String.toList h
  rw [String.toList_append, String.toList_append] at htext
  exact String.toList_inj.1 (List.append_cancel_left htext)

/-- The paths of a published tree are distinct. -/
theorem staged_nodup (h : (rows.map fun r => r.1.path).Nodup) :
    ((staged_tree manifest rows).files.map Prod.fst).Nodup := by
  rw [staged_paths, List.nodup_cons]
  refine ⟨fun hmem => ?_, h.map fun p q he => entries_inj he⟩
  obtain ⟨path, -, he⟩ := List.mem_map.1 hmem
  exact entries_ne_manifest path he

/-- An encrypted file is read from the published tree. -/
theorem safe_read_staged (hnd : (rows.map fun r => r.1.path).Nodup) {r : Entry × Bytes}
    (hr : r ∈ rows) (hallowed : allowed r.1.path = true) :
    (staged_tree manifest rows).safe_read ("entries/" ++ r.1.path) = some r.2 := by
  have hcomp : components ("entries/" ++ r.1.path).toList =
      "entries".toList :: components r.1.path.toList := by
    rw [String.toList_append]
    exact components_append (w := "entries".toList) (by decide)
  have hsafe : ((components ("entries/" ++ r.1.path).toList).any fun part =>
      part = [] || part = ['.'] || part = ['.', '.']) = false := by
    rw [hcomp, List.any_eq_false]
    intro w hw
    have hlen : 3 ≤ w.length := by
      obtain rfl | hw := List.mem_cons.1 hw
      · decide
      · exact length_of_allowed hallowed w hw
    simp only [Bool.or_eq_true, decide_eq_true_eq]
    rintro ((rfl | rfl) | rfl) <;> simp at hlen
  rw [Tree.safe_read, hsafe, if_neg Bool.false_ne_true]
  refine lookup_of_mem (staged_nodup hnd) (List.mem_cons_of_mem _ ?_)
  exact List.mem_map_of_mem (f := fun r : Entry × Bytes => ("entries/" ++ r.1.path, r.2)) hr

theorem safe_read_manifest :
    (staged_tree manifest rows).safe_read "manifest.json" = some (canonical_json manifest) := by
  have hsafe : ((components "manifest.json".toList).any fun part =>
      part = [] || part = ['.'] || part = ['.', '.']) = false := by decide
  rw [Tree.safe_read, hsafe, if_neg Bool.false_ne_true, staged_tree, List.lookup_cons_self]

end Tree

/-! ## What creation has established -/

/-- What creation has read, encrypted and received when it publishes a tree. -/
structure Published (P : Primitives) (adapter : KeyAdapter) (store : Store) (cek : Bytes)
    (current : String) (files : List (String × Bytes)) (rows : List (Entry × Bytes))
    (wrapped_cek adapter_id : String) : Prop where
  current_read : store.read_current = .ok current
  files_read : store.export_files = .ok files
  rows_sealed : seal_rows P (derive_subkeys P cek) 0 files = .ok rows
  total : ((rows.map Prod.fst).map Entry.size).sum ≤ MAX_BUNDLE_BYTES
  required : required_entries (rows.map Prod.fst) = true
  wrapped : wrap_cek adapter cek = .ok (wrapped_cek, adapter_id)

/-- A published tree is that of a manifest and of encrypted files. -/
theorem create_ok {adapter : KeyAdapter} {store : Store} {cek : Cek} {t : Tree}
    (h : create_sealed_bundle P adapter store cek = .ok t) :
    ∃ current files rows wrapped_cek adapter_id,
      Published P adapter store cek current files rows wrapped_cek adapter_id ∧
      t = staged_tree (manifest_json P (derive_subkeys P cek) adapter_id wrapped_cek
        (core_json current (rows.map Prod.fst))) rows := by
  simp only [create_sealed_bundle, bind_ok, demand_ok, pure_ok, decide_eq_true_eq] at h
  obtain ⟨_, -, -, -, current, hcurrent, files, hfiles, rows, hrows, -, -, -, htotal, -, hrequired,
    ⟨wrapped_cek, adapter_id⟩, hwrap, -, -, -, -, rfl⟩ := h
  exact ⟨current, files, rows, wrapped_cek, adapter_id,
    ⟨hcurrent, hfiles, hrows, htotal, hrequired, hwrap⟩, rfl⟩

theorem wrap_cek_ok {adapter : KeyAdapter} {cek : Bytes} {wrapped_cek adapter_id : String}
    (h : wrap_cek adapter cek = .ok (wrapped_cek, adapter_id)) :
    item (adapter.wrap cek) "wrapped_cek" = .str wrapped_cek ∧
      wrapped_cek.length ≤ WRAPPED_CEK_MAX_CHARS ∧
      (decodeCanonical wrapped_cek.toList).isSome = true := by
  rw [wrap_cek] at h
  split at h
  · next w id _ hw hid =>
    split_ifs at h with hc
    cases h
    simp only [Bool.and_eq_true, decide_eq_true_eq] at hc
    exact ⟨hw, hc.1.1, hc.1.2⟩
  · cases h

theorem adapter_id_of_wrap_cek {adapter : KeyAdapter} {cek : Bytes} {wrapped_cek adapter_id : String}
    (h : wrap_cek adapter cek = .ok (wrapped_cek, adapter_id)) :
    validate_adapter_id adapter_id = true := by
  rw [wrap_cek] at h
  split at h
  · split_ifs at h with hc
    cases h
    rw [Bool.and_eq_true] at hc
    exact hc.2
  · cases h

/-- The adapter unwraps to the key what it has wrapped. -/
theorem unwrap_cek_wrap_cek {adapter : KeyAdapter} {cek : Bytes} {wrapped_cek adapter_id : String}
    (hlen : cek.length = CEK_LENGTH) (h : wrap_cek adapter cek = .ok (wrapped_cek, adapter_id)) :
    unwrap_cek adapter (.str wrapped_cek) = .ok cek := by
  obtain ⟨hw, hmax, hcanonical⟩ := wrap_cek_ok h
  have hnd : (([("cek_b64", .str (String.ofList (b64encode cek)))] : List (String × Json)).map
      Prod.fst).Nodup := by simp
  have hkeys : exact_keys (dict [("cek_b64", .str (String.ofList (b64encode cek)))])
      ["cek_b64"] = true := exact_keys_dict hnd fun _ => Iff.rfl
  have hitem : item (dict [("cek_b64", .str (String.ofList (b64encode cek)))]) "cek_b64" =
      .str (String.ofList (b64encode cek)) := item_dict hnd (by simp)
  have hdecode : decodeCanonical (b64encode cek) = some cek := decodeCanonical_iff.2 rfl
  simp only [unwrap_cek, hmax, hcanonical, decide_true, Bool.and_self, if_true,
    adapter.undo cek wrapped_cek hw, hkeys, hitem, String.toList_ofList, hdecode, hlen]

theorem read_current_ok {store : Store} {current : String} (h : store.read_current = .ok current) :
    is_identifier current = true ∧ ∃ raw, store.files.lookup current_path = some raw ∧
      raw.getLast? = some 10 ∧ decode_ascii raw.dropLast = some current.toList := by
  rw [Store.read_current] at h
  split at h
  · cases h
  · next raw hraw =>
    split_ifs at h with hlen
    rw [not_or, not_not, not_not] at hlen
    split at h
    · cases h
    · next value hvalue =>
      split_ifs at h with hid
      cases h
      exact ⟨hid, raw, hraw, hlen.2, by rw [hvalue, String.toList_ofList]⟩

/-- A list is read, element by element. -/
theorem mapM_eq_some {α β γ : Type} {l : List α} {g : α → β} {k : α → γ} {f : β → Option γ}
    (h : ∀ a ∈ l, f (g a) = some (k a)) : (l.map g).mapM f = some (l.map k) := by
  induction l with
  | nil => rfl
  | cons a l ih =>
    rw [List.map_cons, List.mapM_cons, h a List.mem_cons_self,
      ih fun b hb => h b (List.mem_cons_of_mem _ hb)]
    rfl

/-- The entries of a manifest are read back. -/
theorem mapM_entry? (entries : List Entry) : (entries.map Entry.json).mapM read_entry = some entries := by
  rw [mapM_eq_some (k := id) fun e _ => read_entry_json e, List.map_id]

theorem filterMap_entry? (entries : List Entry) :
    (entries.map Entry.json).filterMap read_entry = entries := by
  induction entries with
  | nil => rfl
  | cons e entries ih => rw [List.map_cons, List.filterMap_cons_some (read_entry_json e), ih]

theorem allowed_current_path : allowed current_path = true := by decide +kernel

theorem mem_of_lookup {α β : Type*} [DecidableEq α] {l : List (α × β)} {k : α} {b : β}
    (h : l.lookup k = some b) : (k, b) ∈ l := by
  obtain ⟨l1, l2, rfl, -⟩ := List.lookup_eq_some_iff.1 h
  exact List.mem_append_right _ List.mem_cons_self

/-- A line is decoded with its end. -/
theorem decode_ascii_line {raw : Bytes} {text : List Char} (hlast : raw.getLast? = some 10)
    (h : decode_ascii raw.dropLast = some text) : decode_ascii raw = some (text ++ ['\n']) := by
  have hraw : raw = raw.dropLast ++ [10] := (List.dropLast_append_getLast? 10 hlast).symm
  rw [decode_ascii] at h
  split_ifs at h with hall
  cases h
  rw [hraw, decode_ascii, List.all_append, hall, List.map_append, ← hraw]
  rfl

theorem blank_of_isHexDigit {c : Char} (h : isHexDigit c = true) : blank c = false := by
  simp only [isHexDigit, Char.isDigit, Bool.or_eq_true, Bool.and_eq_true, decide_eq_true_eq] at h
  have hn : 48 ≤ c.toNat := by
    obtain ⟨h1, -⟩ | ⟨h1, -⟩ := h
    · exact h1
    · have h1' : 97 ≤ c.toNat := h1
      omega
  have hspace : c ≠ ' ' := by
    rintro rfl
    exact absurd hn (by decide)
  simp only [blank, Bool.or_eq_false_iff, decide_eq_false_iff_not, Bool.and_eq_false_iff]
  exact ⟨⟨hspace, .inr (by omega)⟩, .inr (by omega)⟩

/-- No character of an identifier is white space. -/
theorem blank_of_is_identifier {s : String} (h : is_identifier s = true) :
    ∀ c ∈ s.toList, blank c = false := by
  simp only [is_identifier, Bool.and_eq_true, decide_eq_true_eq, List.all_eq_true] at h
  intro c hc
  rw [← List.take_append_drop 7 s.toList, h.1.1] at hc
  obtain hc | hc := List.mem_append.1 hc
  · have hall : ∀ c ∈ "sha256:".toList, blank c = false := by decide
    exact hall c hc
  · exact blank_of_isHexDigit (h.2 c hc)

/-- Without its end, the line of an identifier is the identifier. -/
theorem strip_line {s : String} (h : is_identifier s = true) : strip (s.toList ++ ['\n']) = s.toList := by
  have hblank := blank_of_is_identifier h
  have hnone {t : List Char} (ht : ∀ c ∈ t, blank c = false) (r : List Char) :
      t ≠ [] → (t ++ r).dropWhile blank = t ++ r := by
    intro hne
    cases t with
    | nil => exact absurd rfl hne
    | cons c t => exact List.dropWhile_cons_of_neg (by simp [ht c List.mem_cons_self])
  have hne : s.toList ≠ [] := by
    intro he
    rw [is_identifier, he] at h
    exact absurd h (by decide)
  have hrev := hnone (t := s.toList.reverse) (fun c hc => hblank c (List.mem_reverse.1 hc)) []
    (by simpa using hne)
  rw [List.append_nil] at hrev
  rw [strip, hnone hblank _ hne, List.reverse_append, List.reverse_singleton, List.singleton_append,
    List.dropWhile_cons_of_pos (by decide), hrev, List.reverse_reverse]

/-- The revision of CURRENT is read from the files that are taken along. -/
theorem current_of_export {store : Store} {current : String} {files : List (String × Bytes)}
    (hcurrent : store.read_current = .ok current) (hfiles : store.export_files = .ok files) :
    ((files.lookup current_path).bind decode_ascii).map strip = some current.toList := by
  obtain ⟨hid, raw, hraw, hlast, hascii⟩ := read_current_ok hcurrent
  obtain ⟨-, hsorted, hmem⟩ := export_files_ok hfiles
  have hfile : (current_path, raw) ∈ files :=
    (hmem _).2 ⟨mem_of_lookup hraw, allowed_current_path⟩
  have hlookup : files.lookup current_path = some raw :=
    lookup_of_mem (hsorted.imp fun hlt => ne_of_lt hlt) hfile
  rw [hlookup, Option.bind_some, decode_ascii_line hlast hascii, Option.map_some, strip_line hid]

/-- No two allowed paths differ only in case. -/
theorem nodup_casefold {paths : List String} (hnd : paths.Nodup)
    (h : ∀ p ∈ paths, allowed p = true) : (paths.map P.casefold).Nodup := by
  refine hnd.map_on fun p hp q hq he => ?_
  rw [P.casefold_ascii _ (ascii_of_allowed (h p hp)),
    P.casefold_ascii _ (ascii_of_allowed (h q hq))] at he
  exact casefold_injective (h p hp) (h q hq) he

/-- The digest of a required entry, among entries of digests. -/
theorem required_content {entries : List Entry} (hreq : required_entries entries = true)
    (hid : ∀ e ∈ entries, is_identifier e.content_sha256 = true) {path : String}
    (hpath : path ∈ ["anchor/project-identity.json", "anchor/memory/identity.json", current_path]) :
    ∃ s, content_of entries path = .str s ∧ is_identifier s = true := by
  rw [required_entries, Bool.and_eq_true] at hreq
  obtain ⟨e, he, hep⟩ := List.any_eq_true.1 (List.all_eq_true.1 hreq.1 path hpath)
  cases hfind : entries.find? fun e => e.path = path with
  | none => exact absurd hep (List.find?_eq_none.1 hfind e he)
  | some e =>
    refine ⟨e.content_sha256, ?_, hid e (List.mem_of_find?_eq_some hfind)⟩
    rw [content_of, hfind]

namespace Published

variable {adapter : KeyAdapter} {store : Store} {cek : Bytes} {current : String}
  {files : List (String × Bytes)} {rows : List (Entry × Bytes)} {wrapped_cek adapter_id : String}
  (h : Published P adapter store cek current files rows wrapped_cek adapter_id)

include h

theorem entries : rows.map Prod.fst = files.map fun f => entry_of P f.1 f.2 :=
  seal_rows_entries h.rows_sealed

theorem paths : (rows.map fun r => r.1.path) = files.map Prod.fst := by
  have hmap := congrArg (List.map Entry.path) h.entries
  rw [List.map_map, List.map_map] at hmap
  exact hmap

theorem sorted : (rows.map fun r => r.1.path).Pairwise (· < ·) := by
  rw [h.paths]
  exact (export_files_ok h.files_read).2.1

theorem nodup : (rows.map fun r => r.1.path).Nodup := h.sorted.imp fun hlt => ne_of_lt hlt

theorem allowed_path {r : Entry × Bytes} (hr : r ∈ rows) : allowed r.1.path = true := by
  have hmem : r.1.path ∈ files.map Prod.fst := by
    rw [← h.paths]
    exact List.mem_map_of_mem (f := fun r : Entry × Bytes => r.1.path) hr
  obtain ⟨f, hf, he⟩ := List.mem_map.1 hmem
  rw [← he]
  exact (export_files_ok h.files_read).1 f hf

/-- No two paths differ only in case. -/
theorem casefold_nodup : ((rows.map fun r => r.1.path).map P.casefold).Nodup := by
  refine nodup_casefold h.nodup fun p hp => ?_
  obtain ⟨r, hr, rfl⟩ := List.mem_map.1 hp
  exact h.allowed_path hr

/-- The digest of a required file is an identifier. -/
theorem content_of_required {path : String}
    (hpath : path ∈ ["anchor/project-identity.json", "anchor/memory/identity.json", current_path]) :
    ∃ s, content_of (rows.map Prod.fst) path = .str s ∧ is_identifier s = true := by
  refine required_content h.required (fun e he => ?_) hpath
  rw [h.entries] at he
  obtain ⟨f, -, rfl⟩ := List.mem_map.1 he
  exact is_identifier_digest_bytes _

theorem structurally_invalid :
    manifest_structurally_invalid P (manifest_json P (derive_subkeys P cek) adapter_id wrapped_cek
      (core_json current (rows.map Prod.fst))) = !b64Shape wrapped_cek.toList :=
  structurally_invalid_manifest (P.length_hkdf_expand _ _ _) (wrap_cek_ok h.wrapped).2.1
    (read_current_ok h.current_read).1 (h.content_of_required (by simp))
    (h.content_of_required (by simp))

theorem count : (rows.map Prod.fst).length ≤ MAX_FILES := by
  rw [h.entries, List.length_map]
  obtain rfl | hcount := seal_rows_count h.rows_sealed
  · exact Nat.zero_le _
  · rwa [Nat.zero_add] at hcount

/-- The manifest is read back. -/
theorem loads_manifest :
    json_loads (canonical_json (manifest_json P (derive_subkeys P cek) adapter_id wrapped_cek
      (core_json current (rows.map Prod.fst)))) =
      some (manifest_json P (derive_subkeys P cek) adapter_id wrapped_cek
        (core_json current (rows.map Prod.fst))) :=
  json_loads_canonical_json (manifest_wf core_wf) (manifest_intsFit (core_intsFit h.count h.total))

/-- Inspection refuses a manifest whose wrapped key has not the shape of base64. -/
theorem inspect_invalid (hshape : b64Shape wrapped_cek.toList = false) (max_files max_bytes : ℕ) :
    inspect_bundle P (staged_tree (manifest_json P (derive_subkeys P cek) adapter_id wrapped_cek
      (core_json current (rows.map Prod.fst))) rows) max_files max_bytes = .invalid := by
  have hstruct := h.structurally_invalid
  rw [hshape] at hstruct
  rw [inspect_bundle, safe_read_manifest]
  simp only [h.loads_manifest, hstruct, Bool.not_false, if_true]
  exact ite_self _

/-- The entries of a published manifest agree with the limits and with the tree. -/
theorem inspect_entries :
    AnKla.Sealed.inspect_entries P (staged_tree (manifest_json P (derive_subkeys P cek) adapter_id
      wrapped_cek (core_json current (rows.map Prod.fst))) rows) MAX_FILES MAX_BUNDLE_BYTES
      (manifest_json P (derive_subkeys P cek) adapter_id wrapped_cek
        (core_json current (rows.map Prod.fst))) ((rows.map Prod.fst).map Entry.json) =
      ⟨some (manifest_json P (derive_subkeys P cek) adapter_id wrapped_cek
        (core_json current (rows.map Prod.fst))), rows.map fun r => (r.1.path, r.2), []⟩ := by
  have hpaths : (rows.map Prod.fst).map Entry.path = rows.map fun r => r.1.path := by
    rw [List.map_map]
    rfl
  have hsorted : rows.map (fun r => r.1.path) =
      (rows.map fun r => r.1.path).insertionSort (· ≤ ·) :=
    ((h.sorted.imp fun hlt => le_of_lt hlt).insertionSort_eq).symm
  have hallowed : (rows.map fun r => r.1.path).filter (fun path => !allowed path) = [] := by
    rw [List.filter_eq_nil_iff]
    intro path hpath
    obtain ⟨r, hr, rfl⟩ := List.mem_map.1 hpath
    rw [h.allowed_path hr]
    decide
  have hread : (rows.map fun r => r.1.path).mapM (fun path =>
      ((staged_tree (manifest_json P (derive_subkeys P cek) adapter_id wrapped_cek
        (core_json current (rows.map Prod.fst))) rows).safe_read ("entries/" ++ path)).map
          (path, ·)) = some (rows.map fun r => (r.1.path, r.2)) := by
    refine mapM_eq_some fun r hr => ?_
    rw [safe_read_staged h.nodup hr (h.allowed_path hr), Option.map_some]
  rw [AnKla.Sealed.inspect_entries, mapM_entry?]
  simp only [manifest_core, core_count, core_total, read_nat_natCast, h.count, h.total,
    decide_true, Bool.and_self, if_true, hpaths, hallowed, List.map_nil, List.append_nil,
    h.nodup, h.casefold_nodup, ← hsorted, Bool.not_true, Bool.false_eq_true, if_false, ne_eq,
    not_true_eq_false, tree_diagnostics_staged, hread]

/-- Inspection finds nothing wrong with a manifest whose wrapped key is not empty. -/
theorem inspect (hshape : b64Shape wrapped_cek.toList = true) :
    inspect_bundle P (staged_tree (manifest_json P (derive_subkeys P cek) adapter_id wrapped_cek
      (core_json current (rows.map Prod.fst))) rows) MAX_FILES MAX_BUNDLE_BYTES =
      ⟨some (manifest_json P (derive_subkeys P cek) adapter_id wrapped_cek
        (core_json current (rows.map Prod.fst))), rows.map fun r => (r.1.path, r.2), []⟩ := by
  have hstruct := h.structurally_invalid
  rw [hshape] at hstruct
  have hobj : (manifest_json P (derive_subkeys P cek) adapter_id wrapped_cek
      (core_json current (rows.map Prod.fst))).isObj = true := rfl
  rw [inspect_bundle, safe_read_manifest]
  simp only [h.loads_manifest, hstruct, hobj, manifest_core, core_entries, Bool.not_true,
    Bool.false_or, ne_eq, not_true_eq_false, decide_false, Bool.false_eq_true, if_false]
  exact h.inspect_entries

/-- A published bundle is decrypted to the files it was made of. -/
theorem decrypt_all :
    AnKla.Sealed.decrypt_all P (manifest_json P (derive_subkeys P cek) adapter_id wrapped_cek
      (core_json current (rows.map Prod.fst))) (rows.map fun r => (r.1.path, r.2)) cek =
      .ok files := by
  have hmac : verify_manifest_mac P (derive_subkeys P cek).mac_key
      (manifest_transcript (dict (seal_items (derive_subkeys P cek) adapter_id wrapped_cek))
        (core_json current (rows.map Prod.fst))
        (.str (digest_json P (core_json current (rows.map Prod.fst)))))
      (.str (manifest_mac P (derive_subkeys P cek) adapter_id wrapped_cek
        (core_json current (rows.map Prod.fst)))) = true := by
    rw [verify_manifest_mac, manifest_mac, compute_manifest_mac,
      hex_text_hex 64 (by rw [P.length_hmac_sha256])]
    simp
  have hlookup : ∀ r ∈ rows, (rows.map fun r => (r.1.path, r.2)).lookup r.1.path = some r.2 := by
    intro r hr
    refine lookup_of_mem ?_ (List.mem_map_of_mem (f := fun r : Entry × Bytes => (r.1.path, r.2)) hr)
    rw [List.map_map]
    exact h.nodup
  rw [AnKla.Sealed.decrypt_all]
  simp only [manifest_seal, manifest_core, manifest_sha256, seal_bundle_id, seal_manifest_mac,
    seal_without_mac_seal, core_entries, hmac, elems, List.map_map]
  exact decrypt_rows_seal_rows h.rows_sealed hlookup

/-- What the bundle is decrypted to agrees with its manifest. -/
theorem identity_crosscheck :
    AnKla.Sealed.identity_crosscheck (manifest_json P (derive_subkeys P cek) adapter_id wrapped_cek
      (core_json current (rows.map Prod.fst))) files = .ok () := by
  rw [AnKla.Sealed.identity_crosscheck]
  simp only [manifest_core, core_entries, elems, filterMap_entry?, core_project, core_store,
    core_current, current_of_export h.current_read h.files_read, String.ofList_toList, decide_true,
    Bool.and_self]
  rfl

end Published

/-! ## Opening -/

variable (P) in
/-- A published bundle opens: it is sound without the key, it is verified with the key and
    through the adapter, and it is decrypted to the files that were exported. -/
structure Opens (adapter : KeyAdapter) (store : Store) (cek : Bytes) (t : Tree) : Prop where
  structure_verified : (verify_unkeyed P t MAX_FILES MAX_BUNDLE_BYTES).structure_verified = true
  with_key : ∃ files, store.export_files = .ok files ∧
    verify_keyed P t (.cek cek) MAX_FILES MAX_BUNDLE_BYTES = .ok (files, ⟨true, true, true, []⟩)
  with_adapter : ∃ files, store.export_files = .ok files ∧
    verify_keyed P t (.runner adapter) MAX_FILES MAX_BUNDLE_BYTES =
      .ok (files, ⟨true, true, true, []⟩)

namespace Published

variable {adapter : KeyAdapter} {store : Store} {cek : Bytes} {current : String}
  {files : List (String × Bytes)} {rows : List (Entry × Bytes)} {wrapped_cek adapter_id : String}
  (h : Published P adapter store cek current files rows wrapped_cek adapter_id)

include h

/-- With a key that resolves to that of the bundle, verification succeeds. -/
theorem verify_keyed (hshape : b64Shape wrapped_cek.toList = true) {key : Key}
    (hkey : resolve_cek (manifest_json P (derive_subkeys P cek) adapter_id wrapped_cek
      (core_json current (rows.map Prod.fst))) key = .ok cek) :
    AnKla.Sealed.verify_keyed P (staged_tree (manifest_json P (derive_subkeys P cek) adapter_id
      wrapped_cek (core_json current (rows.map Prod.fst))) rows) key MAX_FILES MAX_BUNDLE_BYTES =
      .ok (files, ⟨true, true, true, []⟩) := by
  rw [AnKla.Sealed.verify_keyed, h.inspect hshape]
  simp only [hkey, h.decrypt_all, h.identity_crosscheck, bind, Except.bind]
  rfl

/-- A bundle whose wrapped key is empty is refused, whatever its key. -/
theorem not_opens (hshape : b64Shape wrapped_cek.toList = false) :
    ¬Opens P adapter store cek (staged_tree (manifest_json P (derive_subkeys P cek) adapter_id
      wrapped_cek (core_json current (rows.map Prod.fst))) rows) := by
  intro ho
  have hverified := ho.structure_verified
  rw [verify_unkeyed, h.inspect_invalid hshape] at hverified
  exact absurd hverified (by decide)

/-- A bundle whose wrapped key is not empty opens. -/
theorem opens (hlen : cek.length = CEK_LENGTH) (hshape : b64Shape wrapped_cek.toList = true) :
    Opens P adapter store cek (staged_tree (manifest_json P (derive_subkeys P cek) adapter_id
      wrapped_cek (core_json current (rows.map Prod.fst))) rows) where
  structure_verified := by
    have hsizes : ((rows.map Prod.fst).all fun e =>
        (((rows.map fun r => (r.1.path, r.2)).lookup e.path).getD []).length =
          e.size + GCM_TAG_BYTES) = true := by
      rw [List.all_eq_true]
      intro e he
      obtain ⟨r, hr, rfl⟩ := List.mem_map.1 he
      rw [lookup_of_mem (by rw [List.map_map]; exact h.nodup)
        (List.mem_map_of_mem (f := fun r : Entry × Bytes => (r.1.path, r.2)) hr), Option.getD_some,
        seal_rows_length h.rows_sealed r hr]
      exact decide_eq_true rfl
    rw [verify_unkeyed, h.inspect hshape]
    simp only [Option.map_some, manifest_core, core_entries, elems, filterMap_entry?, hsizes,
      Option.getD_some, Bool.not_true, Bool.and_false, Bool.false_eq_true, if_false,
      List.append_nil, decide_true]
  with_key := by
    refine ⟨files, h.files_read, h.verify_keyed hshape ?_⟩
    rw [resolve_cek, if_pos hlen]
  with_adapter := by
    refine ⟨files, h.files_read, h.verify_keyed hshape ?_⟩
    rw [resolve_cek, manifest_seal, seal_wrapped_cek, unwrap_cek_wrap_cek hlen h.wrapped]

end Published

/-! ## Creation succeeds -/

/-- Within the limits, every file is encrypted. -/
theorem seal_rows_succeeds (keys : Subkeys) {k : ℕ} {files : List (String × Bytes)}
    (hcount : k + files.length ≤ MAX_FILES) (hsizes : ∀ f ∈ files, f.2.length ≤ MAX_ENTRY_BYTES) :
    ∃ rows, seal_rows P keys k files = .ok rows := by
  induction files generalizing k with
  | nil => exact ⟨[], rfl⟩
  | cons f files ih =>
    rw [List.length_cons] at hcount
    have hk : k < MAX_FILES := by omega
    obtain ⟨rows, hrows⟩ := ih (k := k + 1) (by omega) fun g hg =>
      hsizes g (List.mem_cons_of_mem _ hg)
    simp only [seal_rows, hk, hsizes f List.mem_cons_self, hrows, entry_nonce, decide_true, demand,
      if_true, bind, Except.bind]
    exact ⟨_, rfl⟩

/-- A complete store within the limits is exported under every accepted answer of the adapter. -/
theorem create_succeeds {adapter : KeyAdapter} {store : Store} {cek : Cek} {current : String}
    {files : List (String × Bytes)} {wrapped : String × String}
    (hverify : store.verify = .ok ⟨current, "complete"⟩)
    (hcurrent : store.read_current = .ok current) (hfiles : store.export_files = .ok files)
    (hcount : files.length ≤ MAX_FILES) (hsizes : ∀ f ∈ files, f.2.length ≤ MAX_ENTRY_BYTES)
    (htotal : (files.map fun f => f.2.length).sum ≤ MAX_BUNDLE_BYTES)
    (hrequired : required_entries (files.map fun f => entry_of P f.1 f.2) = true)
    (hwrap : wrap_cek adapter cek = .ok wrapped) :
    ∃ t, create_sealed_bundle P adapter store cek = .ok t := by
  obtain ⟨rows, hrows⟩ := seal_rows_succeeds (P := P) (derive_subkeys P cek) (k := 0)
    (by omega) hsizes
  have hentries := seal_rows_entries hrows
  obtain ⟨wrapped_cek, adapter_id⟩ := wrapped
  obtain ⟨-, hmax, -⟩ := wrap_cek_ok hwrap
  have hid := adapter_id_of_wrap_cek hwrap
  have hsum : ((files.map fun f => entry_of P f.1 f.2).map Entry.size).sum ≤ MAX_BUNDLE_BYTES := by
    rw [List.map_map]
    exact htotal
  simp only [create_sealed_bundle, hverify, hcurrent, hfiles, hrows, hwrap, hentries, hsum,
    hrequired, hmax, hid, decide_true, demand, if_true, bind, Except.bind]
  exact ⟨_, rfl⟩

/-- The wrapped key has the shape of base64 unless it is empty. -/
theorem shape_iff_wrapped {adapter : KeyAdapter} {cek : Bytes} {wrapped_cek adapter_id : String}
    (h : wrap_cek adapter cek = .ok (wrapped_cek, adapter_id)) :
    b64Shape wrapped_cek.toList = true ↔ item (adapter.wrap cek) "wrapped_cek" ≠ .str "" := by
  obtain ⟨hitem, -, hcanonical⟩ := wrap_cek_ok h
  have hempty : wrapped_cek = "" ↔ wrapped_cek.toList = [] := by
    rw [← String.toList_inj]
    rfl
  rw [hitem, ne_eq, Json.str.injEq, hempty, ← ne_eq, ← b64Shape_of_canonical hcanonical]

/-- A published bundle opens exactly when the adapter has wrapped its key in a text that is
    not empty. -/
theorem sealed_bundle_opens_iff {adapter : KeyAdapter} {store : Store} {cek : Cek} {t : Tree}
    (h : create_sealed_bundle P adapter store cek = .ok t) :
    Opens P adapter store cek t ↔ item (adapter.wrap cek) "wrapped_cek" ≠ .str "" := by
  obtain ⟨current, files, rows, wrapped_cek, adapter_id, hp, rfl⟩ := create_ok h
  rw [← shape_iff_wrapped hp.wrapped]
  constructor
  · intro ho
    by_contra hshape
    exact hp.not_opens (by simpa using hshape) ho
  · exact hp.opens cek.2

/-! ## A key that the adapter keeps -/

/-- Primitives without any secrecy. -/
def plain : Primitives where
  encrypt _ _ plaintext _ := plaintext ++ List.replicate GCM_TAG_BYTES 0
  decrypt _ _ ciphertext _ := some (ciphertext.take (ciphertext.length - GCM_TAG_BYTES))
  hkdf_expand prk _ length := (prk ++ List.replicate length 0).take length
  hmac_sha256 key _ := (key ++ List.replicate 32 0).take 32
  sha256 payload := (payload ++ List.replicate 32 0).take 32
  casefold := lower
  decrypt_encrypt _ _ plaintext _ := by
    rw [List.length_append, List.length_replicate, Nat.add_sub_cancel, List.take_left]
  length_encrypt _ _ plaintext _ := by
    rw [List.length_append, List.length_replicate]
  length_hkdf_expand prk _ length := by
    rw [List.length_take, List.length_append, List.length_replicate]
    omega
  length_hmac_sha256 key _ := by
    rw [List.length_take, List.length_append, List.length_replicate]
    omega
  length_sha256 payload := by
    rw [List.length_take, List.length_append, List.length_replicate]
    omega
  casefold_ascii _ _ := rfl

/-- What an adapter answers to a wrap request. -/
def wrap_answer (wrapped_cek : List Char) : Json :=
  dict [("wrapped_cek", .str (String.ofList wrapped_cek)), ("adapter_id", .str "host-keystore")]

theorem item_wrap_answer (wrapped_cek : List Char) :
    item (wrap_answer wrapped_cek) "wrapped_cek" = .str (String.ofList wrapped_cek) :=
  item_dict (by simp) (by simp)

/-- An adapter that keeps one key itself and answers the empty text for it; other keys it
    writes out. -/
def keystore (kept : Bytes) : KeyAdapter where
  wrap cek :=
    if cek = kept then wrap_answer []
    else if cek = [] then .null
    else wrap_answer (b64encode cek)
  unwrap wrapped_cek :=
    dict [("cek_b64", .str (if wrapped_cek = "" then String.ofList (b64encode kept) else wrapped_cek))]
  undo cek wrapped_cek h := by
    split_ifs at h with hkept hnil
    · rw [item_wrap_answer, Json.str.injEq] at h
      rw [← h, if_pos rfl, hkept]
    · cases h
    · rw [item_wrap_answer, Json.str.injEq] at h
      have hne : wrapped_cek ≠ "" := by
        rintro rfl
        have htext := congrArg String.toList h
        rw [String.toList_ofList] at htext
        have hdecode := b64decode_b64encode cek
        rw [htext] at hdecode
        cases hdecode
        exact hnil rfl
      rw [if_neg hne, ← h]

/-- 64 zeros. -/
def zeros : String := String.ofList (List.replicate 64 '0')

/-- A store with one revision. -/
def small_store : Store where
  files :=
    let line := utf8 ("sha256:" ++ zeros ++ "\n").toList
    let document := utf8 "\x7b\x7d".toList
    [("anchor/project-identity.json", document), ("anchor/memory/identity.json", document),
      (current_path, line), ("anchor/memory/revisions/sha256/" ++ zeros ++ ".json", document),
      ("anchor/memory/checkpoints/sha256/" ++ zeros ++ ".json", document)]
  nodup := by decide +kernel
  verify := .ok ⟨"sha256:" ++ zeros, "complete"⟩

/-- The files of the store, by increasing path. -/
def small_files : List (String × Bytes) :=
  let line := utf8 ("sha256:" ++ zeros ++ "\n").toList
  let document := utf8 "\x7b\x7d".toList
  [("anchor/memory/checkpoints/sha256/" ++ zeros ++ ".json", document),
    ("anchor/memory/identity.json", document), (current_path, line),
    ("anchor/memory/revisions/sha256/" ++ zeros ++ ".json", document),
    ("anchor/project-identity.json", document)]

/-- A complete store with its CURRENT and its files, which are within the limits of an export. -/
structure Exportable (store : Store) where
  current : String
  files : List (String × Bytes)
  verify : store.verify = .ok ⟨current, "complete"⟩
  read_current : store.read_current = .ok current
  export_files : store.export_files = .ok files
  count : files.length ≤ MAX_FILES
  sizes : ∀ f ∈ files, f.2.length ≤ MAX_ENTRY_BYTES
  total : (files.map fun f => f.2.length).sum ≤ MAX_BUNDLE_BYTES
  required : required_entries (files.map fun f => entry_of plain f.1 f.2) = true

/-- The required entries are looked for by their paths. -/
theorem required_entries_path (P' : Primitives) (files : List (String × Bytes)) :
    required_entries (files.map fun f => entry_of P f.1 f.2) =
      required_entries (files.map fun f => entry_of P' f.1 f.2) := by
  simp only [required_entries, List.any_map, Function.comp_def, entry_of]

/-- It is exported under every accepted answer of the adapter. -/
theorem Exportable.create {store : Store} (h : Exportable store) (P : Primitives)
    {adapter : KeyAdapter} {cek : Cek} {wrapped : String × String} (hwrap : wrap_cek adapter cek = .ok wrapped) :
    ∃ t, create_sealed_bundle P adapter store cek = .ok t :=
  create_succeeds h.verify h.read_current h.export_files h.count h.sizes h.total
    ((required_entries_path _ _).trans h.required) hwrap

def small_exportable : Exportable small_store where
  current := "sha256:" ++ zeros
  files := small_files
  verify := rfl
  read_current := by decide +kernel
  export_files := by decide +kernel
  count := by decide
  sizes := by decide +kernel
  total := by decide +kernel
  required := by decide +kernel

theorem small_store_current : small_store.read_current = .ok ("sha256:" ++ zeros) :=
  small_exportable.read_current

theorem small_store_files : small_store.export_files = .ok small_files :=
  small_exportable.export_files

theorem create_small_store {adapter : KeyAdapter} {cek : Cek} {wrapped : String × String}
    (hwrap : wrap_cek adapter cek = .ok wrapped) :
    ∃ t, create_sealed_bundle plain adapter small_store cek = .ok t :=
  small_exportable.create plain hwrap

/-- An adapter's answer is accepted, if it is a short text of base64. -/
theorem wrap_cek_answer {adapter : KeyAdapter} {cek raw : Bytes}
    (h : adapter.wrap cek = wrap_answer (b64encode raw))
    (hlen : (b64encode raw).length ≤ WRAPPED_CEK_MAX_CHARS) :
    wrap_cek adapter cek = .ok (String.ofList (b64encode raw), "host-keystore") := by
  have hkeys : exact_keys (wrap_answer (b64encode raw)) ["wrapped_cek", "adapter_id"] = true :=
    exact_keys_dict (by simp) (by simp)
  have hid : item (wrap_answer (b64encode raw)) "adapter_id" = .str "host-keystore" :=
    item_dict (by simp) (by simp)
  have hvalid : validate_adapter_id "host-keystore" = true := by decide
  have hcanonical : (decodeCanonical (b64encode raw)).isSome = true :=
    Option.isSome_of_eq_some (decodeCanonical_iff.2 rfl)
  simp only [wrap_cek, h, hkeys, hid, item_wrap_answer, String.toList_ofList, String.length_ofList,
    hvalid, hcanonical, hlen, decide_true, Bool.and_self, if_true]

/-- The key of 32 zero bytes. -/
def zero_cek : Cek := ⟨List.replicate 32 0, rfl⟩

/-- A bundle whose key the adapter keeps is published, and does not open. -/
theorem sealed_bundle_kept_key : ¬∀ (P : Primitives) (adapter : KeyAdapter) (store : Store)
    (cek : Cek) (t : Tree), create_sealed_bundle P adapter store cek = .ok t →
      Opens P adapter store cek t := by
  intro hall
  have hwrap : wrap_cek (keystore zero_cek) zero_cek = .ok ("", "host-keystore") :=
    @wrap_cek_answer _ _ [] rfl (by decide)
  obtain ⟨t, ht⟩ := create_small_store hwrap
  obtain ⟨current, files, rows, wrapped_cek, adapter_id, hp, rfl⟩ := create_ok ht
  have hsame := hp.wrapped
  rw [hwrap] at hsame
  cases hsame
  exact hp.not_opens (by decide) (hall _ _ _ _ _ ht)

/-- A bundle whose key is written out is published, and opens. -/
theorem sealed_bundle_opens_iff_written :
    ∃ t, create_sealed_bundle plain (keystore []) small_store zero_cek = .ok t ∧
      (Opens plain (keystore []) small_store zero_cek t ↔
        item ((keystore []).wrap zero_cek) "wrapped_cek" ≠ .str "") := by
  have hwrap : wrap_cek (keystore []) zero_cek =
      .ok (String.ofList (b64encode zero_cek), "host-keystore") := wrap_cek_answer rfl (by decide)
  obtain ⟨t, ht⟩ := create_small_store hwrap
  exact ⟨t, ht, sealed_bundle_opens_iff ht⟩

end AnKla.Sealed
