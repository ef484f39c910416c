import AnKla.Sealed.Opens
import AnKla.Json.Loads

/-!
# Plain bundles

An export without encryption: the files of the store as they are, and a manifest that
lists them.

* `create_export`: the tree of files that is published.
* `validated`: what a tree is checked for before anything is restored from it.
* `validated_ok`: a tree that passes holds its manifest and the files that it lists, of the
  recorded sizes and digests, and nothing else.
* `validated_of_create`: an export passes, if its store verifies again.
-/

namespace AnKla.Export

open PyJson Sealed Base64

/-- Files by their paths. -/
abbrev Files := List (String × Bytes)

variable (P : Primitives)

/-! ## Creating an export -/

def EXPORT_SCHEMA : String := "an-kla/export-manifest-v1"

def PROFILE : String := "export/v1"

/-- `_manifest(entries, current, project_id, store_id)`. -/
def export_manifest (core : Json) : Json :=
  dict [("schema", .str EXPORT_SCHEMA), ("profile", .str PROFILE), ("core", core),
    ("manifest_sha256", .str (digest_json P core))]

/-- The tree of a bundle: the manifest, and the files under `entries`. -/
def export_tree (manifest : Json) (files : Files) : Tree :=
  let files := ("manifest.json", canonical_json manifest) ::
    files.map fun f => ("entries/" ++ f.1, f.2)
  ⟨files, files.flatMap fun f => parents f.1⟩

/-- `create_export(store, bundle)`. -/
def create_export (store : Store) : Except SealFailure Tree := do
  let verified ← store.verify
  demand (verified.identity_status = "complete") (.export_io "export_source_identity_incomplete")
  let current ← store.read_current
  let files ← store.export_files
  demand (verified.revision = current) (.export_io "export_source_changed")
  let entries := files.map fun f => entry_of P f.1 f.2
  demand (required_entries entries) (.export_io "export_required_entry_missing")
  return export_tree (export_manifest P (core_json current entries)) files

/-! ## Validation -/

/-- `isinstance(value, str)`, and `bare_digest(value)` accepts it. -/
def is_sha256_text : Json → Bool
  | .str s => is_identifier s
  | _ => false

/-- The shape of a manifest and of its core, up to the entries. -/
def manifest_valid (manifest : Json) : Bool :=
  let core := item manifest "core"
  exact_keys manifest ["schema", "profile", "core", "manifest_sha256"] &&
  (item manifest "schema" = .str EXPORT_SCHEMA && item manifest "profile" = .str PROFILE) &&
  exact_keys core ["current_revision", "project_identity_sha256", "store_identity_sha256",
    "entry_count", "total_bytes", "entries"] &&
  item manifest "manifest_sha256" = .str (digest_json P core) &&
  [item manifest "manifest_sha256", item core "current_revision",
    item core "project_identity_sha256", item core "store_identity_sha256"].all is_sha256_text

/-- The counts of a core against the limits. -/
def counts_valid (core : Json) (entries : List Json) (max_files max_bytes : ℕ) : Bool :=
  decide (entries.length ≤ max_files) && item core "entry_count" = .int entries.length &&
    match read_nat (item core "total_bytes") with
    | some total => decide (total ≤ max_bytes)
    | none => false

/-- The entries, in order and each once, however letters are written. -/
def paths_valid (paths : List String) : Bool :=
  decide (paths = paths.insertionSort (· ≤ ·)) && decide paths.Nodup &&
    decide (paths.map P.casefold).Nodup

/-- The loop over the entries: the files that they list. -/
def read_entries (t : Tree) : List Entry → Except SealFailure Files
  | [] => .ok []
  | e :: es => do
    demand (allowed e.path) (.export_io "export_entries_invalid")
    let payload ← (t.safe_read ("entries/" ++ e.path)).elim
      (.error (.export_io "export_unsafe_path")) .ok
    demand (payload.length = e.size && digest_bytes P payload = e.content_sha256)
      (.export_io "export_content_mismatch")
    let rest ← read_entries t es
    return (e.path, payload) :: rest

/-- `validate_tree(root, expected_files)`. -/
def validate_tree (t : Tree) (expected : List String) : Bool :=
  let actual := t.files.map Prod.fst
  expected.all (actual.contains ·) && actual.all (expected.contains ·) &&
    t.dirs.all ((expected.flatMap parents).contains ·)

/-- `store.verify()` of a store that holds the given files. -/
abbrev Verifier := Files → Except SealFailure Verified

/-- The checks of a manifest of the right shape, with its entries. -/
def validate_entries (verifier : Verifier) (t : Tree) (max_files max_bytes : ℕ) (core : Json)
    (entries : List Json) : Except SealFailure Files := do
  demand (counts_valid core entries max_files max_bytes) (.export_io "export_limits_exceeded")
  let es ← (entries.mapM read_entry).elim (.error (.export_io "export_entries_invalid")) .ok
  demand (es.all fun e => is_identifier e.content_sha256) (.export_io "export_entries_invalid")
  demand (paths_valid P (es.map Entry.path)) (.export_io "export_entries_invalid")
  let payloads ← read_entries P t es
  demand (validate_tree t ("manifest.json" :: es.map fun e => "entries/" ++ e.path))
    (.export_io "export_extra_or_missing_entry")
  demand (item core "total_bytes" = .int ((payloads.map fun f => f.2.length).sum : ℕ))
    (.export_io "export_extra_or_missing_entry")
  let current ← (((payloads.lookup current_path).bind decode_ascii).map Sealed.strip).elim
    (.error (.value "CURRENT")) .ok
  demand (item core "current_revision" = .str (String.ofList current))
    (.export_io "export_current_mismatch")
  demand (content_of es "anchor/project-identity.json" = item core "project_identity_sha256" &&
    content_of es "anchor/memory/identity.json" = item core "store_identity_sha256")
    (.export_io "export_identity_mismatch")
  -- `_materialize`: a store of these files, in a directory of its own
  let verified ← verifier payloads
  demand (item core "current_revision" = .str verified.revision)
    (.export_io "export_semantic_mismatch")
  return payloads

/-- `_validated(bundle, max_files, max_bytes)`: the manifest and the files. -/
def validated (verifier : Verifier) (t : Tree) (max_files max_bytes : ℕ) :
    Except SealFailure (Json × Files) := do
  let raw ← (t.safe_read "manifest.json").elim (.error (.export_io "export_manifest_invalid")) .ok
  let manifest ← (json_loads raw).elim (.error (.export_io "export_manifest_invalid")) .ok
  demand (canonical_json manifest = raw) (.export_io "export_manifest_invalid")
  demand (manifest_valid P manifest) (.export_io "export_manifest_invalid")
  let core := item manifest "core"
  demand (is_list (item core "entries")) (.export_io "export_limits_exceeded")
  let payloads ← validate_entries P verifier t max_files max_bytes core (elems (item core "entries"))
  return (manifest, payloads)

/-! ## What validation establishes -/

section

variable {P} {verifier : Verifier} {t : Tree} {max_files max_bytes : ℕ}

theorem elim_ok {α : Type} {o : Option α} {e : SealFailure} {a : α} :
    o.elim (.error e) Except.ok = .ok a ↔ o = some a := by
  cases o <;> simp

/-- The files that were read are those of the entries, of the recorded sizes and digests. -/
theorem read_entries_ok {es : List Entry} {payloads : Files} (h : read_entries P t es = .ok payloads) :
    payloads.map Prod.fst = es.map Entry.path ∧
      (∀ e ∈ es, allowed e.path = true) ∧
      List.Forall₂ (fun (e : Entry) (f : String × Bytes) => e = entry_of P f.1 f.2 ∧
        t.safe_read ("entries/" ++ f.1) = some f.2) es payloads := by
  induction es generalizing payloads with
  | nil =>
    cases h
    exact ⟨rfl, fun _ he => absurd he List.not_mem_nil, .nil⟩
  | cons e es ih =>
    simp only [read_entries, bind_ok, demand_ok, elim_ok, exists_const, pure_ok, Bool.and_eq_true,
      decide_eq_true_eq] at h
    obtain ⟨hallowed, payload, hread, ⟨hsize, hdigest⟩, rest, hrest, rfl⟩ := h
    obtain ⟨hpaths, hall, hforall⟩ := ih hrest
    refine ⟨by rw [List.map_cons, List.map_cons, hpaths], List.forall_mem_cons.2 ⟨hallowed, hall⟩,
      .cons ⟨?_, hread⟩ hforall⟩
    cases e
    simp only [entry_of, Entry.mk.injEq, true_and] at hsize hdigest ⊢
    exact ⟨hsize.symm, hdigest.symm⟩

/-- A bundle that passes: its manifest is canonical, its files are the manifest and the
    payloads, of the recorded sizes and digests and under allowed paths, and a store of the
    payloads verifies at the revision of the manifest. -/
structure ValidBundle (P : Primitives) (verifier : Verifier) (t : Tree) (max_files max_bytes : ℕ)
    (manifest : Json) (payloads : Files) : Prop where
  raw : t.safe_read "manifest.json" = some (canonical_json manifest)
  entries : item (item manifest "core") "entries" =
    .arr (payloads.map fun f => (entry_of P f.1 f.2).json)
  allowed : ∀ f ∈ payloads, Sealed.allowed f.1 = true
  sorted : (payloads.map Prod.fst).Pairwise (· < ·)
  files : ∀ path, path ∈ t.files.map Prod.fst ↔
    path = "manifest.json" ∨ ∃ f ∈ payloads, path = "entries/" ++ f.1
  read : ∀ f ∈ payloads, t.safe_read ("entries/" ++ f.1) = some f.2
  dirs : ∀ d ∈ t.dirs, ∃ path ∈ t.files.map Prod.fst, d ∈ parents path
  total : item (item manifest "core") "total_bytes" =
    .int ((payloads.map fun f => f.2.length).sum : ℕ)
  count : item (item manifest "core") "entry_count" = .int payloads.length
  count_le : payloads.length ≤ max_files
  total_le : (payloads.map fun f => f.2.length).sum ≤ max_bytes
  current : ∃ raw text, payloads.lookup current_path = some raw ∧ decode_ascii raw = some text ∧
    item (item manifest "core") "current_revision" = .str (String.ofList (Sealed.strip text))
  verified : ∃ v, verifier payloads = .ok v ∧
    item (item manifest "core") "current_revision" = .str v.revision

theorem mapM_read_entry_ok {vs : List Json} (hw : ∀ v ∈ vs, v.Wf) {es : List Entry}
    (h : vs.mapM read_entry = some es) : vs = es.map Entry.json := by
  induction vs generalizing es with
  | nil =>
    cases h
    rfl
  | cons v vs ih =>
    rw [List.mapM_cons] at h
    obtain ⟨e, he, h⟩ := Option.bind_eq_some_iff.1 h
    obtain ⟨rest, hrest, h⟩ := Option.bind_eq_some_iff.1 h
    cases h
    rw [List.map_cons, ← eq_json_of_read_entry (hw v List.mem_cons_self) he,
      ← ih (fun w hmem => hw w (List.mem_cons_of_mem _ hmem)) hrest]

theorem list_eq_elems {v : Json} (h : is_list v = true) : v = .arr (elems v) := by
  cases v with
  | arr xs => rfl
  | _ => cases h

theorem entries_of_forall₂ {es : List Entry} {payloads : Files}
    (h : List.Forall₂ (fun (e : Entry) (f : String × Bytes) => e = entry_of P f.1 f.2) es payloads) :
    es = payloads.map fun f => entry_of P f.1 f.2 := by
  induction h with
  | nil => rfl
  | cons hef _ ih => rw [List.map_cons, ← hef, ← ih]

theorem forall_of_forall₂ {es : List Entry} {payloads : Files} {p : String × Bytes → Prop}
    (h : List.Forall₂ (fun _ f => p f) es payloads) : ∀ f ∈ payloads, p f := by
  induction h with
  | nil => exact fun _ hf => absurd hf List.not_mem_nil
  | cons hf _ ih => exact List.forall_mem_cons.2 ⟨hf, ih⟩

/-- A tree that passes validation is a valid bundle. -/
theorem validated_ok {manifest : Json} {payloads : Files}
    (h : validated P verifier t max_files max_bytes = .ok (manifest, payloads)) :
    ValidBundle P verifier t max_files max_bytes manifest payloads := by
  simp only [validated, bind_ok, elim_ok, demand_ok, exists_const, pure_ok, Prod.mk.injEq,
    decide_eq_true_eq] at h
  obtain ⟨raw, hraw, manifest, hloads, hcanonical, hshape, hlist, payloads, h, rfl, rfl⟩ := h
  have hwritten : Storable manifest := by
    obtain ⟨s, -, hs⟩ := Option.bind_eq_some_iff.1 hloads
    exact loads_written hs
  have hentries := list_eq_elems hlist
  have hcore : Storable (item manifest "core") := storable_item hwritten _
  have helems := storable_elems (storable_item hcore "entries")
  simp only [validate_entries, bind_ok, elim_ok, demand_ok, exists_const, pure_ok,
    decide_eq_true_eq, Bool.and_eq_true] at h
  obtain ⟨hcounts, es, hes, -, hpaths, payloads, hread, htree, htotal, text, hcurrent, hrevision, -,
    verified, hverified, hsemantic, rfl⟩ := h
  have hjson := mapM_read_entry_ok (fun v hv => (helems v hv).1) hes
  obtain ⟨hnames, hallowed, hforall⟩ := read_entries_ok hread
  obtain rfl := entries_of_forall₂ (hforall.imp fun _ _ => And.left)
  have hread_all := forall_of_forall₂ (hforall.imp fun _ _ => And.right)
  simp only [paths_valid, Bool.and_eq_true, decide_eq_true_eq] at hpaths
  simp only [validate_tree, Bool.and_eq_true, List.all_eq_true, List.contains_iff_mem] at htree
  rw [Option.map_eq_some_iff] at hcurrent
  obtain ⟨decoded, hdecoded, rfl⟩ := hcurrent
  obtain ⟨line, hline, hascii⟩ := Option.bind_eq_some_iff.1 hdecoded
  have hfiles (path : String) : path ∈ t.files.map Prod.fst ↔
      path = "manifest.json" ∨ ∃ f ∈ payloads, path = "entries/" ++ f.1 := by
    have hexpected : path ∈ "manifest.json" :: (payloads.map fun f => entry_of P f.1 f.2).map
        (fun e => "entries/" ++ e.path) ↔
          path = "manifest.json" ∨ ∃ f ∈ payloads, path = "entries/" ++ f.1 := by
      simp only [List.mem_cons, List.mem_map, List.map_map, Function.comp, entry_of, eq_comm]
    rw [← hexpected]
    exact ⟨htree.1.2 path, htree.1.1 path⟩
  rw [counts_valid, hjson, htotal, read_nat_natCast] at hcounts
  simp only [List.length_map, Bool.and_eq_true, decide_eq_true_eq] at hcounts
  obtain ⟨⟨hcount, hentry_count⟩, hwithin⟩ := hcounts
  refine { raw := by rw [hcanonical]; exact hraw
           entries := by rw [hentries, hjson, List.map_map]; rfl
           allowed := fun f hf => hallowed _ (List.mem_map_of_mem hf)
           sorted := ?_
           files := hfiles
           read := hread_all
           dirs := fun d hd => ?_
           total := htotal
           count := hentry_count
           count_le := hcount
           total_le := hwithin
           current := ⟨line, decoded, hline, hascii, hrevision⟩
           verified := ⟨verified, hverified, hsemantic⟩ }
  · rw [hnames]
    have hle := List.pairwise_insertionSort (· ≤ ·)
      ((payloads.map fun f => entry_of P f.1 f.2).map Entry.path)
    rw [← hpaths.1.1] at hle
    exact (hle.and hpaths.1.2).imp fun h => lt_of_le_of_ne h.1 h.2
  · obtain ⟨path, hpath, hd⟩ := List.mem_flatMap.1 (htree.2 d hd)
    exact ⟨path, htree.1.1 path hpath, hd⟩

end

/-! ## Exports -/

section

variable {P} {verifier : Verifier} {store : Store} {t : Tree} {current : String} {files : Files}

theorem export_tree_eq (manifest : Json) (files : Files) : export_tree manifest files =
    staged_tree manifest (files.map fun f => (entry_of P f.1 f.2, f.2)) := by
  rw [export_tree, staged_tree, List.map_map]
  rfl

/-- What an export has read when it publishes a tree. -/
structure Exported (P : Primitives) (store : Store) (current : String) (files : Files) : Prop where
  verified : ∃ v, store.verify = .ok v ∧ v.revision = current ∧ v.identity_status = "complete"
  current_read : store.read_current = .ok current
  files_read : store.export_files = .ok files
  required : required_entries (files.map fun f => entry_of P f.1 f.2) = true

/-- The manifest of an export. -/
def Exported.manifest (P : Primitives) (current : String) (files : Files) : Json :=
  export_manifest P (core_json current (files.map fun f => entry_of P f.1 f.2))

theorem create_export_ok : create_export P store = .ok t ↔
    ∃ current files, Exported P store current files ∧
      t = export_tree (Exported.manifest P current files) files := by
  simp only [create_export, bind_ok, demand_ok, exists_const, pure_ok, decide_eq_true_eq]
  constructor
  · rintro ⟨v, hv, hstatus, current, hcurrent, files, hfiles, hrevision, hrequired, rfl⟩
    exact ⟨current, files, ⟨⟨v, hv, hrevision, hstatus⟩, hcurrent, hfiles, hrequired⟩, rfl⟩
  · rintro ⟨current, files, ⟨⟨v, hv, hrevision, hstatus⟩, hcurrent, hfiles, hrequired⟩, rfl⟩
    exact ⟨v, hv, hstatus, current, hcurrent, files, hfiles, hrevision, hrequired, rfl⟩

theorem nodup_export (core sha : Json) : (([("schema", .str EXPORT_SCHEMA),
    ("profile", .str PROFILE), ("core", core), ("manifest_sha256", sha)] :
      List (String × Json)).map Prod.fst).Nodup := by
  simp

theorem item_export_core (core : Json) : item (export_manifest P core) "core" = core :=
  item_dict (nodup_export _ _) (by simp)

/-- Nothing is missing from the tree of an export, and nothing is in it that was not listed. -/
theorem validate_export_tree (manifest : Json) (files : Files) :
    validate_tree (export_tree manifest files)
      ("manifest.json" :: (files.map fun f => entry_of P f.1 f.2).map fun e => "entries/" ++ e.path) =
        true := by
  have hself (l : List String) : l.all (l.contains ·) = true := by
    simp only [List.all_eq_true, List.contains_iff_mem]
    exact fun _ h => h
  have hpaths : ((files.map fun f => (entry_of P f.1 f.2, f.2)).map fun r => r.1.path).map
      ("entries/" ++ ·) = (files.map fun f => entry_of P f.1 f.2).map fun e => "entries/" ++ e.path := by
    simp only [List.map_map]
    rfl
  rw [export_tree_eq (P := P), validate_tree, staged_paths, staged_dirs, hpaths]
  simp only [hself, Bool.and_self]

/-- The manifest of an export within the limits is read back. -/
theorem loads_export_manifest (hcount : files.length ≤ MAX_FILES)
    (htotal : (files.map fun f => f.2.length).sum ≤ MAX_BUNDLE_BYTES) :
    json_loads (canonical_json (Exported.manifest P current files)) =
      some (Exported.manifest P current files) := by
  have hfits : (core_json current (files.map fun f => entry_of P f.1 f.2)).intsFit = true := by
    refine core_intsFit ?_ ?_
    · rwa [List.length_map]
    · rwa [List.map_map]
  refine json_loads_canonical_json (wf_dict fun kv hkv => ?_)
    ((intsFit_dict (nodup_export _ _)).2 fun kv hkv => ?_)
  all_goals
    simp only [List.mem_cons, List.not_mem_nil, or_false] at hkv
    obtain rfl | rfl | rfl | rfl := hkv
  · trivial
  · trivial
  · exact core_wf
  · trivial
  · rfl
  · rfl
  · exact hfits
  · rfl

namespace Exported

variable (h : Exported P store current files)

include h

theorem required_content {path : String}
    (hpath : path ∈ ["anchor/project-identity.json", "anchor/memory/identity.json", current_path]) :
    ∃ s, content_of (files.map fun f => entry_of P f.1 f.2) path = .str s ∧
      is_identifier s = true := by
  refine Sealed.required_content h.required (fun e he => ?_) hpath
  obtain ⟨f, -, rfl⟩ := List.mem_map.1 he
  exact is_identifier_digest_bytes _

theorem manifest_valid : Export.manifest_valid P (manifest P current files) = true := by
  obtain ⟨project, hp, hpi⟩ := h.required_content
    (show "anchor/project-identity.json" ∈ _ by simp)
  obtain ⟨identity, hs, hsi⟩ := h.required_content
    (show "anchor/memory/identity.json" ∈ _ by simp)
  have hkeys : exact_keys (manifest P current files) ["schema", "profile", "core",
      "manifest_sha256"] = true := exact_keys_dict (nodup_export _ _) fun _ => Iff.rfl
  have hschema : item (manifest P current files) "schema" = .str EXPORT_SCHEMA :=
    item_dict (nodup_export _ _) (by simp)
  have hprofile : item (manifest P current files) "profile" = .str PROFILE :=
    item_dict (nodup_export _ _) (by simp)
  have hsha : item (manifest P current files) "manifest_sha256" =
      .str (digest_json P (core_json current (files.map fun f => entry_of P f.1 f.2))) :=
    item_dict (nodup_export _ _) (by simp)
  have hdigest : is_identifier (digest_json P (core_json current
      (files.map fun f => entry_of P f.1 f.2))) = true := is_identifier_digest_bytes _
  have hcore : item (manifest P current files) "core" =
      core_json current (files.map fun f => entry_of P f.1 f.2) := item_export_core _
  rw [Export.manifest_valid]
  simp only [hkeys, hschema, hprofile, hsha, hcore, exact_keys_core, core_current, core_project,
    core_store, hp, hs, List.all_cons, List.all_nil, is_sha256_text, hdigest, hpi, hsi,
    (Sealed.read_current_ok h.current_read).1, decide_true, Bool.and_self]

theorem allowed_path : ∀ p ∈ files.map Prod.fst, allowed p = true := by
  intro p hp
  obtain ⟨f, hf, rfl⟩ := List.mem_map.1 hp
  exact (export_files_ok h.files_read).1 f hf

theorem nodup : (files.map Prod.fst).Nodup :=
  (export_files_ok h.files_read).2.1.imp fun hlt => ne_of_lt hlt

theorem paths_valid : Export.paths_valid P (files.map Prod.fst) = true := by
  have hsorted := ((export_files_ok h.files_read).2.1.imp fun hlt => le_of_lt hlt).insertionSort_eq
  rw [Export.paths_valid, hsorted]
  simp only [h.nodup, nodup_casefold h.nodup h.allowed_path, decide_true, Bool.and_self]

theorem safe_read {f : String × Bytes} (hf : f ∈ files) :
    (export_tree (manifest P current files) files).safe_read ("entries/" ++ f.1) = some f.2 := by
  have hnd : ((files.map fun f => (entry_of P f.1 f.2, f.2)).map fun r => r.1.path).Nodup := by
    rw [List.map_map]
    exact h.nodup
  have hmem : (entry_of P f.1 f.2, f.2) ∈ files.map fun f => (entry_of P f.1 f.2, f.2) :=
    List.mem_map.2 ⟨f, hf, rfl⟩
  have hread (m : Json) := @safe_read_staged m _ hnd _ hmem
    (h.allowed_path f.1 (List.mem_map_of_mem hf))
  rw [export_tree_eq (P := P)]
  exact hread _

theorem read_entries : Export.read_entries P (export_tree (manifest P current files) files)
    (files.map fun f => entry_of P f.1 f.2) = .ok files := by
  have hall : ∀ rows ⊆ files, Export.read_entries P (export_tree (manifest P current files) files)
      (rows.map fun f => entry_of P f.1 f.2) = .ok rows := by
    intro rows hsub
    induction rows with
    | nil => rfl
    | cons f rows ih =>
      have hf : f ∈ files := hsub List.mem_cons_self
      have hrest := ih fun g hg => hsub (List.mem_cons_of_mem _ hg)
      rw [List.map_cons, Export.read_entries]
      simp only [entry_of, h.allowed_path f.1 (List.mem_map_of_mem hf), h.safe_read hf, demand,
        if_true, Option.elim_some, decide_true, Bool.and_self, bind, Except.bind] at hrest ⊢
      rw [hrest]
      rfl
  exact hall files fun _ hf => hf

/-- Within the limits, an export is checked by verifying a store of its files. -/
theorem validated (hcount : files.length ≤ MAX_FILES)
    (htotal : (files.map fun f => f.2.length).sum ≤ MAX_BUNDLE_BYTES) :
    Export.validated P verifier (export_tree (manifest P current files) files) MAX_FILES
      MAX_BUNDLE_BYTES = (verifier files).bind fun v =>
        if v.revision = current then .ok (manifest P current files, files)
        else .error (.export_io "export_semantic_mismatch") := by
  have hraw : (export_tree (manifest P current files) files).safe_read "manifest.json" =
      some (canonical_json (manifest P current files)) := by
    rw [export_tree_eq (P := P)]
    exact safe_read_manifest
  have hcore : item (manifest P current files) "core" =
      core_json current (files.map fun f => entry_of P f.1 f.2) := item_export_core _
  have hsizes : ((files.map fun f => entry_of P f.1 f.2).map Entry.size).sum =
      (files.map fun f => f.2.length).sum := by
    rw [List.map_map]
    rfl
  have hpaths : (files.map fun f => entry_of P f.1 f.2).map Entry.path = files.map Prod.fst := by
    rw [List.map_map]
    rfl
  have hids : ((files.map fun f => entry_of P f.1 f.2).all fun e =>
      is_identifier e.content_sha256) = true := by
    rw [List.all_eq_true]
    intro e he
    obtain ⟨f, -, rfl⟩ := List.mem_map.1 he
    exact is_identifier_digest_bytes _
  have hcounts : counts_valid (core_json current (files.map fun f => entry_of P f.1 f.2))
      ((files.map fun f => entry_of P f.1 f.2).map Entry.json) MAX_FILES MAX_BUNDLE_BYTES = true := by
    rw [counts_valid]
    simp only [List.length_map, core_count, core_total, hsizes, read_nat_natCast, hcount, htotal,
      decide_true, Bool.and_self]
  rw [Export.validated, hraw]
  simp only [Option.elim_some, loads_export_manifest hcount htotal, h.manifest_valid, hcore,
    core_entries, is_list, elems, demand, decide_true, if_true, bind, Except.bind, validate_entries,
    hcounts, mapM_entry?, hids, hpaths, h.paths_valid, h.read_entries, validate_export_tree,
    core_total, hsizes, current_of_export h.current_read h.files_read, core_current,
    String.ofList_toList, core_project, core_store, Bool.and_self]
  cases verifier files with
  | error e => rfl
  | ok v =>
    have hsame : (Json.str current = Json.str v.revision) = (v.revision = current) := by
      rw [Json.str.injEq, eq_comm (a := current)]
    simp only [hsame, decide_eq_true_eq]
    split_ifs <;> rfl

end Exported

/-- Files in the order of their paths are determined by what they are. -/
theorem eq_of_mem_iff {xs ys : Files} (hx : (xs.map Prod.fst).Pairwise (· < ·))
    (hy : (ys.map Prod.fst).Pairwise (· < ·)) (h : ∀ f, f ∈ xs ↔ f ∈ ys) : xs = ys := by
  have hx' := List.pairwise_map.1 hx
  have hy' := List.pairwise_map.1 hy
  have hnx : xs.Nodup := List.Nodup.of_map _ (hx.imp fun hlt => ne_of_lt hlt)
  have hny : ys.Nodup := List.Nodup.of_map _ (hy.imp fun hlt => ne_of_lt hlt)
  exact ((List.perm_ext_iff_of_nodup hnx hny).2 h).eq_of_pairwise
    (fun _ _ _ _ hab hba => absurd hab hba.asymm) hx' hy'

/-- What validation accepts of the tree of an export are the files of the export. -/
theorem payloads_of_export (h : Exported P store current files) {max_files max_bytes : ℕ}
    {manifest : Json} {payloads : Files} (hvalid : ValidBundle P verifier
      (export_tree (Exported.manifest P current files) files) max_files max_bytes manifest payloads) :
    payloads = files := by
  have hpaths (path : String) : path ∈ (export_tree (Exported.manifest P current files)
      files).files.map Prod.fst ↔ path = "manifest.json" ∨ ∃ f ∈ files, path = "entries/" ++ f.1 := by
    simp only [export_tree, List.map_cons, List.map_map, List.mem_cons, List.mem_map, Function.comp,
      eq_comm]
  refine eq_of_mem_iff hvalid.sorted (export_files_ok h.files_read).2.1 fun f => ⟨fun hf => ?_,
    fun hf => ?_⟩
  · have hmem := (hvalid.files _).2 (.inr ⟨f, hf, rfl⟩)
    obtain he | ⟨g, hg, he⟩ := (hpaths _).1 hmem
    · exact absurd he (entries_ne_manifest _)
    · have hread := hvalid.read f hf
      rw [entries_inj he, h.safe_read hg, Option.some.injEq] at hread
      rwa [Prod.ext (entries_inj he) hread.symm]
  · have hmem := (hpaths _).2 (.inr ⟨f, hf, rfl⟩)
    obtain he | ⟨g, hg, he⟩ := (hvalid.files _).1 hmem
    · exact absurd he (entries_ne_manifest _)
    · have hread := h.safe_read hf
      rw [entries_inj he, hvalid.read g hg, Option.some.injEq] at hread
      rwa [Prod.ext (entries_inj he) hread.symm]

/-- The bundle of an export passes validation exactly if it keeps within the limits and a store
    of its files verifies at its revision. -/
theorem validated_export_iff (h : Exported P store current files) :
    (∃ r, validated P verifier (export_tree (Exported.manifest P current files) files) MAX_FILES
      MAX_BUNDLE_BYTES = .ok r) ↔
      files.length ≤ MAX_FILES ∧ (files.map fun f => f.2.length).sum ≤ MAX_BUNDLE_BYTES ∧
        ∃ v, verifier files = .ok v ∧ v.revision = current := by
  constructor
  · rintro ⟨⟨manifest, payloads⟩, hr⟩
    have hvalid := validated_ok hr
    obtain rfl := payloads_of_export h hvalid
    obtain ⟨v, hv, hrevision⟩ := hvalid.verified
    have hwithin := hr.symm.trans (h.validated hvalid.count_le hvalid.total_le)
    rw [hv, Except.bind] at hwithin
    split_ifs at hwithin with hcurrent
    exact ⟨hvalid.count_le, hvalid.total_le, v, hv, hcurrent⟩
  · rintro ⟨hcount, htotal, v, hv, hrevision⟩
    exact ⟨_, by rw [h.validated hcount htotal, hv, Except.bind, if_pos hrevision]⟩

end

end AnKla.Export
