import AnKla.Export.Refines

/-!
# Export and restore

What a plain export publishes, restored at any place and under any failures.

* `Within`: the limits on the number of files and on their size. An export does not check
  them, its restore does.
* `restore_of_export`: the restore leaves the place as it was, or leaves there the files of
  the store, and it says which of the two it did. It publishes them exactly when they keep
  the limits, a store of them verifies at its CURRENT and nothing fails.
* `restore_valid`: whatever a restore leaves at a place comes from a valid bundle, and is the
  payloads that its manifest records.
-/

namespace AnKla.Export

open PyJson Sealed Base64

/-- What a restore accepts at most. -/
def Within (files : Files) : Prop :=
  files.length ≤ MAX_FILES ∧ (files.map fun f => f.2.length).sum ≤ MAX_BUNDLE_BYTES

section

variable {P : Primitives} {store : Store} {t : Tree} {verifier : Verifier} {current : String}
  {files : Files} {env : Env} {site : Site}

/-- Within the limits, an export is accepted if a store of its files verifies. -/
theorem Exported.validTo (h : Exported P store current files) (hwithin : Within files)
    (verifier : Verifier) :
    ValidTo P verifier (export_tree (Exported.manifest P current files) files) current files := by
  refine ⟨(validated_export_iff h).trans ⟨fun hr => hr.2.2, fun hv => ⟨hwithin.1, hwithin.2, hv⟩⟩, ?_⟩
  rintro ⟨manifest, payloads⟩ hr
  exact payloads_of_export h (validated_ok hr)

/-- A restore publishes exactly when it comes to the rename and nothing fails. -/
theorem restore_publishes_iff (h : ValidTo P verifier t current files) :
    (restore_export P verifier t env site).1.destination ≠ site.destination ↔
      PlainPublishes verifier current files env site := by
  constructor
  · intro hne
    by_contra hpub
    obtain ⟨s, report, hr, -, hsame, -⟩ := plain_unpublished h hpub
    rw [hr] at hne
    exact hne hsame
  · intro hpub
    exact (plain_published h hpub).1

/-- What an export publishes is restored whole or not at all, wherever the restore fails: the
    destination is what it was, or the files of the store. It is restored exactly when the files
    keep the limits, verify at the CURRENT of the store, and nothing fails. -/
theorem restore_of_export (h : create_export P store = .ok t) (verifier : Verifier) (env : Env)
    (site : Site) :
    ∃ current files, store.read_current = .ok current ∧ store.export_files = .ok files ∧
      Consistent site files (restore_export P verifier t env site) ∧
      ((restore_export P verifier t env site).1.destination ≠ site.destination ↔
        Within files ∧ PlainPublishes verifier current files env site) := by
  obtain ⟨current, files, he, rfl⟩ := create_export_ok.1 h
  refine ⟨current, files, he.current_read, he.files_read, ?_⟩
  by_cases hwithin : Within files
  · have hvalid := he.validTo hwithin verifier
    refine ⟨restore_export_consistent hvalid, (restore_publishes_iff hvalid).trans ?_⟩
    exact ⟨fun hpub => ⟨hwithin, hpub⟩, fun hpub => hpub.2⟩
  · -- the limits are checked before anything is staged
    have hidle : ¬(Reaches env site ∧ env.fails .materialize = false ∧ ∃ r, validated P verifier
        (export_tree (Exported.manifest P current files) files) MAX_FILES MAX_BUNDLE_BYTES =
          .ok r) := by
      rintro ⟨-, -, hr⟩
      obtain ⟨hcount, htotal, -⟩ := (validated_export_iff he).1 hr
      exact hwithin ⟨hcount, htotal⟩
    obtain ⟨report, hr, htells⟩ := restore_export_idle hidle
    rw [hr]
    exact ⟨consistent_of_unchanged rfl htells,
      iff_of_false (fun hne => hne rfl) fun hpub => hwithin hpub.1⟩

/-- The store with one revision, restored to an empty place. -/
theorem restore_of_small_export : ∃ t current files, create_export plain small_store = .ok t ∧
    small_store.read_current = .ok current ∧ small_store.export_files = .ok files ∧
      Consistent empty_site files
        (restore_export plain small_verifier t no_failure empty_site) ∧
      ((restore_export plain small_verifier t no_failure empty_site).1.destination ≠
          empty_site.destination ↔
        Within files ∧ PlainPublishes small_verifier current files no_failure empty_site) := by
  obtain ⟨t, ht⟩ := create_small_export
  obtain ⟨current, files, h⟩ := restore_of_export ht small_verifier no_failure empty_site
  exact ⟨t, current, files, ht, h⟩

/-- Of any directory whatever, the restore changes the destination only to the payloads of a valid
    bundle: they are the files of the directory, of the recorded sizes and digests and under
    allowed paths, and a store of them verifies at the revision of the manifest. -/
theorem restore_valid (P : Primitives) (t : Tree) (verifier : Verifier) (env : Env) (site : Site) :
    (restore_export P verifier t env site).1.destination = site.destination ∨
      ∃ manifest payloads, ValidBundle P verifier t MAX_FILES MAX_BUNDLE_BYTES manifest payloads ∧
        (restore_export P verifier t env site).1.destination =
          .directory (restored_tree payloads) := by
  by_cases hstages : Reaches env site ∧ env.fails .materialize = false ∧
      ∃ r, validated P verifier t MAX_FILES MAX_BUNDLE_BYTES = .ok r
  · obtain ⟨hreach, hmaterialize, ⟨manifest, payloads⟩, hvalid⟩ := hstages
    by_cases hpub : (∃ v, verifier payloads = .ok v) ∧ Fills env site payloads ∧
        ∀ f ∈ payloads, env.fails (.read_again f.1) = false
    · obtain ⟨hverifier, hfills, hread⟩ := hpub
      obtain ⟨report, hr, -⟩ := restore_export_published hreach hvalid hmaterialize hverifier hfills
        hread
      refine .inr ⟨manifest, payloads, validated_ok hvalid, ?_⟩
      rw [hr, destination_remove_staging]
    · obtain ⟨report, hr, -⟩ := restore_export_undone hreach hvalid hmaterialize hpub
      rw [hr, destination_remove_staging]
      exact .inl rfl
  · obtain ⟨report, hr, -⟩ := restore_export_idle hstages
    rw [hr]
    exact .inl rfl

end

end AnKla.Export
