import AnKla.Export.Restore

/-!
# The two restores against each other

One store is exported as a plain bundle and as a sealed one, and both are restored to the
same place, under the same failures.

* `Refines`: the same destination, no staging directory that was not there before, and a
  report that says whether the destination was published.
* `SealedPublishes`, `PlainPublishes`: the restore comes to the rename, by the failures and
  by the place alone.
* `restores_refine_iff`: the sealed restore refines the plain one exactly when neither comes
  to the rename and what they stage is removed. A sealed restore that publishes leaves its
  staging directory behind, or raises.
-/

namespace AnKla.Export

open PyJson Sealed Base64

/-! ## The property -/

/-- A destination that changes is that of the whole store, and the caller is told that it is
    published exactly if it has changed. -/
structure Consistent (site : Site) (payloads : Files) (r : Site × Report) : Prop where
  whole : r.1.destination ≠ site.destination →
    r.1.destination = .directory (restored_tree payloads)
  told : r.2.says_published = true ↔ r.1.destination ≠ site.destination

/-- Two restores of the same files leave the same, nothing staged, and are both consistent. -/
structure Refines (site : Site) (payloads : Files) (sealed_run plain_run : Site × Report) :
    Prop where
  destination : sealed_run.1.destination = plain_run.1.destination
  sealed_staging : sealed_run.1.staging = site.staging
  plain_staging : plain_run.1.staging = site.staging
  sealed_consistent : Consistent site payloads sealed_run
  plain_consistent : Consistent site payloads plain_run

/-! ## The condition -/

section

variable (verifier : Verifier) (current : String) (payloads : Files) (opens : Prop) (env : Env)
  (site : Site)

/-- A store of the files verifies, at the revision that was exported. -/
def Verifies : Prop := ∃ v, verifier payloads = .ok v ∧ v.revision = current

/-- The sealed restore makes a staging directory. -/
def SealedStages : Prop := opens ∧ Reaches env site

/-- The plain restore makes a staging directory. -/
def PlainStages : Prop :=
  Verifies verifier current payloads ∧ env.fails .materialize = false ∧ Reaches env site

/-- The sealed restore renames what it has staged to the destination. -/
def SealedPublishes : Prop :=
  SealedStages opens env site ∧ Verifies verifier current payloads ∧ Fills env site payloads

/-- The plain restore renames what it has staged to the destination. -/
def PlainPublishes : Prop :=
  PlainStages verifier current payloads env site ∧ Fills env site payloads ∧
    ∀ f ∈ payloads, env.fails (.read_again f.1) = false

/-- Neither restore publishes, and what they stage is removed. -/
structure Unpublished : Prop where
  sealed_unpublished : ¬SealedPublishes verifier current payloads opens env site
  plain_unpublished : ¬PlainPublishes verifier current payloads env site
  removed : env.fails .remove_staging = true →
    ¬SealedStages opens env site ∧ ¬PlainStages verifier current payloads env site

end

/-! ## Runs -/

section

variable {P : Primitives} {verifier : Verifier} {t t' : Tree} {key : Key} {current : String}
  {payloads : Files} {opens : Prop} {env : Env} {site : Site}

/-- A bundle opens to the files that were sealed, or not at all. -/
def OpensTo (P : Primitives) (t : Tree) (key : Key) (current : String) (payloads : Files)
    (opens : Prop) : Prop :=
  ∀ r, open_sealed P t key = .ok r ↔ opens ∧ r = (.str current, payloads)

/-- A bundle is accepted if a store of its files verifies, and is restored to these. -/
def ValidTo (P : Primitives) (verifier : Verifier) (t : Tree) (current : String)
    (payloads : Files) : Prop :=
  ((∃ r, validated P verifier t MAX_FILES MAX_BUNDLE_BYTES = .ok r) ↔
    Verifies verifier current payloads) ∧
  ∀ r, validated P verifier t MAX_FILES MAX_BUNDLE_BYTES = .ok r → r.2 = payloads

/-- A run that changes nothing and does not say that it has. -/
theorem consistent_of_unchanged {r : Site × Report} (hd : r.1.destination = site.destination)
    (htells : r.2.says_published = false) : Consistent site payloads r :=
  ⟨fun hne => absurd hd hne, by simp [hd, htells]⟩

/-- What is staged is left behind only if its removal fails. -/
theorem remove_staging_staged : (remove_staging env { site with staging := site.staging + 1 }).staging =
    site.staging ↔ env.fails .remove_staging = false := by
  rw [remove_staging]
  split_ifs with h <;> simp [h]

theorem destination_remove_staging (s : Site) : (remove_staging env s).destination = s.destination := by
  rw [remove_staging]
  split_ifs <;> rfl

/-- Unless it publishes, the sealed restore raises, and the destination is as it was. -/
theorem sealed_unpublished (h : OpensTo P t key current payloads opens)
    (hpub : ¬SealedPublishes verifier current payloads opens env site) :
    ∃ s e, restore_sealed_bundle P verifier t key env site = (s, .raised e) ∧
      s.destination = site.destination ∧ (s.staging = site.staging ↔
        (env.fails .remove_staging = true → ¬SealedStages opens env site)) := by
  by_cases hstages : SealedStages opens env site
  · obtain ⟨hopens, hreach⟩ := hstages
    have hnot : ¬((∃ v, verifier payloads = .ok v ∧ Json.str current = .str v.revision) ∧
        Fills env site payloads) := by
      rintro ⟨⟨v, hv, hcurrent⟩, hfills⟩
      exact hpub ⟨⟨hopens, hreach⟩, ⟨v, hv, (Json.str.inj hcurrent).symm⟩, hfills⟩
    obtain ⟨e, he⟩ := restore_sealed_undone hreach ((h _).2 ⟨hopens, rfl⟩) hnot
    refine ⟨_, e, he, destination_remove_staging _, remove_staging_staged.trans ?_⟩
    rw [← Bool.not_eq_true]
    exact ⟨fun hr ht => absurd ht hr, fun hr ht => hr ht ⟨hopens, hreach⟩⟩
  · have hnot : ¬(Reaches env site ∧ ∃ r, open_sealed P t key = .ok r) := by
      rintro ⟨hreach, r, hr⟩
      exact hstages ⟨((h r).1 hr).1, hreach⟩
    obtain ⟨e, he⟩ := restore_sealed_idle hnot
    exact ⟨site, e, he, rfl, iff_of_true rfl fun _ => hstages⟩

/-- Unless it publishes, the plain restore does not say that it has, and the destination is as
    it was. -/
theorem plain_unpublished (h : ValidTo P verifier t current payloads)
    (hpub : ¬PlainPublishes verifier current payloads env site) :
    ∃ s report, restore_export P verifier t env site = (s, report) ∧
      report.says_published = false ∧ s.destination = site.destination ∧
      (s.staging = site.staging ↔
        (env.fails .remove_staging = true → ¬PlainStages verifier current payloads env site)) := by
  by_cases hstages : PlainStages verifier current payloads env site
  · obtain ⟨hverifies, hmaterialize, hreach⟩ := hstages
    obtain ⟨⟨manifest, files⟩, hvalid⟩ := h.1.2 hverifies
    obtain rfl := h.2 _ hvalid
    have hnot : ¬((∃ v, verifier files = .ok v) ∧ Fills env site files ∧
        ∀ f ∈ files, env.fails (.read_again f.1) = false) := by
      rintro ⟨-, hfills, hread⟩
      exact hpub ⟨⟨hverifies, hmaterialize, hreach⟩, hfills, hread⟩
    obtain ⟨report, hr, htells⟩ := restore_export_undone hreach hvalid hmaterialize hnot
    refine ⟨_, report, hr, htells, destination_remove_staging _, remove_staging_staged.trans ?_⟩
    rw [← Bool.not_eq_true]
    exact ⟨fun hr ht => absurd ht hr, fun hr ht => hr ht ⟨hverifies, hmaterialize, hreach⟩⟩
  · have hnot : ¬(Reaches env site ∧ env.fails .materialize = false ∧
        ∃ r, validated P verifier t MAX_FILES MAX_BUNDLE_BYTES = .ok r) := by
      rintro ⟨hreach, hmaterialize, hr⟩
      exact hstages ⟨h.1.1 hr, hmaterialize, hreach⟩
    obtain ⟨report, hr, htells⟩ := restore_export_idle hnot
    exact ⟨site, report, hr, htells, rfl, iff_of_true rfl fun _ => hstages⟩

/-- The sealed restore that publishes is not consistent, or leaves its staging directory. -/
theorem sealed_published (h : OpensTo P t key current payloads opens)
    (hpub : SealedPublishes verifier current payloads opens env site) :
    (restore_sealed_bundle P verifier t key env site).1.staging ≠ site.staging ∨
      ¬Consistent site payloads (restore_sealed_bundle P verifier t key env site) := by
  obtain ⟨⟨hopens, hreach⟩, ⟨v, hv, rfl⟩, hfills⟩ := hpub
  obtain ⟨r, rfl, hdestination, hleft | htells⟩ := restore_sealed_published hreach
    ((h _).2 ⟨hopens, rfl⟩) ⟨v, hv, rfl⟩ hfills
  · exact .inl (by rw [hleft]; exact Nat.succ_ne_self _)
  · refine .inr fun hcon => ?_
    have htold := hcon.told.2 (by rw [hdestination, hfills.absent]; exact Place.noConfusion)
    rw [htells] at htold
    cases htold

/-- The plain restore that publishes changes the destination. -/
theorem plain_published (h : ValidTo P verifier t current payloads)
    (hpub : PlainPublishes verifier current payloads env site) :
    (restore_export P verifier t env site).1.destination ≠ site.destination ∧
      Consistent site payloads (restore_export P verifier t env site) := by
  obtain ⟨⟨hverifies, hmaterialize, hreach⟩, hfills, hread⟩ := hpub
  obtain ⟨⟨manifest, files⟩, hvalid⟩ := h.1.2 hverifies
  obtain rfl := h.2 _ hvalid
  obtain ⟨v, hv, -⟩ := hverifies
  obtain ⟨report, hr, htells⟩ := restore_export_published hreach hvalid hmaterialize ⟨v, hv⟩ hfills
    hread
  have hne : (restore_export P verifier t env site).1.destination ≠ site.destination := by
    rw [hr, destination_remove_staging, hfills.absent]
    exact Place.noConfusion
  refine ⟨hne, fun _ => ?_, iff_of_true ?_ hne⟩
  · rw [hr, destination_remove_staging]
  · rw [hr]
    exact htells

/-- The plain restore is consistent, whatever fails. -/
theorem restore_export_consistent (h : ValidTo P verifier t current payloads) :
    Consistent site payloads (restore_export P verifier t env site) := by
  by_cases hpub : PlainPublishes verifier current payloads env site
  · exact (plain_published h hpub).2
  · obtain ⟨s, report, hr, htells, hsame, -⟩ := plain_unpublished h hpub
    rw [hr]
    exact consistent_of_unchanged hsame htells

theorem refines_iff (hsealed : OpensTo P t key current payloads opens)
    (hplain : ValidTo P verifier t' current payloads) :
    Refines site payloads (restore_sealed_bundle P verifier t key env site)
        (restore_export P verifier t' env site) ↔
      Unpublished verifier current payloads opens env site := by
  constructor
  · intro hrefines
    have hs : ¬SealedPublishes verifier current payloads opens env site := fun hpub =>
      (sealed_published hsealed hpub).elim (fun hne => hne hrefines.sealed_staging)
        fun hnot => hnot hrefines.sealed_consistent
    obtain ⟨s, e, hrun, hsame, hleft⟩ := sealed_unpublished hsealed hs
    have hp : ¬PlainPublishes verifier current payloads env site := fun hpub => by
      refine (plain_published hplain hpub).1 ?_
      rw [← hrefines.destination, hrun, hsame]
    obtain ⟨s', report, hrun', -, -, hleft'⟩ := plain_unpublished hplain hp
    have hstaging := hrefines.sealed_staging
    have hstaging' := hrefines.plain_staging
    rw [hrun] at hstaging
    rw [hrun'] at hstaging'
    exact ⟨hs, hp, fun hremove => ⟨hleft.1 hstaging hremove, hleft'.1 hstaging' hremove⟩⟩
  · rintro ⟨hs, hp, hremoved⟩
    obtain ⟨s, e, hrun, hsame, hleft⟩ := sealed_unpublished hsealed hs
    obtain ⟨s', report, hrun', htells, hsame', hleft'⟩ := plain_unpublished hplain hp
    rw [hrun, hrun']
    exact ⟨hsame.trans hsame'.symm, hleft.2 fun hremove => (hremoved hremove).1,
      hleft'.2 fun hremove => (hremoved hremove).2, consistent_of_unchanged hsame rfl,
      consistent_of_unchanged hsame' htells⟩

end

/-! ## One store, two bundles -/

section

variable {P : Primitives} {adapter : KeyAdapter} {store : Store} {cek : Cek} {t t' : Tree}
  {key : Key} {current : String} {files : Files}

/-- The bundle of a sealed export opens to the files of the store, unless its wrapped key is
    empty. -/
theorem opensTo_of_create (h : create_sealed_bundle P adapter store cek = .ok t)
    (hkey : key = .cek cek ∨ key = .runner adapter) (hcurrent : store.read_current = .ok current)
    (hfiles : store.export_files = .ok files) :
    OpensTo P t key current files (item (adapter.wrap cek) "wrapped_cek" ≠ .str "") := by
  obtain ⟨current', files', rows, wrapped_cek, adapter_id, hp, rfl⟩ := create_ok h
  obtain rfl : current' = current := Except.ok.inj (hp.current_read.symm.trans hcurrent)
  obtain rfl : files' = files := Except.ok.inj (hp.files_read.symm.trans hfiles)
  have hresolve : resolve_cek (manifest_json P (derive_subkeys P cek) adapter_id wrapped_cek
      (core_json current' (rows.map Prod.fst))) key = .ok cek := by
    rcases hkey with rfl | rfl
    · exact if_pos cek.2
    · rw [resolve_cek, manifest_seal, seal_wrapped_cek, unwrap_cek_wrap_cek cek.2 hp.wrapped]
  rw [← shape_iff_wrapped hp.wrapped]
  intro r
  cases hshape : b64Shape wrapped_cek.toList with
  | true =>
    rw [open_sealed, hp.inspect hshape]
    simp only [hresolve, hp.decrypt_all, hp.identity_crosscheck, manifest_core, core_current,
      bind, Except.bind, pure, Except.pure, Except.ok.injEq, true_and, eq_comm]
  | false =>
    rw [open_sealed, hp.inspect_invalid hshape]
    simp [Inspection.invalid]

/-- The bundle of a plain export is accepted if a store of its files verifies. -/
theorem validTo_of_create (h : create_export P store = .ok t')
    (hseal : create_sealed_bundle P adapter store cek = .ok t) (verifier : Verifier)
    (hcurrent : store.read_current = .ok current) (hfiles : store.export_files = .ok files) :
    ValidTo P verifier t' current files := by
  obtain ⟨current', files', he, rfl⟩ := create_export_ok.1 h
  obtain rfl : current' = current := Except.ok.inj (he.current_read.symm.trans hcurrent)
  obtain rfl : files' = files := Except.ok.inj (he.files_read.symm.trans hfiles)
  obtain ⟨_, sealed_files, rows, _, _, hp, -⟩ := create_ok hseal
  obtain rfl : sealed_files = files' := Except.ok.inj (hp.files_read.symm.trans hfiles)
  have hcount := hp.count
  have htotal := hp.total
  rw [hp.entries, List.length_map] at hcount
  rw [hp.entries, List.map_map] at htotal
  refine ⟨(validated_export_iff he).trans ⟨fun hr => hr.2.2, fun hv => ⟨hcount, htotal, hv⟩⟩, ?_⟩
  rintro ⟨manifest, payloads⟩ hr
  exact payloads_of_export he (validated_ok hr)

/-- The sealed restore of a store refines its plain restore exactly when neither publishes and
    what they stage is removed. -/
theorem restores_refine_iff (hseal : create_sealed_bundle P adapter store cek = .ok t)
    (hexport : create_export P store = .ok t') (hcurrent : store.read_current = .ok current)
    (hfiles : store.export_files = .ok files) (hkey : key = .cek cek ∨ key = .runner adapter)
    (verifier : Verifier) (env : Env) (site : Site) :
    Refines site files (restore_sealed_bundle P verifier t key env site)
        (restore_export P verifier t' env site) ↔
      Unpublished verifier current files (item (adapter.wrap cek) "wrapped_cek" ≠ .str "") env site :=
  refines_iff (opensTo_of_create hseal hkey hcurrent hfiles)
    (validTo_of_create hexport hseal verifier hcurrent hfiles)

end

/-! ## A restore that succeeds -/

/-- Nothing fails. -/
def no_failure : Env := ⟨fun _ => false, false⟩

/-- An empty place. -/
def empty_site : Site := ⟨.absent, 0⟩

/-- The store with one revision is exported as it is. -/
theorem create_small_export : ∃ t, create_export plain small_store = .ok t :=
  ⟨_, create_export_ok.2 ⟨_, _, ⟨⟨_, rfl, rfl, rfl⟩, small_store_current, small_store_files,
    small_exportable.required⟩, rfl⟩⟩

theorem keystore_wrap : wrap_cek (keystore []) zero_cek =
    .ok (String.ofList (b64encode zero_cek), "host-keystore") := wrap_cek_answer rfl (by decide)

/-- A verification that finds the revision of the store with one revision. -/
def small_verifier : Verifier := fun _ => .ok ⟨"sha256:" ++ zeros, "complete"⟩

/-- Where nothing fails, the sealed restore leaves its staging directory behind. -/
theorem restores_differ : ¬∀ (P : Primitives) (adapter : KeyAdapter) (store : Store) (cek : Cek)
    (t t' : Tree) (files : Files) (verifier : Verifier) (env : Env) (site : Site),
    create_sealed_bundle P adapter store cek = .ok t → create_export P store = .ok t' →
    store.export_files = .ok files →
      Refines site files (restore_sealed_bundle P verifier t (.cek cek) env site)
        (restore_export P verifier t' env site) := by
  intro hall
  obtain ⟨t, ht⟩ := create_small_store keystore_wrap
  obtain ⟨t', ht'⟩ := create_small_export
  have hrefines := hall plain (keystore []) small_store zero_cek t t' _ small_verifier no_failure
    empty_site ht ht' small_store_files
  have hopens : item ((keystore []).wrap zero_cek) "wrapped_cek" ≠ .str "" := by decide +kernel
  have hpub : SealedPublishes small_verifier ("sha256:" ++ zeros) small_files
      (item ((keystore []).wrap zero_cek) "wrapped_cek" ≠ .str "") no_failure empty_site :=
    ⟨⟨hopens, rfl, rfl, rfl, rfl⟩, ⟨_, rfl, rfl⟩, fun _ _ => rfl, fun _ _ => rfl, rfl, rfl, rfl, rfl⟩
  rcases sealed_published (opensTo_of_create ht (.inl rfl) small_store_current small_store_files)
    hpub with hstaging | hnot
  · exact hstaging hrefines.sealed_staging
  · exact hnot hrefines.sealed_consistent

/-- An occupied place: both restores refuse it. -/
theorem restores_refine_occupied : ∃ t t' files,
    create_sealed_bundle plain (keystore []) small_store zero_cek = .ok t ∧
    create_export plain small_store = .ok t' ∧
    (Refines ⟨.file [], 0⟩ files
        (restore_sealed_bundle plain small_verifier t (.cek zero_cek) no_failure ⟨.file [], 0⟩)
        (restore_export plain small_verifier t' no_failure ⟨.file [], 0⟩) ↔
      Unpublished small_verifier ("sha256:" ++ zeros) files
        (item ((keystore []).wrap zero_cek) "wrapped_cek" ≠ .str "") no_failure ⟨.file [], 0⟩) := by
  obtain ⟨t, ht⟩ := create_small_store keystore_wrap
  obtain ⟨t', ht'⟩ := create_small_export
  exact ⟨t, t', _, ht, ht', restores_refine_iff ht ht' small_store_current small_store_files
    (.inl rfl) small_verifier no_failure ⟨.file [], 0⟩⟩

end AnKla.Export
