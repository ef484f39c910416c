import AnKla.Export.Bundle

/-!
# Restoring a bundle

The two restores, of a plain bundle and of a sealed one. Each checks the bundle, fills a
staging directory beside the destination, verifies a store there, and renames it into place.
Any step may fail.

* `Step`, `Env`: the steps, and which of them fail.
* `restore_export`, `restore_sealed_bundle`: what is left under the parent of the
  destination, and what the caller is told.
* `Reaches`, `Fills`: how far a restore comes, from the failures alone.
* `restore_sealed_published`, `restore_export_published`: what is left and said once the store
  is in place; `..._undone` and `..._idle`: and before.
-/

namespace AnKla.Export

open PyJson Sealed Base64

/-! ## Destinations -/

/-- The destination `.an-kla`, as a restore finds and leaves it. -/
inductive Place
  | absent
  /-- A symbolic link to nothing: `exists()` denies it, and a rename does not replace it. -/
  | dangling
  | file (raw : Bytes)
  | directory (t : Tree)

/-- `destination.exists()`. -/
def Place.is_there : Place → Bool
  | .absent => false
  | .dangling => false
  | .file _ => true
  | .directory _ => true

/-- What lies under the parent of a destination. -/
structure Site where
  destination : Place
  /-- The staging directories that are left. -/
  staging : ℕ

/-- `Path(relative).relative_to("anchor")`. -/
def relative_to_anchor (path : String) : String := String.ofList (path.toList.drop 7)

/-- The lock that a verification creates in the store. -/
def reader_gate : String := "memory/.reader-gate"

/-- A store of the given files, once it has been verified. -/
def restored_tree (payloads : Files) : Tree :=
  let files := (reader_gate, []) :: payloads.map fun f => (relative_to_anchor f.1, f.2)
  ⟨files, files.flatMap fun f => parents f.1⟩

/-! ## Failures -/

/-- What is raised or reported. -/
inductive RestoreFailure
  | refused (e : SealFailure)
  | os_error
  deriving DecidableEq

def restore_destination_conflict : RestoreFailure :=
  .refused (.export_io "restore_destination_conflict")

def restore_publish_failed : RestoreFailure := .refused (.export_io "restore_publish_failed")

/-- The calls of a restore that may fail. -/
inductive Step
  | read_bundle
  /-- `_materialize`, in a directory of its own. -/
  | materialize
  | make_project
  | make_staging
  | write (path : String)
  /-- The file that was written is read back, and is not what it should be. -/
  | read_back (path : String)
  | verify_staging
  | sync_tree
  | read_again (path : String)
  | rename
  | sync_project
  | verify_final
  | read_destination
  | remove_staging
  deriving DecidableEq

/-- The failures of a run. -/
structure Env where
  fails : Step → Bool
  /-- The rename takes place, and is reported as failed. -/
  rename_lost : Bool

/-- A call that fails with the given error. -/
def Env.attempt (env : Env) (s : Step) (e : RestoreFailure) : Except RestoreFailure Unit :=
  if env.fails s then .error e else .ok ()

/-- An error of a check, raised. -/
def refuse {α : Type} : Except SealFailure α → Except RestoreFailure α
  | .error e => .error (.refused e)
  | .ok a => .ok a

/-- `state` of a report. -/
inductive RestoreState
  | published
  | published_durability_incomplete
  | not_published
  | outcome_unknown
  deriving DecidableEq

/-- How a restore ends: it raises, or it returns a report. -/
inductive Report
  | raised (e : RestoreFailure)
  | returned (state : RestoreState) (published : Bool) (restore_error : Option RestoreFailure)

/-- Whether the caller is told that the destination is published. -/
def Report.says_published : Report → Bool
  | .raised _ => false
  | .returned _ published _ => published

/-! ## Staging and publication -/

/-- The loop that fills the staging directory. -/
def write_staged (env : Env) : Files → Except RestoreFailure Unit
  | [] => .ok ()
  | f :: fs => do
    env.attempt (.write f.1) .os_error
    env.attempt (.read_back f.1) (.refused (.export_io "restore_staging_mismatch"))
    write_staged env fs

/-- The second reading of the staged files. -/
def read_again (env : Env) : Files → Except RestoreFailure Unit
  | [] => .ok ()
  | f :: fs => do
    env.attempt (.read_again f.1) (.refused (.export_io "restore_staging_mismatch"))
    read_again env fs

/-- `rename_noreplace(anchor, destination)`. -/
def rename_noreplace (env : Env) (payloads : Files) (site : Site) :
    Site × Except RestoreFailure Unit :=
  if env.fails .rename then (site, .error restore_publish_failed)
  else match site.destination with
    | .absent => ({ site with destination := .directory (restored_tree payloads) },
        if env.rename_lost then .error restore_publish_failed else .ok ())
    | _ => (site, .error restore_destination_conflict)

/-- `shutil.rmtree(staging, ignore_errors=True)`. -/
def remove_staging (env : Env) (site : Site) : Site :=
  if env.fails .remove_staging then site else { site with staging := site.staging - 1 }

/-- `fsync_directory(project)`, and the verification of the published store. -/
def final_verify (env : Env) (verifier : Verifier) (payloads : Files) :
    Except RestoreFailure Unit := do
  env.attempt .verify_final .os_error
  let _ ← refuse (verifier payloads)
  return ()

/-! ## The restore of a plain bundle -/

section

variable (P : Primitives) (verifier : Verifier)

/-- `_destination_matches(destination, payloads)`. -/
def destination_matches (env : Env) (payloads : Files) : Place → Bool
  | .directory t =>
    let expected := payloads.map (fun f => relative_to_anchor f.1) ++
      if (t.files.map Prod.fst).contains reader_gate then [reader_gate] else []
    !env.fails .read_destination && validate_tree t expected &&
      payloads.all fun f => t.safe_read (relative_to_anchor f.1) = some f.2
  | _ => false

/-- What `restore_export` does before it touches the destination or its parent. -/
def open_export (env : Env) (t : Tree) : Except RestoreFailure (Json × Files) := do
  env.attempt .read_bundle .os_error
  let r ← refuse (validated P verifier t MAX_FILES MAX_BUNDLE_BYTES)
  env.attempt .materialize .os_error
  env.attempt .make_project .os_error
  return r

/-- The body of `restore_export` up to the rename. -/
def stage_export (env : Env) (payloads : Files) : Except RestoreFailure Unit := do
  write_staged env payloads
  env.attempt .verify_staging .os_error
  let _ ← refuse (verifier payloads)
  env.attempt .sync_tree .os_error
  read_again env payloads

/-- How far the body came: `published`, `durability_complete`, and what it raised. -/
structure Tried where
  site : Site
  published : Bool
  durability_complete : Bool
  failure : Option RestoreFailure

/-- The body of `restore_export`. -/
def try_export (env : Env) (payloads : Files) (site : Site) : Tried :=
  match stage_export verifier env payloads with
  | .error e => ⟨site, false, false, some e⟩
  | .ok _ =>
    match rename_noreplace env payloads site with
    | (site, .error e) => ⟨site, false, false, some e⟩
    | (site, .ok _) =>
      match env.attempt .sync_project .os_error with
      | .error e => ⟨site, true, false, some e⟩
      | .ok _ =>
        match final_verify env verifier payloads with
        | .error e => ⟨site, true, true, some e⟩
        | .ok _ => ⟨site, true, true, none⟩

/-- The report of `restore_export`, after its body. -/
def report_export (env : Env) (payloads : Files) (r : Tried) : Report :=
  match r.failure with
  | none => .returned .published true none
  | some e =>
    let conflict := decide (e = restore_destination_conflict)
    let published := r.published || (!conflict && r.site.destination.is_there &&
      destination_matches env payloads r.site.destination)
    if !published then
      if conflict || !r.site.destination.is_there then .returned .not_published false (some e)
      else .returned .outcome_unknown true (some e)
    else if r.durability_complete then .returned .outcome_unknown published (some e)
    else .returned .published_durability_incomplete published (some e)

/-- `restore_export(bundle, project_root)`. -/
def restore_export (t : Tree) (env : Env) (site : Site) : Site × Report :=
  match open_export P verifier env t with
  | .error e => (site, .raised e)
  | .ok (_, payloads) =>
    if site.destination.is_there then (site, .raised restore_destination_conflict)
    else if env.fails .make_staging then (site, .returned .not_published false (some .os_error))
    else
      let r := try_export verifier env payloads { site with staging := site.staging + 1 }
      (remove_staging env r.site, report_export env payloads r)

/-! ## The restore of a sealed bundle -/

/-- What `restore_sealed_bundle` makes of a bundle and a key: the revision of the manifest,
    and the files. -/
def open_sealed (t : Tree) (key : Key) : Except SealFailure (Json × Files) :=
  let inspection := inspect_bundle P t MAX_FILES MAX_BUNDLE_BYTES
  match inspection.diagnostics, inspection.manifest with
  | diagnostic :: _, _ => .error (export_error diagnostic)
  | [], none => .error (.value "manifest")
  | [], some manifest => do
    let cek ← resolve_cek manifest key
    let payloads ← decrypt_all P manifest inspection.ciphertexts cek
    identity_crosscheck manifest payloads
    return (item (item manifest "core") "current_revision", payloads)

/-- What `restore_sealed_bundle` does before it touches the destination or its parent. -/
def open_bundle (env : Env) (t : Tree) (key : Key) : Except RestoreFailure (Json × Files) := do
  env.attempt .read_bundle .os_error
  let r ← refuse (open_sealed P t key)
  env.attempt .make_project .os_error
  return r

/-- The body of `restore_sealed_bundle` up to the rename. -/
def stage_sealed (env : Env) (current : Json) (payloads : Files) : Except RestoreFailure Unit := do
  write_staged env payloads
  env.attempt .verify_staging .os_error
  let verified ← refuse (verifier payloads)
  refuse (demand (current = .str verified.revision) (.export_io "export_semantic_mismatch"))
  env.attempt .sync_tree .os_error

/-- `restore_sealed_bundle(bundle, project_root, key)`. -/
def restore_sealed_bundle (t : Tree) (key : Key) (env : Env) (site : Site) : Site × Report :=
  match open_bundle P env t key with
  | .error e => (site, .raised e)
  | .ok (current, payloads) =>
    if site.destination.is_there then (site, .raised restore_destination_conflict)
    else if env.fails .make_staging then (site, .raised .os_error)
    else
      let staged := { site with staging := site.staging + 1 }
      match stage_sealed verifier env current payloads with
      | .error e => (remove_staging env staged, .raised e)
      | .ok _ =>
        match rename_noreplace env payloads staged with
        | (site, .error e) => (remove_staging env site, .raised e)
        | (site, .ok _) =>
          match env.attempt .sync_project .os_error with
          | .error e => (site, .raised e)
          | .ok _ =>
            match final_verify env verifier payloads with
            | .error e => (site, .raised e)
            | .ok _ => (site, .returned .published true none)

end

/-! ## How far a restore comes -/

/-- Nothing fails before the staging directory is made, and nothing is at the destination. -/
structure Reaches (env : Env) (site : Site) : Prop where
  read_bundle : env.fails .read_bundle = false
  make_project : env.fails .make_project = false
  is_there : site.destination.is_there = false
  make_staging : env.fails .make_staging = false

/-- Nothing fails from there on until the rename, and nothing is in its way. -/
structure Fills (env : Env) (site : Site) (payloads : Files) : Prop where
  write : ∀ f ∈ payloads, env.fails (.write f.1) = false
  read_back : ∀ f ∈ payloads, env.fails (.read_back f.1) = false
  verify_staging : env.fails .verify_staging = false
  sync_tree : env.fails .sync_tree = false
  rename : env.fails .rename = false
  absent : site.destination = .absent

section

variable {P : Primitives} {verifier : Verifier} {env : Env} {site : Site} {payloads : Files}

@[simp] theorem attempt_ok {s : Step} {e : RestoreFailure} {u : Unit} :
    env.attempt s e = .ok u ↔ env.fails s = false := by
  rw [Env.attempt]
  split_ifs with h <;> simp [h]

@[simp] theorem refuse_ok {α : Type} {x : Except SealFailure α} {a : α} :
    refuse x = .ok a ↔ x = .ok a := by
  cases x <;> simp [refuse]

theorem write_staged_ok {u : Unit} : write_staged env payloads = .ok u ↔
    (∀ f ∈ payloads, env.fails (.write f.1) = false) ∧
      ∀ f ∈ payloads, env.fails (.read_back f.1) = false := by
  induction payloads with
  | nil => simp [write_staged]
  | cons f fs ih =>
    simp only [write_staged, bind_ok, attempt_ok, exists_const, ih, List.forall_mem_cons]
    tauto

theorem read_again_ok {u : Unit} : read_again env payloads = .ok u ↔
    ∀ f ∈ payloads, env.fails (.read_again f.1) = false := by
  induction payloads with
  | nil => simp [read_again]
  | cons f fs ih =>
    simp only [read_again, bind_ok, attempt_ok, exists_const, ih, List.forall_mem_cons]

/-- The body of the plain restore arrives at the rename. -/
theorem stage_export_ok {u : Unit} : stage_export verifier env payloads = .ok u ↔
    ((∀ f ∈ payloads, env.fails (.write f.1) = false) ∧
      ∀ f ∈ payloads, env.fails (.read_back f.1) = false) ∧
    env.fails .verify_staging = false ∧ (∃ v, verifier payloads = .ok v) ∧
    env.fails .sync_tree = false ∧ ∀ f ∈ payloads, env.fails (.read_again f.1) = false := by
  simp only [stage_export, bind_ok, attempt_ok, refuse_ok, exists_const, write_staged_ok,
    read_again_ok]
  tauto

/-- The body of the sealed restore arrives at the rename. -/
theorem stage_sealed_ok {current : Json} {u : Unit} :
    stage_sealed verifier env current payloads = .ok u ↔
    ((∀ f ∈ payloads, env.fails (.write f.1) = false) ∧
      ∀ f ∈ payloads, env.fails (.read_back f.1) = false) ∧
    env.fails .verify_staging = false ∧
    (∃ v, verifier payloads = .ok v ∧ current = .str v.revision) ∧
    env.fails .sync_tree = false := by
  simp only [stage_sealed, bind_ok, attempt_ok, refuse_ok, demand_ok, exists_const, write_staged_ok,
    decide_eq_true_eq]
  tauto

theorem open_export_ok {t : Tree} {r : Json × Files} : open_export P verifier env t = .ok r ↔
    validated P verifier t MAX_FILES MAX_BUNDLE_BYTES = .ok r ∧ env.fails .read_bundle = false ∧
      env.fails .materialize = false ∧ env.fails .make_project = false := by
  simp only [open_export, bind_ok, attempt_ok, refuse_ok, exists_const, pure_ok]
  constructor
  · rintro ⟨hread, r', hr, hmat, hmake, rfl⟩
    exact ⟨hr, hread, hmat, hmake⟩
  · rintro ⟨hr, hread, hmat, hmake⟩
    exact ⟨hread, r, hr, hmat, hmake, rfl⟩

theorem open_bundle_ok {t : Tree} {key : Key} {r : Json × Files} :
    open_bundle P env t key = .ok r ↔ open_sealed P t key = .ok r ∧
      env.fails .read_bundle = false ∧ env.fails .make_project = false := by
  simp only [open_bundle, bind_ok, attempt_ok, refuse_ok, exists_const, pure_ok]
  constructor
  · rintro ⟨hread, r', hr, hmake, rfl⟩
    exact ⟨hr, hread, hmake⟩
  · rintro ⟨hr, hread, hmake⟩
    exact ⟨hread, r, hr, hmake, rfl⟩

/-- The rename moves the store into place, or changes nothing. -/
theorem rename_noreplace_cases (env : Env) (payloads : Files) (site : Site) :
    (env.fails .rename = false ∧ site.destination = .absent ∧
      rename_noreplace env payloads site =
        ({ site with destination := .directory (restored_tree payloads) },
          if env.rename_lost then .error restore_publish_failed else .ok ())) ∨
    (¬(env.fails .rename = false ∧ site.destination = .absent) ∧
      ∃ e, rename_noreplace env payloads site = (site, .error e)) := by
  rw [rename_noreplace]
  by_cases hfails : env.fails .rename = true
  · right
    simp [hfails]
  · rw [if_neg hfails]
    cases hplace : site.destination with
    | absent =>
      left
      simp [hfails]
    | _ =>
      right
      simp

theorem fills_ok : ((∀ f ∈ payloads, env.fails (.write f.1) = false) ∧
      ∀ f ∈ payloads, env.fails (.read_back f.1) = false) ∧
    env.fails .verify_staging = false ∧ env.fails .sync_tree = false ∧
    env.fails .rename = false ∧ site.destination = .absent ↔ Fills env site payloads :=
  ⟨fun ⟨⟨hw, hr⟩, hv, hs, hn, ha⟩ => ⟨hw, hr, hv, hs, hn, ha⟩,
    fun ⟨hw, hr, hv, hs, hn, ha⟩ => ⟨⟨hw, hr⟩, hv, hs, hn, ha⟩⟩

/-! ### The sealed bundle -/

section Sealed

variable {t : Tree} {key : Key} {current : Json}

/-- A restore that does not come as far as to make a staging directory changes nothing. -/
theorem restore_sealed_idle (h : ¬(Reaches env site ∧ ∃ r, open_sealed P t key = .ok r)) :
    ∃ e, restore_sealed_bundle P verifier t key env site = (site, .raised e) := by
  rw [restore_sealed_bundle]
  cases hopen : open_bundle P env t key with
  | error e => exact ⟨e, rfl⟩
  | ok r =>
    obtain ⟨hr, hread, hmake⟩ := open_bundle_ok.1 hopen
    by_cases hthere : site.destination.is_there = true
    · exact ⟨_, if_pos hthere⟩
    by_cases hstaging : env.fails .make_staging = true
    · exact ⟨.os_error, by simp only [if_neg hthere, if_pos hstaging]⟩
    · exact absurd ⟨⟨hread, hmake, by simpa using hthere, by simpa using hstaging⟩, r, hr⟩ h

/-- A restore that fails between the staging directory and the rename raises, and removes what
    it has staged. -/
theorem restore_sealed_undone (hreach : Reaches env site)
    (hopen : open_sealed P t key = .ok (current, payloads))
    (h : ¬((∃ v, verifier payloads = .ok v ∧ current = .str v.revision) ∧ Fills env site payloads)) :
    ∃ e, restore_sealed_bundle P verifier t key env site =
      (remove_staging env { site with staging := site.staging + 1 }, .raised e) := by
  rw [restore_sealed_bundle, open_bundle_ok.2 ⟨hopen, hreach.read_bundle, hreach.make_project⟩]
  simp only [hreach.is_there, hreach.make_staging, Bool.false_eq_true, if_false]
  cases hstage : stage_sealed verifier env current payloads with
  | error e => exact ⟨e, rfl⟩
  | ok u =>
    obtain ⟨hwrite, hverify, hverifier, hsync⟩ := stage_sealed_ok.1 hstage
    rcases rename_noreplace_cases env payloads { site with staging := site.staging + 1 } with
      ⟨hfails, habsent, -⟩ | ⟨-, e, he⟩
    · exact absurd ⟨hverifier, fills_ok.1 ⟨hwrite, hverify, hsync, hfails, habsent⟩⟩ h
    · exact ⟨e, by simp only [he]⟩

/-- A restore that publishes leaves its staging directory behind, or raises. -/
theorem restore_sealed_published (hreach : Reaches env site)
    (hopen : open_sealed P t key = .ok (current, payloads))
    (hverifier : ∃ v, verifier payloads = .ok v ∧ current = .str v.revision)
    (hfills : Fills env site payloads) :
    ∃ r, restore_sealed_bundle P verifier t key env site = r ∧
      r.1.destination = .directory (restored_tree payloads) ∧
      (r.1.staging = site.staging + 1 ∨ r.2.says_published = false) := by
  refine ⟨_, rfl, ?_⟩
  obtain ⟨hwrite, hverify, hsync, hfails, habsent⟩ := fills_ok.2 hfills
  have hstage := (stage_sealed_ok (u := ())).2 ⟨hwrite, hverify, hverifier, hsync⟩
  rw [restore_sealed_bundle, open_bundle_ok.2 ⟨hopen, hreach.read_bundle, hreach.make_project⟩]
  simp only [hreach.is_there, hreach.make_staging, Bool.false_eq_true, if_false, hstage]
  rcases rename_noreplace_cases env payloads { site with staging := site.staging + 1 } with
    ⟨-, -, hrename⟩ | ⟨hnot, -⟩
  · rw [hrename]
    by_cases hlost : env.rename_lost = true
    · simp only [if_pos hlost, remove_staging]
      split_ifs <;> exact ⟨rfl, .inr rfl⟩
    · simp only [if_neg hlost]
      -- from here on the staging directory is no longer removed
      cases env.attempt .sync_project .os_error with
      | error e => exact ⟨rfl, .inl rfl⟩
      | ok u =>
        cases final_verify env verifier payloads with
        | error e => exact ⟨rfl, .inl rfl⟩
        | ok u => exact ⟨rfl, .inl rfl⟩
  · exact absurd ⟨hfails, habsent⟩ hnot

end Sealed

/-! ### The plain bundle -/

section Plain

variable {t : Tree} {manifest : Json}

/-- A restore that does not come as far as to make a staging directory changes nothing, and
    says so. -/
theorem restore_export_idle (h : ¬(Reaches env site ∧ env.fails .materialize = false ∧
      ∃ r, validated P verifier t MAX_FILES MAX_BUNDLE_BYTES = .ok r)) :
    ∃ report, restore_export P verifier t env site = (site, report) ∧
      report.says_published = false := by
  rw [restore_export]
  cases hopen : open_export P verifier env t with
  | error e => exact ⟨_, rfl, rfl⟩
  | ok r =>
    obtain ⟨hr, hread, hmaterialize, hmake⟩ := open_export_ok.1 hopen
    by_cases hthere : site.destination.is_there = true
    · exact ⟨_, if_pos hthere, rfl⟩
    by_cases hstaging : env.fails .make_staging = true
    · exact ⟨.returned .not_published false (some .os_error),
        by simp only [if_neg hthere, if_pos hstaging], rfl⟩
    · exact absurd ⟨⟨hread, hmake, by simpa using hthere, by simpa using hstaging⟩, hmaterialize,
        r, hr⟩ h

/-- The report of a restore that has moved nothing to a destination that is not there. -/
theorem report_export_unpublished {r : Tried} {e : RestoreFailure} (hfailure : r.failure = some e)
    (hpublished : r.published = false) (hthere : r.site.destination.is_there = false) :
    (report_export env payloads r).says_published = false := by
  simp only [report_export, hfailure, hpublished, hthere, Bool.and_false, Bool.false_and,
    Bool.or_false, Bool.not_false, Bool.or_true, if_true]
  rfl

/-- The report of a restore that has failed after it moved the store into place. -/
theorem report_export_published {r : Tried} (hthere : r.site.destination.is_there = true)
    (hconflict : r.published = false → r.failure ≠ some restore_destination_conflict) :
    (report_export env payloads r).says_published = true := by
  rw [report_export]
  cases hfailure : r.failure with
  | none => rfl
  | some e =>
    cases hpublished : r.published with
    | true =>
      simp only [Bool.true_or, Bool.not_true, Bool.false_eq_true, if_false]
      split_ifs <;> rfl
    | false =>
      have hne : e ≠ restore_destination_conflict := by
        rintro rfl
        exact hconflict hpublished hfailure
      simp only [hne, hthere, decide_false, Bool.not_false, Bool.not_true, Bool.true_and,
        Bool.false_or, Bool.or_self, Bool.false_eq_true, if_false]
      cases destination_matches env payloads r.site.destination with
      | false => rfl
      | true =>
        simp only [Bool.not_true, Bool.false_eq_true, if_false]
        split_ifs <;> rfl

/-- A restore that fails between the staging directory and the rename says so, and removes what
    it has staged. -/
theorem restore_export_undone (hreach : Reaches env site)
    (hopen : validated P verifier t MAX_FILES MAX_BUNDLE_BYTES = .ok (manifest, payloads))
    (hmaterialize : env.fails .materialize = false)
    (h : ¬((∃ v, verifier payloads = .ok v) ∧ Fills env site payloads ∧
      ∀ f ∈ payloads, env.fails (.read_again f.1) = false)) :
    ∃ report, restore_export P verifier t env site =
      (remove_staging env { site with staging := site.staging + 1 }, report) ∧
        report.says_published = false := by
  rw [restore_export,
    open_export_ok.2 ⟨hopen, hreach.read_bundle, hmaterialize, hreach.make_project⟩]
  simp only [hreach.is_there, hreach.make_staging, Bool.false_eq_true, if_false, try_export]
  cases hstage : stage_export verifier env payloads with
  | error e =>
    exact ⟨_, rfl, report_export_unpublished rfl rfl hreach.is_there⟩
  | ok u =>
    obtain ⟨hwrite, hverify, hverifier, hsync, hread⟩ := stage_export_ok.1 hstage
    rcases rename_noreplace_cases env payloads { site with staging := site.staging + 1 } with
      ⟨hfails, habsent, -⟩ | ⟨-, e, he⟩
    · exact absurd ⟨hverifier, fills_ok.1 ⟨hwrite, hverify, hsync, hfails, habsent⟩, hread⟩ h
    · simp only [he]
      exact ⟨_, rfl, report_export_unpublished rfl rfl hreach.is_there⟩

/-- A restore that publishes says so, and removes what is left of its staging directory. -/
theorem restore_export_published (hreach : Reaches env site)
    (hopen : validated P verifier t MAX_FILES MAX_BUNDLE_BYTES = .ok (manifest, payloads))
    (hmaterialize : env.fails .materialize = false) (hverifier : ∃ v, verifier payloads = .ok v)
    (hfills : Fills env site payloads)
    (hread : ∀ f ∈ payloads, env.fails (.read_again f.1) = false) :
    ∃ report, restore_export P verifier t env site = (remove_staging env
        { destination := .directory (restored_tree payloads), staging := site.staging + 1 }, report) ∧
      report.says_published = true := by
  obtain ⟨hwrite, hverify, hsync, hfails, habsent⟩ := fills_ok.2 hfills
  have hstage := (stage_export_ok (u := ())).2 ⟨hwrite, hverify, hverifier, hsync, hread⟩
  rw [restore_export,
    open_export_ok.2 ⟨hopen, hreach.read_bundle, hmaterialize, hreach.make_project⟩]
  simp only [hreach.is_there, hreach.make_staging, Bool.false_eq_true, if_false, try_export, hstage]
  rcases rename_noreplace_cases env payloads { site with staging := site.staging + 1 } with
    ⟨-, -, hrename⟩ | ⟨hnot, -⟩
  · rw [hrename]
    by_cases hlost : env.rename_lost = true
    · simp only [if_pos hlost]
      refine ⟨_, rfl, report_export_published rfl fun _ he => ?_⟩
      exact absurd (Option.some.inj he) (by decide)
    · simp only [if_neg hlost]
      cases env.attempt .sync_project .os_error with
      | error e => exact ⟨_, rfl, report_export_published rfl fun h => absurd h (by simp)⟩
      | ok u =>
        cases final_verify env verifier payloads with
        | error e => exact ⟨_, rfl, report_export_published rfl fun h => absurd h (by simp)⟩
        | ok u => exact ⟨_, rfl, report_export_published rfl fun h => absurd h (by simp)⟩
  · exact absurd ⟨hfails, habsent⟩ hnot

end Plain

end

end AnKla.Export
