import AnKla.Snapshot.Reads
import AnKla.Compaction.Plan

/-!
# What readers make of a revision

Three readers say of a revision whether it can be read: a snapshot, `verify_revision` and
`inventory`. Each of them looks at the files and at the catalog of CURRENT in its own order.

* `verify_revision`, `inventory`: the readers; `Availability`: what they say.
* `Unarchiving`: a computation that never says that a revision is archived.
* `read_parts`: what a snapshot reads after the chain.
* `snapshot_availability`: what a snapshot says of a revision on disk.
-/

namespace AnKla

open PyJson Durable

variable (H : Crypto)

/-! ## Verification of a revision -/

/-- `availability` of `verify-revision-v1`. -/
inductive RevisionAvailability
  | present
  | archived_by_compaction
  | unknown
  deriving DecidableEq, Repr

/-- `verify-revision-v1`. -/
structure RevisionReport where
  revision : Digest
  availability : RevisionAvailability
  epoch_id : Option Uuid
  export_manifest_sha256 : Option Digest
  tombstone_catalog : Option Digest
  deriving DecidableEq, Repr

/-- The end of `verify_revision`: the revision is no entry of the catalog. -/
def verify_on_disk (d : Disk) (revision : Digest) (link : Option EpochLink) :
    Except Failure RevisionReport := do
  let report (availability : RevisionAvailability) : RevisionReport :=
    ⟨revision, availability, link.map (·.epoch_id), link.map (·.export_manifest_sha256),
      link.map (·.tombstone_catalog)⟩
  if (d.read (.revision revision)).isNone then return report .unknown
  else do
    let _ ← audit H d revision
    return report .present

/-- `verify_revision(store, revision)`. -/
def verify_revision (d : Disk) (revision : Digest) : Except Failure RevisionReport := do
  let current ← read_current d
  let m ← read_manifest H d current
  match m.schema, m.compaction_epoch with
  | .v3, some link => do
    let catalog ← read_catalog H d link.tombstone_catalog >>= validate_catalog H
    let catalogs ← validate_catalog_chain H d link.tombstone_catalog
    match catalog.archived_revisions.find? (·.revision = revision) with
    | some a =>
      match catalogs.of_epoch a.epoch_id with
      | none => .error chain_invalid
      | some (id, _) => return ⟨revision, .archived_by_compaction, some a.epoch_id,
          some a.export_manifest_sha256, some id⟩
    | none => verify_on_disk H d revision (some link)
  | .v3, none => .error (.value "compaction_epoch")
  | _, _ => verify_on_disk H d revision none

/-! ## Inventory -/

/-- `raw.get("status", raw.get("nu"))`. -/
def status_or_nu (raw : Json) : Option Json := (raw.get? "status").or (raw.get? "nu")

/-- `is_canonical_vigency(record)`. -/
def is_canonical_vigency (record : Json) : Bool :=
  match status_or_nu record with
  | none | some .null => true
  | some (.str s) => s ≠ ""
  | _ => false

/-- `_physical_status(raw)`. -/
def physical_status (raw : Json) : String :=
  if !is_canonical_vigency raw then "no_canonica"
  else match status_or_nu raw with
    | some (.str s) => if s = "" then "vigente" else s
    | _ => "vigente"

/-- A row of `inventory-v1`. -/
structure InventoryRow where
  stream : Stream
  id : String
  record_sha256 : Digest
  physical_status : String
  status : String
  status_source : String
  deriving DecidableEq, Repr

/-- The status of a record with its overlay, and where it comes from. -/
def observable_status (raw observed : Json) : String × String :=
  match observed.get? "status" with
  | some (.str s) =>
    if observed.get? "status" ≠ raw.get? "status" ∧ s ≠ "" then
      (s, if s = "sustituida" then "supersede_overlay" else "refute_overlay")
    else (physical_status raw, "physical")
  | _ => (physical_status raw, "physical")

/-- The row of a record, if it has an id. -/
def inventory_row (stream : Stream) (raw observed : Json) : Option InventoryRow :=
  if record_id raw = "" then none
  else some ⟨stream, record_id raw, H.digest_json raw, physical_status raw,
    (observable_status raw observed).1, (observable_status raw observed).2⟩

/-- All rows of the selected streams. -/
def inventory_rows (s : Snapshot) (selected : List Stream) : List InventoryRow :=
  selected.eraseDups.flatMap fun stream =>
    ((s.raw_records.get stream).zip (s.records.get stream)).filterMap fun x =>
      inventory_row H stream x.1 x.2

/-- The catalog is asked first, and always. -/
def check_archived (d : Disk) (m : Manifest) (revision : Digest) : Except Failure Unit :=
  if m.schema = .v3 then
    match archived_revision_link H d revision with
    | .error _ => .error (.integrity "compaction_catalog_invalid")
    | .ok (some _) => .error (.integrity "revision_archived_by_compaction")
    | .ok none => .ok ()
  else .ok ()

/-- `inventory(store, revision, streams)`, all pages in one. -/
def inventory (d : Disk) (revision : Digest) (selected : List Stream) :
    Except Failure (Digest × List InventoryRow) := do
  ensure (selected ≠ []) (.value "unsupported_inventory_stream")
  let current ← read_current d
  let m ← read_manifest H d current
  check_archived H d m revision
  let s ← snapshot H d revision
  return (s.revision_id, inventory_rows H s selected)

/-! ## What a reader says -/

/-- What a reader says of a revision. -/
inductive Availability
  | readable
  | archived
  | unknown
  deriving DecidableEq, Repr

/-- The refusal of an archived revision. -/
def revision_archived : Failure := .integrity "revision_archived_by_compaction"

/-- What a failure says. -/
def Failure.availability (e : Failure) : Availability :=
  if e = revision_archived then .archived else .unknown

/-- What a read says: it succeeds, or fails with the refusal of an archived revision, or
    fails otherwise. -/
def availability {α : Type*} : Except Failure α → Availability
  | .ok _ => .readable
  | .error e => e.availability

def RevisionAvailability.availability : RevisionAvailability → Availability
  | .present => .readable
  | .archived_by_compaction => .archived
  | .unknown => .unknown

/-- What `verify_revision` says, in its report or by its failure. -/
def verify_availability (d : Disk) (revision : Digest) : Availability :=
  match verify_revision H d revision with
  | .ok report => report.availability.availability
  | .error e => e.availability

/-! ## Failures that say nothing of an archive -/

/-- The computation does not say that a revision is archived. -/
def Unarchiving {α : Type*} (x : Except Failure α) : Prop := ∀ e, x = .error e → e ≠ revision_archived

section Unarchiving

variable {α β : Type*}

theorem unarchiving_ok (a : α) : Unarchiving (.ok a : Except Failure α) := by
  intro e h
  cases h

theorem unarchiving_error {e : Failure} (h : e ≠ revision_archived) :
    Unarchiving (.error e : Except Failure α) := by
  intro e' he
  cases he
  exact h

theorem Unarchiving.bind {α β : Type} {x : Except Failure α} {f : α → Except Failure β}
    (hx : Unarchiving x) (hf : ∀ a, Unarchiving (f a)) : Unarchiving (x >>= f) := by
  intro e h
  cases x with
  | error e' =>
    cases h
    exact hx _ rfl
  | ok a => exact hf a e h

theorem unarchiving_ensure {test : Bool} {e : Failure} (h : e ≠ revision_archived) :
    Unarchiving (ensure test e) := by
  rw [ensure]
  split
  · exact unarchiving_ok _
  · exact unarchiving_error h

theorem unarchiving_mapError {x : Except Failure α} {e : Failure} (h : e ≠ revision_archived) :
    Unarchiving (x.mapError fun _ => e) := by
  cases x with
  | error e' => exact unarchiving_error h
  | ok a => exact unarchiving_ok a

theorem unarchiving_forM {α : Type} {f : α → Except Failure Unit} (xs : List α)
    (h : ∀ x ∈ xs, Unarchiving (f x)) : Unarchiving (xs.forM f) := by
  induction xs with
  | nil => exact unarchiving_ok _
  | cons x xs ih =>
    show Unarchiving (f x >>= fun _ => xs.forM f)
    exact (h x List.mem_cons_self).bind fun _ => ih fun y hy => h y (List.mem_cons_of_mem _ hy)

theorem availability_of_unarchiving {x : Except Failure α} (h : Unarchiving x)
    (he : ∀ a, x ≠ .ok a) : availability x = .unknown := by
  cases x with
  | ok a => exact absurd rfl (he a)
  | error e => exact if_neg (h e rfl)

end Unarchiving

variable {H}

/-! ### Objects -/

theorem unarchiving_read {α : Type*} {d : Disk} {kind : String} {path : Path} {id : Digest}
    {get : Document → Option α} : Unarchiving (read_json_object H d kind path id get) := by
  -- a code with its kind begins with an o
  have code (s : String) (hs : s.toList.head? = some 'o') :
      Failure.integrity s ≠ revision_archived := by
    intro h
    obtain rfl := Failure.integrity.inj h
    exact absurd hs (by decide)
  rw [read_json_object]
  split
  · exact unarchiving_error (code _ (by simp))
  · split_ifs
    · exact unarchiving_error (code _ (by simp))
    · split
      · exact unarchiving_error (code _ (by simp))
      · exact unarchiving_ok _

theorem unarchiving_current (d : Disk) : Unarchiving (read_current d) := by
  rw [read_current]
  split
  · exact unarchiving_error (by decide)
  · exact unarchiving_ok _
  · exact unarchiving_error (by decide)

theorem unarchiving_manifest (m : Manifest) : Unarchiving (validate_manifest .integrity m) := by
  rw [validate_manifest]
  repeat' refine Unarchiving.bind (unarchiving_ensure (by decide)) fun _ => ?_
  exact unarchiving_ensure (by decide)

theorem unarchiving_link (d : Disk) (m : Manifest) : Unarchiving (verify_manifest_link H d m) := by
  rw [verify_manifest_link]
  split
  · exact unarchiving_ok _
  · split
    · exact unarchiving_ok _
    · exact unarchiving_error (by decide)

/-! ### Catalogs -/

theorem unarchiving_catalog (c : Catalog) : Unarchiving (validate_catalog H c) := by
  rw [validate_catalog]
  repeat' refine Unarchiving.bind (unarchiving_ensure (by decide)) fun _ => ?_
  exact unarchiving_ok _

theorem skip_visited_error {seen : CatalogWalk} {queue : List CatalogVisit} {e : Failure}
    (h : skip_visited seen queue = .error e) : e = chain_invalid := by
  induction queue with
  | nil => cases h
  | cons v queue ih =>
    rw [skip_visited] at h
    split_ifs at h
    · exact (Except.error.inj h).symm
    · split at h
      · split_ifs at h
        · exact ih h
        · exact (Except.error.inj h).symm
      · cases h

theorem visit_catalog_error {d : Disk} {v : CatalogVisit} {seen : CatalogWalk} {e : Failure}
    (h : visit_catalog H d v seen = .error e) : e = chain_invalid := by
  rw [visit_catalog] at h
  split at h
  · exact (Except.error.inj h).symm
  · split_ifs at h
    exact (Except.error.inj h).symm

theorem unarchiving_walk {d : Disk} {n : ℕ} {queue : List CatalogVisit} {seen : CatalogWalk} :
    Unarchiving (walk_catalogs H d n queue seen) := by
  induction n generalizing queue seen with
  | zero =>
    cases queue with
    | nil => exact unarchiving_ok _
    | cons v queue => exact unarchiving_error (by decide)
  | succ n ih =>
    cases queue with
    | nil => exact unarchiving_ok _
    | cons v queue =>
      rw [walk_catalogs]
      split
      · next e he => exact unarchiving_error (skip_visited_error he ▸ by decide)
      · exact unarchiving_ok _
      · split
        · next e he => exact unarchiving_error (visit_catalog_error he ▸ by decide)
        · exact ih

theorem unarchiving_archived (d : Disk) (revision : Digest) :
    Unarchiving (archived_revision_link H d revision) := by
  rw [archived_revision_link]
  refine (unarchiving_current d).bind fun current => unarchiving_read.bind fun m => ?_
  split
  · refine (unarchiving_read.bind unarchiving_catalog).bind fun catalog => unarchiving_walk.bind
      fun catalogs => ?_
    split
    · exact unarchiving_ok _
    · split
      · exact unarchiving_error (by decide)
      · exact unarchiving_ok _
  · exact unarchiving_error (by decide)
  · exact unarchiving_ok _

/-! ### Chains -/

theorem unarchiving_compaction_root (d : Disk) (id : Digest) (m : Manifest) :
    Unarchiving (validate_compaction_root H .integrity d id m) := by
  rw [validate_compaction_root]
  split
  · refine unarchiving_read.bind fun catalog => (unarchiving_mapError (by decide)).bind fun _ =>
      unarchiving_read.bind fun epoch => unarchiving_read.bind fun proof =>
      (unarchiving_mapError (by decide)).bind fun _ => ?_
    split
    · exact unarchiving_error (by decide)
    · exact (unarchiving_mapError (by decide)).bind fun _ => unarchiving_ensure (by decide)
  · exact unarchiving_error (by decide)

theorem unarchiving_stage_of (d : Disk) (id : Digest) (m : Manifest) (added : List RefutationEntry) :
    Unarchiving (validate_stage_of H .integrity d id m added) := by
  rw [validate_stage_of]
  split
  · exact unarchiving_error (by decide)
  · split
    · exact unarchiving_error (by decide)
    · exact (unarchiving_ensure (by decide)).bind fun _ =>
        (unarchiving_mapError (by decide)).bind fun _ => unarchiving_ok _

theorem unarchiving_transition (d : Disk) (id : Digest) (m : Manifest) (parent_id : Digest)
    (p : Manifest) : Unarchiving (validate_transition H .integrity d id m parent_id p) := by
  rw [validate_transition]
  refine (unarchiving_ensure (by decide)).bind fun _ => (unarchiving_ensure (by decide)).bind
    fun _ => (unarchiving_ensure (by decide)).bind fun _ => (unarchiving_ensure (by decide)).bind
    fun _ => ?_
  split
  · exact unarchiving_error (by decide)
  · refine (unarchiving_forM _ fun entry _ => ?_).bind fun _ => ?_
    · rw [refutation_bound]
      exact (unarchiving_read.bind fun _ => unarchiving_ok _).bind fun _ =>
        unarchiving_ensure (by decide)
    · split
      · exact unarchiving_ok _
      · exact unarchiving_stage_of d id m _

/-- A chain is refused for what is wrong with it, whatever the catalogs say. -/
theorem unarchiving_chain {stop : Option Watermark} {d : Disk} {id : Digest} {m : Manifest} :
    Unarchiving (validate_revision_chain H .integrity stop d id m) := by
  rw [validate_revision_chain]
  generalize m.revision + 2 = n
  generalize ([] : List Digest) = seen
  induction n generalizing id m seen with
  | zero => exact unarchiving_error (by decide)
  | succ n ih =>
    rw [chain_loop]
    split_ifs
    · exact unarchiving_error (by decide)
    · exact unarchiving_ok _
    · split
      · rw [validate_root]
        split
        · exact unarchiving_compaction_root d id m
        · exact unarchiving_ensure (by decide)
      · exact unarchiving_read.bind fun p => (unarchiving_manifest p).bind fun _ =>
          (unarchiving_link d p).bind fun _ => (unarchiving_transition d id m _ p).bind fun _ => ih _

/-! ## Snapshots -/

variable (H) in
/-- What a snapshot reads of a revision after its chain. -/
def read_parts (d : Disk) (revision : Digest) (m : Manifest) : Except Failure Snapshot := do
  verify_manifest_link H d m
  let checkpoint ← read_checkpoint H d m.checkpoint
  validate_checkpoint_v2 checkpoint m.revision
  let raw ← read_records H d m
  validate_lifecycle H (snapshot H d) d m raw
  return ⟨revision, m, checkpoint, .ofFn fun s => (raw.get s).map (overlay H m s), raw⟩

variable (H) in
/-- A manifest and a chain that a snapshot accepts. -/
def Accepted (d : Disk) (use_watermark : Bool) (revision : Digest) (m : Manifest) : Prop :=
  m.Valid ∧ validate_revision_chain H .integrity (if use_watermark then usable_watermark d else none)
    d revision m = .ok ()

variable {d : Disk} {use_watermark : Bool} {revision : Digest} {m : Manifest}

/-- A walk to the root may as well end early. -/
theorem loop_stop_of_loop {error : String → Failure} {stop : Option Watermark} {n : ℕ} {id : Digest}
    {seen : List Digest} (h : chain_loop H error none d n id m seen = .ok ()) :
    chain_loop H error stop d n id m seen = .ok () := by
  induction n generalizing id m seen with
  | zero => cases h
  | succ n ih =>
    rw [chain_loop] at h ⊢
    by_cases hseen : id ∈ seen
    · rw [if_pos hseen] at h
      cases h
    rw [if_neg hseen] at h ⊢
    by_cases hstop : binding_matches stop id m = true
    · exact if_pos hstop
    rw [if_neg hstop]
    simp only [binding_matches, Bool.false_eq_true, if_false] at h
    cases hp : m.parent with
    | none =>
      rw [hp] at h
      exact h
    | some parent_id =>
      rw [hp] at h
      obtain ⟨p, hread, h⟩ := bind_ok.1 h
      obtain ⟨_, hv, h⟩ := bind_ok.1 h
      obtain ⟨_, hl, h⟩ := bind_ok.1 h
      obtain ⟨_, ht, h⟩ := bind_ok.1 h
      exact bind_ok.2 ⟨p, hread, bind_ok.2 ⟨_, hv, bind_ok.2 ⟨_, hl, bind_ok.2 ⟨_, ht, ih h⟩⟩⟩⟩

theorem accepted_iff_chain (hm : read_manifest H d revision = .ok m) :
    Accepted H d false revision m ↔ m.Valid ∧ Chain H d revision m :=
  and_congr_right fun _ => validate_revision_chain_iff (digest_of_read_manifest hm)

theorem accepted_of_chain (hm : read_manifest H d revision = .ok m) (hv : m.Valid)
    (hc : Chain H d revision m) : Accepted H d use_watermark revision m :=
  ⟨hv, loop_stop_of_loop ((validate_revision_chain_iff (digest_of_read_manifest hm)).2 hc)⟩

/-- A snapshot of a revision on disk: its manifest, its chain, its parts. -/
theorem snapshot_on_disk (hm : read_manifest H d revision = .ok m) :
    snapshot_loop H d (snapshot_depth d) use_watermark revision =
      validate_manifest .integrity m >>= fun _ => validate_revision_chain H .integrity
        (if use_watermark then usable_watermark d else none) d revision m >>= fun _ =>
          read_parts H d revision m := by
  rw [snapshot_loop_eq, snapshot_step, read_manifest_or_archived, hm]
  rfl

/-- A snapshot that accepts the chain says what the parts say. -/
theorem availability_of_accepted (hm : read_manifest H d revision = .ok m)
    (ha : Accepted H d use_watermark revision m) :
    availability (snapshot_loop H d (snapshot_depth d) use_watermark revision) =
      availability (read_parts H d revision m) := by
  rw [snapshot_on_disk hm, (validate_manifest_ok (u := ())).2 ha.1, ha.2]
  rfl

/-- A snapshot that refuses the chain says nothing of an archive. -/
theorem availability_of_refused (hm : read_manifest H d revision = .ok m)
    (ha : ¬Accepted H d use_watermark revision m) :
    availability (snapshot_loop H d (snapshot_depth d) use_watermark revision) =
      .unknown := by
  rw [snapshot_on_disk hm]
  cases hv : validate_manifest .integrity m with
  | error e => exact if_neg (unarchiving_manifest m e hv)
  | ok u =>
    cases hc : validate_revision_chain H .integrity
      (if use_watermark then usable_watermark d else none) d revision m with
    | error e => exact if_neg (unarchiving_chain e hc)
    | ok u' => exact absurd ⟨validate_manifest_ok.1 hv, hc⟩ ha

/-- A revision whose manifest is gone is what the catalogs say. -/
theorem availability_of_gone {e : Failure} (hm : read_manifest H d revision = .error e) :
    availability (snapshot_loop H d (snapshot_depth d) use_watermark revision) =
      match archived_revision_link H d revision with
      | .ok (some _) => .archived
      | _ => .unknown := by
  rw [snapshot_loop_eq, snapshot_step, read_manifest_or_archived, hm]
  have hne : e ≠ revision_archived := unarchiving_read e hm
  cases archived_revision_link H d revision with
  | error e' => rfl
  | ok link =>
    cases link with
    | none => exact if_neg hne
    | some x => rfl

/-! ## The readers, by the catalogs -/

variable (d revision) in
/-- `verify_revision` asks the catalogs what `archived_revision_link` asks them. -/
theorem verify_revision_eq : ∃ link, verify_revision H d revision =
    archived_revision_link H d revision >>= fun found =>
      match found with
      | some (a, id) => .ok ⟨revision, .archived_by_compaction, some a.epoch_id,
          some a.export_manifest_sha256, some id⟩
      | none => verify_on_disk H d revision link := by
  rw [verify_revision, archived_revision_link]
  cases read_current d with
  | error e => exact ⟨none, rfl⟩
  | ok current =>
    simp only [bind, Except.bind]
    cases read_manifest H d current with
    | error e => exact ⟨none, rfl⟩
    | ok m =>
      simp only
      generalize m.schema = schema
      generalize m.compaction_epoch = epoch
      rcases schema with _ | _ | _
      · exact ⟨none, rfl⟩
      · exact ⟨none, rfl⟩
      rcases epoch with _ | link
      · exact ⟨none, rfl⟩
      refine ⟨some link, ?_⟩
      simp only
      cases read_catalog H d link.tombstone_catalog with
      | error e => rfl
      | ok catalog =>
        cases hv : validate_catalog H catalog with
        | error e => simp only [hv]
        | ok c =>
          simp only [hv]
          cases validate_catalog_chain H d link.tombstone_catalog with
          | error e => rfl
          | ok catalogs =>
            simp only
            cases c.archived_revisions.find? fun a => decide (a.revision = revision) with
            | none => rfl
            | some a =>
              simp only
              cases catalogs.of_epoch a.epoch_id <;> rfl

/-- What `verify_revision` says. -/
theorem verify_availability_eq : verify_availability H d revision =
    match archived_revision_link H d revision with
    | .error _ => .unknown
    | .ok (some _) => .archived
    | .ok none =>
      if (d.read (.revision revision)).isNone then .unknown else availability (audit H d revision) := by
  obtain ⟨link, h⟩ := verify_revision_eq (H := H) d revision
  rw [verify_availability, h]
  cases hl : archived_revision_link H d revision with
  | error e => exact if_neg (unarchiving_archived d revision e hl)
  | ok found =>
    cases found with
    | some x => rfl
    | none =>
      show (match verify_on_disk H d revision link with
        | .ok report => report.availability.availability
        | .error e => e.availability) = _
      rw [verify_on_disk]
      dsimp only
      split_ifs
      · rfl
      · cases audit H d revision <;> rfl

/-- What `inventory` says. -/
theorem availability_inventory {selected : List Stream} (hs : selected ≠ []) :
    availability (inventory H d revision selected) =
      match archived_revision_link H d revision with
      | .error _ => .unknown
      | .ok (some _) => .archived
      | .ok none => availability (snapshot H d revision) := by
  have hrows : availability (snapshot H d revision >>= fun s =>
      (pure (s.revision_id, inventory_rows H s selected) : Except Failure _)) =
      availability (snapshot H d revision) := by
    cases snapshot H d revision <;> rfl
  rw [inventory, ensure, if_pos (decide_eq_true hs)]
  cases hcur : read_current d with
  | error e =>
    rw [archived_revision_link, hcur]
    exact if_neg (unarchiving_current d e hcur)
  | ok current =>
    cases hm : read_manifest H d current with
    | error e =>
      simp only [archived_revision_link, hcur, bind, Except.bind, hm]
      exact if_neg (unarchiving_read e hm)
    | ok m =>
      simp only [bind, Except.bind, hm, check_archived]
      split_ifs with hv
      · cases hl : archived_revision_link H d revision with
        | error e => rfl
        | ok found => cases found with
          | some x => rfl
          | none => exact hrows
      · have hl : archived_revision_link H d revision = .ok none := by
          simp only [archived_revision_link, hcur, bind, Except.bind, hm]
          split
          · next h _ => exact absurd h hv
          · next h _ => exact absurd h hv
          · rfl
        rw [hl]
        exact hrows

end AnKla
