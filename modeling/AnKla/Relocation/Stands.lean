import AnKla.Relocation.Forward
import AnKla.Sealed.Opens

/-!
# What a relocation keeps

Wherever a call of a relocation is stopped, the site is in one of three positions.

* `Position`, `Both`: what is known of the pointer, of the planned files and of the journal.
* `Before`: no pointer, and the project holds the planned files.
* `Torn`: half a pointer, and both roots hold them.
* `Moved`: the pointer of the plan, and the destination holds them.
* `Stands`: one of the three. `spec_move` and the lemmas before it: what each part of a
  relocation makes of a position.
-/

namespace AnKla.Relocation

open PyJson Durable Sealed Base64

/-! ## What a change leaves alone -/

namespace Site

variable {s : Site} {dir other path : String}

theorem vault_set_dir (v : Vault) : (s.set_dir dir (some v)).vault dir = v := by
  rw [vault, dirs_set_dir, Option.getD_some]

theorem vault_set_dir_ne (v : Option Vault) (h : other ≠ dir) :
    (s.set_dir dir v).vault other = s.vault other := by
  rw [vault, dirs_set_dir_ne _ v h, vault]

@[simp] theorem vault_set_journal (j : Journal) : (s.set_journal j).vault dir = s.vault dir := rfl

/-- A file is placed by a change of its root, if at all. -/
theorem placed_cases (s : Site) (dir path : String) (payload : Bytes) :
    ((s.vault dir).read path).isSome = true ∧ s.placed dir path payload = s ∨
      (s.vault dir).read path = none ∧
        s.placed dir path payload = s.set_dir dir (some ((s.vault dir).write path payload)) := by
  rw [placed]
  split_ifs with h
  · exact .inl ⟨h, rfl⟩
  · exact .inr ⟨Option.not_isSome_iff_eq_none.1 h, rfl⟩

end Site

/-- What a change of one root leaves alone. -/
structure Within (dir : String) (s s' : Site) : Prop where
  pointer : s'.pointer = s.pointer
  journals : s'.journals = s.journals
  vault : ∀ other, other ≠ dir → s'.vault other = s.vault other

namespace Within

variable {dir path : String} {payload : Bytes}

theorem refl (dir : String) (s : Site) : Within dir s s := ⟨rfl, rfl, fun _ _ => rfl⟩

theorem set_dir (dir : String) (s : Site) (v : Option Vault) : Within dir s (s.set_dir dir v) :=
  ⟨rfl, rfl, fun _ h => Site.vault_set_dir_ne v h⟩

theorem placed (dir path : String) (payload : Bytes) (s : Site) :
    Within dir s (s.placed dir path payload) := by
  obtain ⟨-, h⟩ | ⟨-, h⟩ := s.placed_cases dir path payload
  · rw [h]
    exact refl dir s
  · rw [h]
    exact set_dir dir s _

theorem part_placed (dir path : String) (payload : Bytes) (k : ℕ) (s : Site) :
    Within dir s (part_placed dir path payload k s) := by
  rw [Relocation.part_placed]
  split_ifs
  · exact refl dir s
  · exact placed dir path _ s

end Within

variable {P : Primitives} {H : Host} {project : String}

/-- A file that matches its entry is left alone. -/
theorem matches_placed {s : Site} {dir path : String} {payload : Bytes} {e : Entry}
    (h : matches_entry P (s.vault dir) e = true) :
    matches_entry P ((s.placed dir path payload).vault dir) e = true := by
  obtain ⟨-, hs⟩ | ⟨hnone, hs⟩ := s.placed_cases dir path payload
  · rwa [hs]
  · rw [hs, Site.vault_set_dir, matches_entry, Disk.read_write_ne payload, ← matches_entry]
    · exact h
    · rintro heq
      rw [matches_entry, heq, hnone] at h
      cases h

/-- A new file matches the entry that its bytes were checked with. -/
theorem placed_matches {s : Site} {dir : String} {payload : Bytes} {e : Entry}
    (hnone : (s.vault dir).read e.path = none) (hdigest : digest_bytes P payload = e.content_sha256) :
    matches_entry P ((s.placed dir e.path payload).vault dir) e = true := by
  obtain ⟨hsome, -⟩ | ⟨-, hs⟩ := s.placed_cases dir e.path payload
  · rw [hnone] at hsome
    cases hsome
  · rw [hs, Site.vault_set_dir, matches_entry, Disk.read_write, Option.any_some, decide_eq_true_eq]
    exact hdigest

/-! ## The positions -/

/-- A root holds the planned files. -/
def Holds (P : Primitives) (c : Core) (s : Site) (dir : String) : Prop :=
  ∀ e ∈ c.entries, matches_entry P (s.vault dir) e = true

theorem Holds.congr {c : Core} {s s' : Site} {dir : String} (h : Holds P c s dir)
    (hv : s'.vault dir = s.vault dir) : Holds P c s' dir := by
  intro e he
  rw [hv]
  exact h e he

/-- A journal of a plan, at one of some stages. -/
def Filed (plan : Plan) (stages : List Stage) (file : Option (Option Journal)) : Prop :=
  ∃ j, file = some (some j) ∧ j.plan = plan ∧ j.stage ∈ stages

theorem Filed.stage {plan : Plan} {stages : List Stage} {file : Option (Option Journal)}
    (h : Filed plan stages file) {j : Journal} (hj : file = some (some j)) :
    j.plan = plan ∧ j.stage ∈ stages := by
  obtain ⟨j', rfl, hplan, hstage⟩ := h
  cases hj
  exact ⟨hplan, hstage⟩

theorem Filed.set_journal {plan : Plan} {stages : List Stage} (s : Site) {j : Journal}
    (hplan : j.plan = plan) (hstage : j.stage ∈ stages) :
    Filed plan stages ((s.set_journal j).journals plan.core.transaction_id) := by
  subst hplan
  exact ⟨j, s.journals_set_journal j, rfl, hstage⟩

theorem Filed.mono {plan : Plan} {stages stages' : List Stage} {file : Option (Option Journal)}
    (h : Filed plan stages file) (hsub : stages ⊆ stages') : Filed plan stages' file :=
  h.imp fun _ hj => ⟨hj.1, hj.2.1, hsub hj.2.2⟩

/-- No journal of a plan, or one that does not know of the commit point. -/
def Unfinished (plan : Plan) (file : Option (Option Journal)) : Prop :=
  file = none ∨ Filed plan [.staging, .published, .aborted] file

theorem Unfinished.stage {plan : Plan} {file : Option (Option Journal)} (h : Unfinished plan file)
    {j : Journal} (hj : file = some (some j)) :
    j.plan = plan ∧ j.stage ∈ [Stage.staging, .published, .aborted] := by
  obtain rfl | h := h
  · cases hj
  · exact h.stage hj

/-- A position of a site: what its pointer is, which root holds the planned files, and what
    the journal of the plan says. -/
structure Position (P : Primitives) (plan : Plan) (pointer : PointerFile → Prop) (root : String)
    (journal : Option (Option Journal) → Prop) (s : Site) : Prop where
  pointer : pointer s.pointer
  files : Holds P plan.core s root
  journal : journal (s.journals plan.core.transaction_id)

/-- A position where both roots hold the planned files, and the copy is published. -/
structure Both (P : Primitives) (plan : Plan) (pointer : PointerFile → Prop) (s : Site) : Prop where
  pointer : pointer s.pointer
  source : Holds P plan.core s plan.core.source_store_root
  destination : Holds P plan.core s plan.core.destination_store_root
  journal : Filed plan [.published] (s.journals plan.core.transaction_id)

/-- The pointer of a plan. -/
def Core.pointer (c : Core) : Pointer := ⟨c.destination_store_root, c.custody_fingerprint⟩

/-- The project holds the planned files, and nothing points away from it. -/
abbrev Before (P : Primitives) (plan : Plan) : Site → Prop :=
  Position P plan (fun p => p = .absent) plan.core.source_store_root (Unfinished plan)

/-- The copy is published and not yet pointed to. -/
abbrev Ready (P : Primitives) (plan : Plan) : Site → Prop := Both P plan fun p => p = .absent

/-- The pointer was cut in the middle. -/
abbrev Torn (P : Primitives) (plan : Plan) : Site → Prop := Both P plan fun p => p = .invalid

/-- The destination holds the planned files, and the pointer names it. -/
abbrev Moved (P : Primitives) (plan : Plan) : Site → Prop :=
  Position P plan (fun p => p = .names plan.core.pointer) plan.core.destination_store_root
    (Filed plan [.published, .pointer_written, .cleaned])

/-- Where a site stands in the course of a relocation. -/
inductive Stands (P : Primitives) (plan : Plan) (s : Site) : Prop
  | before (h : Before P plan s)
  | torn (h : Torn P plan s)
  | moved (h : Moved P plan s)

/-- The result of a call tells on which side of the commit point a site stands. -/
inductive Tells (before after : Site → Prop) (r : Result) (s : Site) : Prop
  | cleaned (hstage : r.journal.stage = .cleaned) (h : after s)
  | aborted (hstage : r.journal.stage = .aborted) (h : before s)

abbrev Told (P : Primitives) (plan : Plan) : Result → Site → Prop :=
  Tells (Before P plan) (Moved P plan)

/-- A relocation to an external vault, from the root of its project. -/
structure Forward (project : String) (plan : Plan) : Prop where
  direction : plan.core.direction = .project_local_to_external
  source : plan.core.source_store_root = default_store_root project
  apart : plan.core.destination_store_root ≠ plan.core.source_store_root

variable {plan : Plan} {s s' : Site}

namespace Position

variable {pointer : PointerFile → Prop} {root : String} {journal : Option (Option Journal) → Prop}

/-- It is kept by what does not change the root. -/
theorem within {dir : String} (h : Position P plan pointer root journal s) (hw : Within dir s s')
    (hdir : root ≠ dir) : Position P plan pointer root journal s' where
  pointer := by
    rw [hw.pointer]
    exact h.pointer
  files := h.files.congr (hw.vault _ hdir)
  journal := by
    rw [hw.journals]
    exact h.journal

theorem set_journal (h : Position P plan pointer root journal s) {j : Journal} (hplan : j.plan = plan)
    (hj : journal (some (some j))) : Position P plan pointer root journal (s.set_journal j) where
  pointer := h.pointer
  files := h.files
  journal := by
    subst hplan
    rwa [Site.journals_set_journal]

/-- With the copy published. -/
theorem both (h : Position P plan pointer plan.core.source_store_root journal s)
    (hdestination : Holds P plan.core s plan.core.destination_store_root) {j : Journal}
    (hplan : j.plan = plan) (hstage : j.stage = .published) :
    Both P plan pointer (s.set_journal j) where
  pointer := h.pointer
  source := h.files
  destination := hdestination
  journal := Filed.set_journal s hplan (List.mem_singleton.2 hstage)

end Position

namespace Both

variable {pointer : PointerFile → Prop}

theorem before (h : Both P plan pointer s) :
    Position P plan pointer plan.core.source_store_root (Unfinished plan) s where
  pointer := h.pointer
  files := h.source
  journal := .inr (h.journal.mono (by decide))

/-- The pointer changes hands. -/
theorem after {pointer' : PointerFile → Prop} {stages : List Stage} (h : Both P plan pointer s)
    {p : PointerFile} (hp : pointer' p) (hstages : Stage.published ∈ stages) :
    Position P plan pointer' plan.core.destination_store_root (Filed plan stages)
      (s.set_pointer p) where
  pointer := hp
  files := h.destination
  journal := h.journal.mono fun stage hstage => by rwa [List.mem_singleton.1 hstage]

end Both

/-- `read_pointer` without a pointer. -/
theorem read_pointer_absent (h : s.pointer = .absent) : read_pointer s = .ok none := by
  rw [read_pointer, h]

theorem Ready.torn (h : Ready P plan s) : Torn P plan (s.set_pointer .invalid) :=
  ⟨rfl, h.source, h.destination, h.journal⟩

theorem Ready.moved (h : Ready P plan s) : Moved P plan (s.set_pointer (.names plan.core.pointer)) :=
  h.after rfl (by decide)

/-! ## The steps -/

open Proc

section Steps

variable {E : Site → Prop} {dir path staging : String} {payload : Bytes} {c : Core} {b : Bound}
  {j : Journal}

theorem spec_make_dir {I : Site → Prop} (hI : ∀ s s', I s → Within dir s s' → I s') :
    Keeps I (make_dir dir) := by
  refine Spec.whole (fun s s' hs hx => ?_) fun s hs => ⟨hs, hs⟩
  split_ifs at hx
  cases hx
  have h := hI s _ hs (Within.set_dir dir s (some ∅))
  exact ⟨h, h, h⟩

theorem spec_create_file {Q : Unit → Site → Prop} {I : Site → Prop}
    (h : ∀ s, I s → (s.vault dir).read path = none → Q () (s.placed dir path payload))
    (hI : ∀ s, I s → E s) (hE : ∀ s s', E s → Within dir s s' → E s') :
    Spec I (create_file dir path payload) Q E E := by
  refine Spec.step (fun s s' hs hx => ?_) hI fun s k hs => ?_
  · split_ifs at hx with hnew
    cases hx
    exact h s hs (Option.not_isSome_iff_eq_none.1 hnew)
  · have hp := hE s _ (hI s hs) (Within.part_placed dir path payload k s)
    exact ⟨hp, hp⟩

theorem spec_write_immutable {Q : Unit → Site → Prop} {I : Site → Prop} {conflict : Failure}
    (h : ∀ s, I s → Q () (s.placed dir path payload))
    (hI : ∀ s, I s → E s) (hE : ∀ s s', E s → Within dir s s' → E s') :
    Spec I (write_immutable dir path payload conflict) Q E E := by
  refine Spec.step (fun s s' hs hx => ?_) hI fun s k hs => ?_
  · split_ifs at hx
    cases hx
    exact h s hs
  · have hp := hE s _ (hI s hs) (Within.part_placed dir path payload k s)
    exact ⟨hp, hp⟩

theorem spec_remove_tree {I : Site → Prop} (hI : ∀ s s', I s → Within dir s s' → I s') :
    Keeps I (remove_tree dir) := by
  refine Spec.step (fun s s' hs hx => ?_) (fun s hs => hs) fun s k hs => ?_
  · cases hx
    exact hI s _ hs (Within.set_dir dir s none)
  · exact ⟨hI s _ hs (Within.set_dir dir s _), hI s _ hs (Within.set_dir dir s _)⟩

theorem spec_remove_below {I : Site → Prop} {sub : String}
    (hI : ∀ s s', I s → Within dir s s' → I s') : Keeps I (remove_below dir sub) := by
  refine Spec.step (fun s s' hs hx => ?_) (fun s hs => hs) fun s k hs => ?_
  · cases hx
    exact hI s _ hs (Within.set_dir dir s _)
  · exact ⟨hI s _ hs (Within.set_dir dir s _), hI s _ hs (Within.set_dir dir s _)⟩

theorem spec_flush {I : Site → Prop} {failure : Failure} : Keeps I (Proc.sync failure : Run Unit) :=
  Spec.sync fun _ hs => ⟨hs, hs, hs⟩

theorem spec_discard_staging {I : Site → Prop} (hI : ∀ s s', I s → Within dir s s' → I s') :
    Keeps I (discard_staging dir) := by
  refine Spec.bind (Spec.reads (Q := fun _ => I) fun _ hs => hs) fun there => ?_
  split_ifs
  · exact Spec.bind (spec_remove_tree hI) fun _ => spec_flush
  · exact Spec.pure fun _ hs => hs

/-- The journal is written as a whole or not at all. -/
theorem spec_write_journal {I Q : Site → Prop} {stage : Stage} (hI : ∀ s, I s → E s)
    (hQ : ∀ s, I s → Q (s.set_journal { j with stage })) (hE : ∀ s, Q s → E s) :
    Spec I (write_journal j stage) (fun _ => Q) E E :=
  Spec.atomic (fun s hs => ⟨hQ s hs, hE _ (hQ s hs), hE _ (hQ s hs)⟩) fun s hs => ⟨hI s hs, hI s hs⟩

theorem spec_file_unfinished {pointer : PointerFile → Prop} {root : String} {stage : Stage}
    (hplan : j.plan = plan) (hstage : stage ∈ [Stage.staging, .published, .aborted]) :
    Keeps (Position P plan pointer root (Unfinished plan)) (write_journal j stage) :=
  spec_write_journal (fun _ hs => hs)
    (fun _ hs => hs.set_journal (j := { j with stage }) hplan (.inr ⟨_, rfl, hplan, hstage⟩))
    fun _ hs => hs

theorem spec_file {pointer : PointerFile → Prop} {root : String} {stages : List Stage} {stage : Stage}
    (hplan : j.plan = plan) (hstage : stage ∈ stages) :
    Keeps (Position P plan pointer root (Filed plan stages)) (write_journal j stage) :=
  spec_write_journal (fun _ hs => hs)
    (fun _ hs => hs.set_journal (j := { j with stage }) hplan ⟨_, rfl, hplan, hstage⟩) fun _ hs => hs

/-! ## The copy -/

/-- The project still holds the planned files, and a root holds some of them. -/
def Copied (P : Primitives) (plan : Plan) (dir : String) (entries : List Entry) (s : Site) : Prop :=
  Before P plan s ∧ ∀ e ∈ entries, matches_entry P (s.vault dir) e = true

theorem Copied.placed {entries : List Entry} {dir : String}
    (hdir : plan.core.source_store_root ≠ dir) (h : Copied P plan dir entries s) (path : String)
    (payload : Bytes) : Copied P plan dir entries (s.placed dir path payload) :=
  ⟨h.1.within (Within.placed dir path payload s) hdir, fun e he => matches_placed (h.2 e he)⟩

theorem spec_copy_to_staging {anchor : String} {entries : List Entry}
    (hdir : plan.core.source_store_root ≠ dir) :
    Spec (Before P plan) (copy_to_staging P anchor dir entries)
      (fun _ => Copied P plan dir entries) (Before P plan) (Before P plan) := by
  refine Spec.bind (spec_make_dir fun _ _ hs hw => hs.within hw hdir) fun _ => ?_
  refine Spec.bind (M := fun _ => Copied P plan dir entries) ?_ fun _ =>
    Spec.sync fun _ hs => ⟨hs, hs.1, hs.1⟩
  refine Spec.pre (Spec.sweep (I := Copied P plan dir) fun done e todo hxs => ?_)
    fun s hs => ⟨hs, fun e he => absurd he List.not_mem_nil⟩
  refine Spec.load_bind (fun _ hs => hs.1) fun payload => ?_
  refine Spec.require_bind (fun _ hs => hs.1.1) fun hchecked => ?_
  refine spec_create_file (fun s hs hnew => ?_) (fun _ hs => hs.1.1) fun _ _ hs hw =>
    hs.within hw hdir
  rw [Bool.and_eq_true, decide_eq_true_eq, decide_eq_true_eq] at hchecked
  have hplaced := hs.1.placed hdir e.path payload
  refine ⟨hplaced.1, fun e' he' => ?_⟩
  obtain he' | he' := List.mem_append.1 he'
  · -- An earlier file: the new one was created under a path of its own.
    exact hplaced.2 e' he'
  · rw [List.mem_singleton.1 he']
    exact placed_matches hnew hchecked.1

theorem spec_stage_and_verify (hstaging : plan.core.source_store_root ≠ plan.core.staging) :
    Spec (Before P plan) (stage_and_verify P H project plan.core b)
      (fun _ => Copied P plan plan.core.staging plan.core.entries) (Before P plan)
      (Before P plan) := by
  refine Spec.bind (spec_copy_to_staging hstaging) fun _ => ?_
  refine Spec.require_bind (fun _ hs => hs.1) fun _ => ?_
  refine Spec.load_bind (fun _ hs => hs.1) fun receipt => ?_
  refine Spec.bind (M := fun _ => Copied P plan plan.core.staging plan.core.entries) ?_ fun _ => ?_
  · exact spec_write_immutable (fun _ hs => hs.1.placed hstaging _ receipt.2) (fun _ hs => hs.1.1)
      fun _ _ hs hw => hs.within hw hstaging
  refine Spec.load_bind (fun _ hs => hs.1) fun checked => ?_
  refine Spec.require_bind (fun _ hs => hs.1.1) fun _ => ?_
  exact Spec.pure fun _ hs => hs.1

/-- One rename takes the whole copy to its place. -/
theorem spec_publish {entries : List Entry} {target : String}
    (hstaging : plan.core.source_store_root ≠ staging)
    (htarget : plan.core.source_store_root ≠ target) :
    Spec (Copied P plan staging entries) (publish staging target)
      (fun _ => Copied P plan target entries) (Before P plan) (Before P plan) := by
  refine Spec.whole (fun s s' hs hx => ?_) fun _ hs => ⟨hs.1, hs.1⟩
  split_ifs at hx
  cases hv : s.dirs staging with
  | none => rw [hv] at hx; cases hx
  | some v =>
    rw [hv] at hx
    cases hx
    have hbefore := (hs.1.within (Within.set_dir staging s none) hstaging).within
      (Within.set_dir target _ (some v)) htarget
    -- Even where the rename is done and reported as failed, the project has its files.
    refine ⟨⟨hbefore, fun e he => ?_⟩, hbefore, hbefore⟩
    have hvault : s.vault staging = v := by rw [Site.vault, hv, Option.getD_some]
    rw [Site.vault_set_dir, ← hvault]
    exact hs.2 e he

theorem spec_give_up (hstaging : plan.core.source_store_root ≠ plan.core.staging)
    (hplan : j.plan = plan) : Keeps (Before P plan) (give_up j) := by
  rw [give_up, hplan]
  refine Spec.bind (spec_discard_staging fun _ _ hs hw => hs.within hw hstaging) fun _ => ?_
  exact spec_file_unfinished hplan (by decide)

/-! ## The pointer -/

theorem spec_create_pointer :
    Spec (Ready P plan) (create_pointer plan.core.pointer) (fun _ => Moved P plan)
      (Stands P plan) (Stands P plan) := by
  refine Spec.step (fun s s' hs hx => ?_) (fun s hs => .before hs.before) fun s k hs => ?_
  · rw [if_pos hs.pointer] at hx
    cases hx
    exact hs.moved
  · -- no byte of the pointer, some, or all of them
    have hpart : Stands P plan (if k = 0 ∨ s.pointer ≠ .absent then s
        else s.set_pointer (if k = 1 then .invalid else .names plan.core.pointer)) := by
      split_ifs
      · exact .before hs.before
      · exact .torn hs.torn
      · exact .moved hs.moved
    exact ⟨hpart, hpart⟩

theorem spec_publish_pointer (hb : custody_fingerprint P b = plan.core.custody_fingerprint) :
    Spec (Ready P plan) (publish_pointer P project plan.core b) (fun _ => Moved P plan)
      (Stands P plan) (Stands P plan) := by
  refine Spec.require_bind (fun _ hs => .before hs.before) fun _ => ?_
  refine Spec.require_bind (fun _ hs => .before hs.before) fun _ => ?_
  refine Spec.load_bind (fun _ hs => .before hs.before) fun existing => ?_
  cases existing with
  | none =>
    rw [hb]
    exact spec_create_pointer.pre fun _ hs => hs.1
  | some p =>
    -- A site that is ready has no pointer.
    refine Spec.of_pre (p := False) (fun s hs => ?_) False.elim
    rw [read_pointer_absent hs.1.pointer] at hs
    cases hs.2

/-! ## The cleanup -/

theorem spec_unlink_planned {I : Site → Prop} (hI : ∀ s s', I s → Within dir s s' → I s')
    (e : Entry) : Keeps I (unlink_planned P dir e) := by
  refine Spec.atomic (fun s hs => ?_) fun _ hs => ⟨hs, hs⟩
  have h := hI s _ hs (Within.set_dir dir s ((s.dirs dir).map fun v =>
    if matches_entry P v e then v.remove e.path else v))
  exact ⟨h, h, h⟩

/-- The cleanup changes the project only. -/
theorem spec_cleanup {I : Site → Prop}
    (hI : ∀ s s', I s → Within c.source_store_root s s' → I s') : Keeps I (cleanup P c) := by
  refine Spec.bind spec_flush fun _ => ?_
  refine Spec.bind (Spec.reads (Q := fun _ => I) fun _ hs => hs) fun changed => ?_
  refine Spec.bind (Spec.sweep_keeps fun e _ => spec_unlink_planned hI e) fun _ => ?_
  refine Spec.bind spec_flush fun _ => ?_
  refine Spec.bind (spec_remove_below hI) fun _ => ?_
  refine Spec.bind (spec_remove_below hI) fun _ => ?_
  refine Spec.bind spec_flush fun _ => ?_
  refine Spec.bind (Spec.reads (Q := fun _ => I) fun _ hs => hs) fun residue => ?_
  exact Spec.pure fun _ hs => hs

/-- From the pointer on, a relocation is in the past: it ends wherever it stood. -/
theorem spec_finish {pointer : PointerFile → Prop} {root : String} {stages : List Stage}
    {before : Site → Prop} (hroot : root ≠ plan.core.source_store_root)
    (hcleaned : Stage.cleaned ∈ stages) (hplan : j.plan = plan) :
    Spec (Position P plan pointer root (Filed plan stages)) (finish P j)
      (Tells before (Position P plan pointer root (Filed plan stages)))
      (Position P plan pointer root (Filed plan stages))
      (Position P plan pointer root (Filed plan stages)) := by
  subst hplan
  refine Spec.bind (spec_cleanup fun _ _ hs hw => hs.within hw hroot) fun cleanup => ?_
  refine Spec.bind (M := fun _ => Position P j.plan pointer root (Filed j.plan stages)) ?_
    fun _ => Spec.pure fun _ hs => .cleaned rfl hs
  exact spec_file (j := { j with cleanup := some cleanup, stage := .cleaned }) rfl hcleaned

/-! ## The commit -/

/-- From the published copy on. -/
theorem spec_point {stage : Stage} (hf : Forward project plan) (hplan : j.plan = plan)
    (hb : custody_fingerprint P b = plan.core.custody_fingerprint) :
    Spec (Ready P plan) (do
        publish_pointer P project plan.core b
        write_journal j .pointer_written
        finish P { j with stage })
      (Told P plan) (Stands P plan) (Stands P plan) := by
  refine Spec.bind (spec_publish_pointer hb) fun _ => ?_
  have hfile : Keeps (Moved P plan) (write_journal j .pointer_written) :=
    spec_file hplan (by decide)
  refine (Spec.bind hfile fun _ => ?_).weaken (fun _ hs => hs) (fun _ _ hs => hs)
    (fun _ hs => .moved hs) fun _ hs => .moved hs
  exact spec_finish (j := { j with stage }) hf.apart (by decide) hplan

theorem spec_move {extra : List String} (hf : Forward project plan)
    (hstaging : plan.core.source_store_root ≠ plan.core.staging)
    (hb : custody_fingerprint P b = plan.core.custody_fingerprint) :
    Spec (Before P plan) (move P H project plan b extra) (Told P plan) (Stands P plan)
      (Stands P plan) := by
  have hbefore {α : Type} {c : Run α} {Q : α → Site → Prop}
      (h : Spec (Before P plan) c Q (Before P plan) (Before P plan)) :
      Spec (Before P plan) c Q (Stands P plan) (Stands P plan) :=
    h.weaken (fun _ hs => hs) (fun _ _ hs => hs) (fun _ hs => .before hs) fun _ hs => .before hs
  refine Spec.bind (hbefore (spec_file_unfinished rfl (by decide))) fun _ => ?_
  refine Spec.bind (hbefore ((spec_stage_and_verify hstaging).onError
    (spec_give_up hstaging rfl))) fun receipt => ?_
  -- From here on an error is not taken back: the journal says how far it went.
  refine Spec.bind (((spec_publish hstaging hf.apart.symm).onError
    (spec_give_up hstaging rfl)).weaken (fun _ hs => hs) (fun _ _ hs => hs)
    (fun _ hs => .before hs) fun _ hs => .before hs) fun _ => ?_
  refine Spec.bind (M := fun _ => Copied P plan plan.core.destination_store_root plan.core.entries)
    (Spec.sync fun _ hs => ⟨hs, .before hs.1, .before hs.1⟩) fun _ => ?_
  refine Spec.bind (spec_write_journal (fun _ hs => .before hs.1) (fun _ hs => hs.1.both hs.2 rfl rfl)
    fun _ hs => .before hs.before) fun _ => ?_
  exact spec_point hf rfl hb

end Steps

end AnKla.Relocation
