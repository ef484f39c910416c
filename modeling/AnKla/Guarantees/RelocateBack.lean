import AnKla.Relocation.Back
import AnKla.Guarantees.Relocation

/-!
# A relocation back loses no file

* `Held`, `Returned`: the positions before the pointer is removed, and after.
* `spec_commit_back`, `spec_reconcile_back`: what the calls make of them.
* `relocation_back_keeps_files`: after any calls, wherever they are stopped, the root that a
  client opens holds every planned file.
-/

namespace AnKla.Relocation

open PyJson Durable Sealed Base64 Proc

variable {P : Primitives} {R : Readers} {project : String} {plan : Plan} {s s' : Site}

/-! ## The positions -/

/-- The pointer names the vault of a plan. -/
def Named (plan : Plan) (file : PointerFile) : Prop :=
  ∃ p, file = .names p ∧ p.store_root = plan.core.source_store_root

/-- The pointer names the vault, which holds the planned files. -/
abbrev Held (P : Primitives) (plan : Plan) : Site → Prop :=
  Position P plan (Named plan) plan.core.source_store_root (Unfinished plan)

/-- The copy is published, and the journal says that the pointer goes. -/
abbrev Leaves (P : Primitives) (plan : Plan) : Site → Prop := Both P plan (Named plan)

/-- The pointer is gone, and the project holds the planned files. -/
abbrev Returned (P : Primitives) (plan : Plan) : Site → Prop :=
  Position P plan (fun p => p = .absent) plan.core.destination_store_root
    (Filed plan [.published, .pointer_removed, .cleaned])

/-- Where a site stands in the course of a relocation back. -/
inductive Goes (P : Primitives) (plan : Plan) (s : Site) : Prop
  | held (h : Held P plan s)
  | returned (h : Returned P plan s)

abbrev Says (P : Primitives) (plan : Plan) : Result → Site → Prop :=
  Tells (Held P plan) (Returned P plan)

theorem Says.goes {r : Result} (h : Says P plan r s) : Goes P plan s := by
  cases h with
  | cleaned _ h => exact .returned h
  | aborted _ h => exact .held h

/-- A relocation from an external vault to the root of its project. -/
structure Backward (project : String) (plan : Plan) : Prop where
  direction : plan.core.direction = .external_to_project_local
  destination : plan.core.destination_store_root = default_store_root project
  apart : plan.core.source_store_root ≠ plan.core.destination_store_root
  staging : plan.core.source_store_root ≠ plan.core.back_staging

theorem Held.read_pointer (h : Held P plan s) : ∃ p, read_pointer s = .ok (some p) ∧
    p.store_root = plan.core.source_store_root := by
  obtain ⟨p, hp, hroot⟩ := h.pointer
  exact ⟨p, by rw [Relocation.read_pointer, hp], hroot⟩

theorem Leaves.returned (h : Leaves P plan s) : Returned P plan (s.set_pointer .absent) :=
  h.after rfl (by decide)

/-! ## The steps -/

variable {j : Journal} {b : Bound}

/-- What changes the project or the staging directory only leaves the vault alone. -/
theorem Held.keeps {α : Type} {c : Run α} {Q : α → Site → Prop}
    (h : Spec (Held P plan) c Q (Held P plan) (Held P plan)) :
    Spec (Held P plan) c Q (Goes P plan) (Goes P plan) :=
  h.weaken (fun _ hs => hs) (fun _ _ hs => hs) (fun _ hs => .held hs) fun _ hs => .held hs

theorem spec_copy_held {anchor dir : String} {entries : List Entry}
    (hdir : plan.core.source_store_root ≠ dir) :
    Keeps (Held P plan) (copy_to_staging P anchor dir entries) := by
  have hI (s s' : Site) (hs : Held P plan s) (hw : Within dir s s') : Held P plan s' :=
    hs.within hw hdir
  refine Spec.bind (spec_make_dir hI) fun _ => ?_
  refine Spec.bind (Spec.sweep_keeps fun e _ => ?_) fun _ => spec_flush
  refine Spec.load_bind (fun _ hs => hs) fun payload => ?_
  refine Spec.require_bind (fun _ hs => hs.1) fun _ => ?_
  exact spec_create_file (fun s hs _ => hI s _ hs.1 (Within.placed dir e.path payload s))
    (fun _ hs => hs.1) hI

theorem spec_stage_back (hb : Backward project plan) :
    Keeps (Held P plan) (stage_back P project plan.core b) := by
  have hI (s s' : Site) (hs : Held P plan s) (hw : Within plan.core.back_staging s s') :
      Held P plan s' := hs.within hw hb.staging
  refine Spec.bind (spec_copy_held hb.staging) fun _ => ?_
  refine Spec.require_bind (fun _ hs => hs) fun _ => ?_
  refine Spec.load_bind (fun _ hs => hs) fun receipt => ?_
  refine Spec.bind (M := fun _ => Held P plan) ?_ fun _ => Spec.pure fun _ hs => hs
  exact spec_write_immutable (fun s hs => hI s _ hs.1 (Within.placed _ _ _ s)) (fun _ hs => hs.1) hI

theorem spec_verify_back (hplan : j.plan = plan) : Keeps (Held P plan) (verify_back R j) := by
  refine Spec.load_bind (fun _ hs => hs) fun checked => ?_
  refine Spec.pre (P := Held P plan) ?_ fun _ hs => hs.1
  refine Spec.require_bind (fun _ hs => hs) fun _ => ?_
  exact spec_file_unfinished hplan (by decide)

theorem spec_give_up_back (hb : Backward project plan) (hplan : j.plan = plan) :
    Keeps (Held P plan) (give_up_back j) := by
  rw [give_up_back, hplan]
  refine Spec.bind (spec_discard_staging fun _ _ hs hw => hs.within hw hb.staging) fun _ => ?_
  exact spec_file_unfinished hplan (by decide)

/-- A subtree is moved from the staging directory to the project. -/
theorem Held.move_unit (hb : Backward project plan) (h : Held P plan s) (unit : String) :
    Held P plan
      (move_unit plan.core.back_staging plan.core.destination_store_root unit s) :=
  (h.within (Within.set_dir plan.core.back_staging s _) hb.staging).within
    (Within.set_dir plan.core.destination_store_root _ _) hb.apart

theorem spec_publish_units (hb : Backward project plan) (units : List String) :
    Keeps (Held P plan)
      (publish_units plan.core.back_staging plan.core.destination_store_root units) := by
  refine Spec.bind spec_flush fun _ => Spec.sweep_keeps fun unit _ => ?_
  refine Spec.bind (Spec.reads (Q := fun _ => Held P plan) fun _ hs => hs) fun there => ?_
  split_ifs
  · refine Spec.bind (M := fun _ => Held P plan) ?_ fun _ => spec_flush
    refine Spec.whole (fun s s' hs hx => ?_) fun _ hs => ⟨hs, hs⟩
    split_ifs at hx
    cases hx
    have h := hs.move_unit hb unit
    exact ⟨h, h, h⟩
  · exact Spec.load (fun _ _ hs _ => hs) fun _ hs => hs

theorem spec_remove_units (hb : Backward project plan) (units : List String)
    (receipt : Option String) : Keeps (Held P plan) (remove_units P plan.core units receipt) := by
  refine Spec.bind (Spec.reads (Q := fun _ => Held P plan) fun _ hs => hs) fun present => ?_
  refine Spec.bind (Spec.reads (Q := fun _ => Held P plan) fun _ hs => hs) fun good => ?_
  refine Spec.require_bind (fun _ hs => hs) fun _ => Spec.sweep_keeps fun unit _ => ?_
  refine Spec.bind (M := fun _ => Held P plan) ?_ fun _ => spec_flush
  refine Spec.step (fun s s' hs hx => ?_) (fun _ hs => hs) fun s k hs => ?_
  · cases hx
    exact hs.within (Within.set_dir _ s _) hb.apart
  · exact ⟨hs.within (Within.set_dir _ s _) hb.apart, hs.within (Within.set_dir _ s _) hb.apart⟩

/-! ## The commit point -/

theorem spec_remove_pointer : Spec (Leaves P plan) (remove_pointer plan.core)
    (fun _ => Returned P plan) (Goes P plan) (Goes P plan) := by
  refine Spec.load_bind (fun _ hs => .held hs.before) fun pointer => ?_
  cases pointer with
  | none =>
    refine Spec.of_pre (p := False) (fun s hs => ?_) False.elim
    obtain ⟨p, hp, -⟩ := Held.read_pointer hs.1.before
    rw [hp] at hs
    cases hs.2
  | some p =>
    refine Spec.pre (P := Leaves P plan) ?_ fun _ hs => hs.1
    refine Spec.require_bind (fun _ hs => .held hs.before) fun _ => ?_
    refine Spec.require_bind (fun _ hs => .held hs.before) fun _ => ?_
    refine Spec.bind (M := fun _ => Returned P plan) ?_ fun _ =>
      Spec.sync fun _ hs => ⟨hs, .returned hs, .returned hs⟩
    refine Spec.atomic (fun _ hs => ?_) fun _ hs => ⟨.held hs.before, .held hs.before⟩
    have h := Leaves.returned hs
    exact ⟨h, .returned h, .returned h⟩

theorem published_matches_holds {c : Core} {receipt : Option String}
    (h : published_matches P c receipt (s.vault c.destination_store_root) = true) :
    Holds P c s c.destination_store_root := by
  rw [published_matches, Bool.and_eq_true, List.all_eq_true] at h
  exact h.1

theorem spec_commit_point (hplan : j.plan = plan) : Spec (Held P plan) (commit_point P j)
    (fun _ => Returned P plan) (Goes P plan) (Goes P plan) := by
  subst hplan
  refine Spec.reads_bind fun good => ?_
  refine Spec.require_bind (fun _ hs => .held hs.1) fun hgood => ?_
  refine Spec.bind (M := fun _ => Leaves P j.plan) ?_ fun _ => ?_
  · refine spec_write_journal (fun _ hs => .held hs.1) (fun s hs => ?_)
      fun _ hs => .held hs.before
    -- The copy is compared with the plan right before the pointer goes.
    rw [← hs.2] at hgood
    exact hs.1.both (published_matches_holds hgood) rfl rfl
  refine Spec.bind spec_remove_pointer fun _ => ?_
  have hfile : Keeps (Returned P j.plan)
      (write_journal { j with pointer_removal_started := true } .pointer_removed) :=
    spec_file rfl (by decide)
  exact hfile.weaken (fun _ hs => hs) (fun _ _ hs => hs) (fun _ hs => .returned hs)
    fun _ hs => .returned hs

theorem spec_clean_up_back (hb : Backward project plan) (hplan : j.plan = plan) (before : Bool) :
    Spec (Returned P plan) (clean_up_back P R project j before) (Says P plan) (Returned P plan)
      (Returned P plan) := by
  subst hplan
  refine Spec.load_bind (fun _ hs => hs) fun checked => ?_
  refine Spec.load_bind (fun _ hs => hs.1) fun b => ?_
  refine Spec.pre (P := Returned P j.plan) ?_ fun _ hs => hs.1.1
  refine Spec.require_bind (fun _ hs => hs) fun _ => ?_
  refine Spec.require_bind (fun _ hs => hs) fun _ => ?_
  exact spec_finish hb.apart.symm (by decide) rfl

/-- From the published copy on. -/
theorem spec_finish_back (hb : Backward project plan) (hplan : j.plan = plan)
    (hstage : j.stage = .published) :
    Spec (Held P plan) (finish_back P R project j) (Says P plan) (Goes P plan) (Goes P plan) := by
  rw [finish_back, if_pos hstage]
  refine Spec.bind (spec_commit_point hplan) fun _ => ?_
  have hclean := spec_clean_up_back (P := P) (R := R)
    (j := { j with stage := .pointer_removed, pointer_removal_started := true }) hb hplan false
  exact hclean.weaken (fun _ hs => hs) (fun _ _ hs => hs) (fun _ hs => .returned hs)
    fun _ hs => .returned hs

/-- From the removal of the pointer on. -/
theorem spec_finish_returned (hb : Backward project plan) (hplan : j.plan = plan)
    (hstage : j.stage ≠ .published) :
    Spec (Returned P plan) (finish_back P R project j) (Says P plan) (Goes P plan) (Goes P plan) := by
  rw [finish_back, if_neg hstage]
  exact (spec_clean_up_back hb hplan _).weaken (fun _ hs => hs) (fun _ _ hs => hs)
    (fun _ hs => .returned hs) fun _ hs => .returned hs

/-! ## The calls -/

theorem spec_move_back {extra : List String} (hb : Backward project plan) :
    Spec (Held P plan) (move_back P R project plan b extra) (Says P plan) (Goes P plan)
      (Goes P plan) := by
  refine Spec.bind (Held.keeps (spec_file_unfinished rfl (by decide))) fun _ => ?_
  refine Spec.bind (Held.keeps ((spec_stage_back hb).onError (spec_give_up_back hb rfl)))
    fun receipt => ?_
  have hverify (j : Journal) (hplan : j.plan = plan) :
      Keeps (Held P plan) (Proc.onError (verify_back R j) (give_up_back j)) :=
    (spec_verify_back hplan).onError (spec_give_up_back hb hplan)
  refine Spec.bind (Held.keeps (hverify _ rfl)) fun _ => ?_
  refine Spec.bind (Held.keeps (spec_publish_units hb _)) fun _ => ?_
  refine Spec.bind (Held.keeps (spec_remove_tree fun _ _ hs hw => hs.within hw hb.staging))
    fun _ => ?_
  refine Spec.bind (Held.keeps (spec_file_unfinished rfl (by decide))) fun _ => ?_
  exact spec_finish_back hb rfl rfl

/-- The stage of the journal tells where the site stands, but for `published`. -/
theorem Goes.of_stage (h : Goes P plan s) (hj : s.journals plan.core.transaction_id = some (some j)) :
    (j.stage ∈ [Stage.staging, .aborted] → Held P plan s) ∧
      (j.stage ∈ [Stage.pointer_written, .pointer_removed, .cleaned] → Returned P plan s) := by
  cases h with
  | held h =>
    exact ⟨fun _ => h, fun hstage => absurd hstage (before_stage (h.journal.stage hj).2)⟩
  | returned h =>
    refine ⟨fun hstage => absurd hstage ?_, fun _ => h⟩
    have hmem := (h.journal.stage hj).2
    revert hmem
    cases j.stage <;> decide

theorem Goes.held_of_none (h : Goes P plan s)
    (hnone : s.journals plan.core.transaction_id = none) : Held P plan s := by
  cases h with
  | held h => exact h
  | returned h =>
    obtain ⟨j, hj, -⟩ := h.journal
    rw [hj] at hnone
    cases hnone

theorem Goes.filed (h : Goes P plan s) (hj : s.journals plan.core.transaction_id = some (some j)) :
    j.plan = plan := by
  cases h with
  | held h => exact (h.journal.stage hj).1
  | returned h => exact (h.journal.stage hj).1

theorem Goes.replayed (r : Result) :
    Spec (fun s => Goes P plan s ∧ replay P plan s = .ok (some r)) (Pure.pure r : Run Result)
      (Says P plan) (Goes P plan) (Goes P plan) :=
  spec_replayed r fun _ hs hj hstage => (hs.of_stage hj).2 (by rw [hstage]; decide)

theorem spec_commit_back (hb : Backward project plan) (store_root : String) :
    Spec (Goes P plan) (commit_back P R project store_root plan) (Says P plan) (Goes P plan)
      (Goes P plan) := by
  refine Spec.bind spec_flush fun _ => ?_
  refine Spec.load_bind (fun _ hs => hs) fun replayed => ?_
  cases replayed with
  | some r => exact Goes.replayed r
  | none =>
    refine Spec.pre (P := Held P plan) ?_ fun _ hs => hs.1.held_of_none (replay_none hs.2)
    refine Spec.load_bind (fun _ hs => .held hs) fun checked => ?_
    exact (spec_move_back hb).pre fun _ hs => hs.1

theorem spec_reconcile_back_published (hb : Backward project plan) (hplan : j.plan = plan)
    (hstage : j.stage = .published) (abort : Bool) :
    Spec (Goes P plan) (reconcile_back_published P R project j abort) (Says P plan) (Goes P plan)
      (Goes P plan) := by
  subst hplan
  refine Spec.load_bind (fun _ hs => hs) fun pointer => ?_
  -- The pointer tells on which side of the commit point the site stands.
  cases pointer with
  | none =>
    refine Spec.pre (P := Returned P j.plan) ?_ fun s hs => ?_
    swap
    · cases hs.1 with
      | held h =>
        obtain ⟨p, hp, -⟩ := h.read_pointer
        rw [hp] at hs
        cases hs.2
      | returned h => exact h
    refine Spec.require_bind (fun _ hs => .returned hs) fun _ => ?_
    refine Spec.bind (M := fun _ => Returned P j.plan) ?_ fun _ => ?_
    · exact (spec_file rfl (by decide)).weaken (fun _ hs => hs) (fun _ _ hs => hs)
        (fun _ hs => .returned hs) fun _ hs => .returned hs
    refine Spec.require_bind (fun _ hs => .returned hs) fun _ => ?_
    exact spec_finish_returned (j := { j with stage := .pointer_removed }) hb rfl (fun h => by cases h)
  | some p =>
    refine Spec.pre (P := Held P j.plan) ?_ fun s hs => ?_
    swap
    · cases hs.1 with
      | held h => exact h
      | returned h =>
        rw [read_pointer_absent h.pointer] at hs
        cases hs.2
    cases abort with
    | true =>
      refine Held.keeps ?_
      refine Spec.bind (Spec.reads (Q := fun _ => Held P j.plan) fun _ hs => hs) fun good => ?_
      refine Spec.require_bind (fun _ hs => hs) fun _ => ?_
      refine Spec.bind (spec_remove_units hb _ _) fun _ => ?_
      exact Spec.bind (spec_file_unfinished rfl (by decide)) fun _ =>
        Spec.pure fun _ hs => .aborted rfl hs
    | false =>
      refine Spec.bind (Spec.reads (Q := fun _ => Held P j.plan) fun _ hs => hs) fun current => ?_
      refine Spec.require_bind (fun _ hs => .held hs) fun _ => ?_
      exact spec_finish_back hb rfl hstage

theorem spec_reconcile_back_staging (hb : Backward project plan) (hplan : j.plan = plan)
    (abort : Bool) : Spec (Held P plan) (reconcile_back_staging P R project j abort) (Says P plan)
      (Goes P plan) (Goes P plan) := by
  subst hplan
  have hdiscard : Keeps (Held P j.plan) (discard_staging j.plan.core.back_staging) :=
    spec_discard_staging fun _ _ hs hw => hs.within hw hb.staging
  refine Spec.bind (Spec.reads (Q := fun _ => Held P j.plan) fun _ hs => hs) fun published => ?_
  split_ifs
  · refine Held.keeps ?_
    refine Spec.bind (spec_remove_units hb _ _) fun _ => ?_
    refine Spec.bind hdiscard fun _ => ?_
    exact Spec.bind (spec_file_unfinished rfl (by decide)) fun _ =>
      Spec.pure fun _ hs => .aborted rfl hs
  · refine Spec.bind (Held.keeps (spec_publish_units hb _)) fun _ => ?_
    refine Spec.bind (Held.keeps hdiscard) fun _ => ?_
    refine Spec.bind (Held.keeps (spec_file_unfinished rfl (by decide))) fun _ => ?_
    exact (spec_reconcile_back_published (j := { j with stage := .published }) hb rfl rfl abort).pre
      fun _ hs => .held hs

theorem spec_reconcile_back (hb : Backward project plan) (hplan : j.plan = plan) (abort : Bool)
    (hended : ¬(j.stage = .cleaned ∨ j.stage = .aborted)) :
    Spec (fun s => Goes P plan s ∧ s.journals plan.core.transaction_id = some (some j))
      (reconcile_back P R project j abort) (Says P plan) (Goes P plan) (Goes P plan) := by
  subst hplan
  refine Spec.bind (M := fun _ s => Goes P j.plan s ∧
    s.journals j.plan.core.transaction_id = some (some j))
    (Spec.sync fun _ hs => ⟨hs, hs.1, hs.1⟩) fun _ => ?_
  have hreturned (hstage : j.stage ∈ [Stage.pointer_written, .pointer_removed, .cleaned])
      (hne : j.stage ≠ .published) :
      Spec (fun s => Goes P j.plan s ∧ s.journals j.plan.core.transaction_id = some (some j)) (do
          Proc.require (!abort) (refused "relocate_abort_too_late")
          finish_back P R project j) (Says P j.plan) (Goes P j.plan) (Goes P j.plan) := by
    refine Spec.pre (P := Returned P j.plan) ?_ fun _ hs => (hs.1.of_stage hs.2).2 hstage
    refine Spec.require_bind (fun _ hs => .returned hs) fun _ => ?_
    exact spec_finish_returned hb rfl hne
  cases hstage : j.stage with
  | staging =>
    refine (spec_reconcile_back_staging hb rfl abort).pre fun _ hs => (hs.1.of_stage hs.2).1 ?_
    rw [hstage]
    decide
  | published => exact (spec_reconcile_back_published hb rfl hstage abort).pre fun _ hs => hs.1
  | pointer_written => exact hreturned (by rw [hstage]; decide) (by rw [hstage]; decide)
  | pointer_removed => exact hreturned (by rw [hstage]; decide) (by rw [hstage]; decide)
  | cleaned => exact absurd (.inl hstage) hended
  | aborted => exact absurd (.inr hstage) hended

theorem spec_call_back (hb : Backward project plan) (call : Call) :
    Spec (Goes P plan) (call.proc P (host P R project) project plan) (Says P plan) (Goes P plan)
      (Goes P plan) := by
  cases call with
  | commit store_root expected_current =>
    refine Spec.load_bind (fun _ hs => hs) fun c => ?_
    refine Spec.of_pre (fun _ hs => (validate_plan_ok hs.2).1) fun hc => ?_
    subst hc
    refine Spec.pre (P := Goes P plan) ?_ fun _ hs => hs.1
    refine Spec.require_bind (fun _ hs => hs) fun _ => ?_
    refine Spec.require_bind (fun _ hs => hs) fun _ => ?_
    refine Spec.load_bind (fun _ hs => hs) fun replayed => ?_
    cases replayed with
    | some r => exact Goes.replayed r
    | none =>
      rw [if_pos hb.direction]
      exact (spec_commit_back hb store_root).pre fun _ hs => hs.1
  | reconcile abort =>
    refine Spec.load_bind (fun _ hs => hs) fun journal => ?_
    cases journal with
    | none => exact Spec.raise fun _ hs => hs.1
    | some j =>
      refine Spec.of_pre (fun s hs => hs.1.filed (read_journal_some hs.2).1) fun hplan => ?_
      subst hplan
      refine Spec.pre (P := fun s => Goes P j.plan s ∧
        s.journals j.plan.core.transaction_id = some (some j)) ?_
        fun _ hs => ⟨hs.1, (read_journal_some hs.2).1⟩
      dsimp only
      by_cases hended : j.stage = .cleaned ∨ j.stage = .aborted
      · rw [if_pos hended]
        exact spec_ended hended
          (fun hstage _ hs => (hs.1.of_stage hs.2).2 (by rw [hstage]; decide))
          fun hstage _ hs => (hs.1.of_stage hs.2).1 (by rw [hstage]; decide)
      · rw [if_neg hended]
        refine Spec.require_bind (fun _ hs => hs.1) fun _ => ?_
        rw [if_pos hb.direction]
        exact spec_reconcile_back hb rfl abort hended

/-! ## Runs -/

theorem Goes.after (hb : Backward project plan) (h : Goes P plan s)
    (calls : List (Call × List Fate)) :
    Goes P plan (after P (host P R project) project plan calls s) := by
  refine run_invariant (fun call hcall => ?_) h
  obtain ⟨c, -, rfl⟩ := List.mem_map.1 hcall
  exact (spec_call_back hb c.1).post fun _ _ hs => hs.goes

theorem Held.resolve (h : Held P plan s) :
    resolve_store_root project s = .ok plan.core.source_store_root := by
  obtain ⟨p, hp, hroot⟩ := h.read_pointer
  rw [resolve_store_root, hp, ← hroot]
  rfl

theorem Returned.resolve (hb : Backward project plan) (h : Returned P plan s) :
    resolve_store_root project s = .ok plan.core.destination_store_root := by
  rw [resolve_store_root, read_pointer_absent h.pointer, hb.destination]
  rfl

theorem Goes.served (hb : Backward project plan) (h : Goes P plan s) : Served P project plan s := by
  cases h with
  | held h =>
    rw [Served, h.resolve]
    exact h.files
  | returned h =>
    rw [Served, h.resolve hb]
    exact h.files

theorem Says.settled (hb : Backward project plan) {r : Result} (h : Says P plan r s) :
    Settled P project plan r s := by
  cases h with
  | cleaned hstage h => exact .inl ⟨hstage, h.resolve hb, h.files⟩
  | aborted hstage h => exact .inr ⟨hstage, h.resolve, h.files⟩

theorem Goes.opened (hb : Backward project plan) (h : Goes P plan s) :
    ∃ dir, resolve_store_root project s = .ok dir := by
  cases h with
  | held h => exact ⟨_, h.resolve⟩
  | returned h => exact ⟨_, h.resolve hb⟩

/-- What a plan binds. -/
theorem planned_back_ok {store_root uuid : String}
    (h : planned_back P R project store_root uuid s = .ok plan) :
    (plan.core.transaction_id = uuid ∧ plan.core.project_root = project ∧
        plan.core.source_store_root = store_root ∧ plan.core.direction = .external_to_project_local ∧
        plan.core.destination_store_root = default_store_root project) ∧
      store_root ≠ default_store_root project ∧ (s.dirs store_root).isSome = true ∧
      (∃ p, s.pointer = .names p) ∧
      ∃ rows, move_set R (s.vault plan.core.source_store_root) = .ok rows ∧
        plan.core.entries = rows.map fun f => entry_of P f.1 f.2 := by
  simp only [planned_back, bind_ok, ensure_ok, pure_ok, decide_eq_true_eq] at h
  obtain ⟨_, hexternal, binding, -, pointer, hpointer, _, hsome, _, -, _, -, current, hcurrent, rows,
    hrows, _, -, rfl⟩ := h
  have hnames : ∃ p, s.pointer = .names p := by
    cases hp : s.pointer with
    | absent =>
      rw [read_pointer, hp] at hpointer
      cases hpointer
      cases hsome
    | invalid => rw [read_pointer, hp] at hpointer; cases hpointer
    | names p => exact ⟨p, rfl⟩
  have hsource : (s.dirs store_root).isSome = true := by
    by_contra hnodir
    rw [Option.not_isSome_iff_eq_none] at hnodir
    rw [Site.vault, hnodir] at hcurrent
    cases hcurrent
  exact ⟨⟨rfl, rfl, rfl, rfl, rfl⟩, hexternal, hsource, hnames, rows, hrows, rfl⟩

theorem planned_back_backward {store_root uuid : String}
    (h : planned_back P R project store_root uuid s = .ok plan)
    (hstaging : s.dirs plan.core.back_staging = none) : Backward project plan := by
  obtain ⟨⟨-, -, hroot, hdirection, hdestination⟩, hexternal, hsource, -⟩ := planned_back_ok h
  refine ⟨hdirection, hdestination, ?_, fun heq => ?_⟩
  · rw [hroot, hdestination]
    exact hexternal
  · rw [← heq, hroot] at hstaging
    exact Option.isSome_iff_ne_none.1 hsource hstaging

theorem planned_back_held {store_root uuid : String}
    (h : planned_back P R project store_root uuid s = .ok plan)
    (hopened : resolve_store_root project s = .ok store_root) (hnew : s.journals uuid = none) :
    Held P plan s := by
  obtain ⟨⟨rfl, -, rfl, -, -⟩, -, -, ⟨p, hp⟩, rows, hrows, hentries⟩ := planned_back_ok h
  refine ⟨⟨p, hp, ?_⟩, holds_of_move_set hrows hentries, .inl hnew⟩
  rw [resolve_store_root, read_pointer, hp] at hopened
  exact Except.ok.inj hopened

/-- Let a plan of the way back be made for the vault that the pointer names, on a site that
    knows neither a journal nor a staging directory of its transaction. Then after any
    commits and reconciliations of it, each stopped by an error or killed in any of its
    steps, a client opens a root, and it holds every planned file. A call that returns tells
    which root it is. -/
theorem relocation_back_keeps_files {store_root uuid : String}
    (hplan : planned_back P R project store_root uuid s = .ok plan)
    (hopened : resolve_store_root project s = .ok store_root) (hnew : s.journals uuid = none)
    (hstaging : s.dirs plan.core.back_staging = none) (calls : List (Call × List Fate)) (call : Call)
    (fates : List Fate) :
    let outcome := call.proc P (host P R project) project plan
      (after P (host P R project) project plan calls s) fates
    Answers P project plan outcome ∧ ∃ dir, resolve_store_root project outcome.2.1 = .ok dir := by
  intro outcome
  have hb : Backward project plan := planned_back_backward hplan hstaging
  have hgoes : Goes P plan (after P (host P R project) project plan calls s) :=
    Goes.after hb (.held (planned_back_held hplan hopened hnew)) calls
  have hspec := spec_call_back (P := P) (R := R) hb call
  rcases hr : outcome with ⟨r | e | _, s', rest⟩
  · have htold := hspec.returned hgoes hr
    exact ⟨htold.settled hb, htold.goes.opened hb⟩
  · have hraised := hspec.raised hgoes hr
    exact ⟨hraised.served hb, hraised.opened hb⟩
  · have hdied := hspec.died hgoes hr
    exact ⟨hdied.served hb, hdied.opened hb⟩

/-! ## A small vault -/

/-- The project with its vault outside. -/
def moved_site : Site :=
  Site.set_dir ⟨fun _ => none, .names ⟨"/vault", custody_fingerprint plain
    ⟨"sha256:project", "sha256:store"⟩⟩, fun _ => none⟩ "/vault" (some small_vault)

theorem moved_site_vault : moved_site.vault "/vault" = small_vault := Site.vault_set_dir small_vault

theorem moved_site_free {dir : String} (h : dir ≠ "/vault") : moved_site.dirs dir = none :=
  Site.dirs_set_dir_ne _ _ h

theorem small_planned_back : ∃ plan, planned_back plain small_host.readers "/project" "/vault"
    "00000000-0000-4000-8000-000000000000" moved_site = .ok plan := by
  have hbinding : mutation_preflight plain small_host.readers "/project" "/vault" small_vault
      moved_site = .ok ⟨"sha256:project", "sha256:store"⟩ := by
    have hcustody : check_custody plain "/project" "/vault" ⟨"sha256:project", "sha256:store"⟩
        moved_site = .ok () := by
      have hread : read_pointer moved_site = .ok (some ⟨"/vault", custody_fingerprint plain
        ⟨"sha256:project", "sha256:store"⟩⟩) := rfl
      have hexternal : "/vault" ≠ default_store_root "/project" := by decide
      refine bind_ok.2 ⟨_, hread, ?_⟩
      refine bind_ok.2 ⟨(), ensure_ok.2 (decide_eq_true hexternal), ?_⟩
      refine bind_ok.2 ⟨(), ensure_ok.2 (decide_eq_true rfl), ?_⟩
      exact ensure_ok.2 (by decide)
    exact bind_ok.2 ⟨_, rfl, bind_ok.2 ⟨(), hcustody, rfl⟩⟩
  have hcurrent : read_current small_host.readers small_vault = .ok ("sha256:" ++ zeros) := by
    rw [read_current, small_vault_store, small_store_current]
    rfl
  have hfree (units : List String) :
      (occupied (moved_site.vault (default_store_root "/project")) units).isEmpty = true := by
    rw [Site.vault, moved_site_free (by decide), occupied, List.isEmpty_iff, List.filter_eq_nil_iff]
    exact fun _ _ => Bool.false_ne_true
  simp only [planned_back, moved_site_vault, hbinding, hcurrent, small_move_set, hfree]
  exact ⟨_, rfl⟩

/-- The commit is killed while it copies, and then taken back. -/
theorem small_vault_keeps_files : ∃ plan, planned_back plain small_host.readers "/project" "/vault"
    "00000000-0000-4000-8000-000000000000" moved_site = .ok plan ∧
      Answers plain "/project" plan
        ((Call.reconcile true).proc plain (host plain small_host.readers "/project") "/project" plan
          (after plain (host plain small_host.readers "/project") "/project" plan
            [(.commit "/vault" ("sha256:" ++ zeros), [.done, .done, .done, .dies 1])]
            moved_site) []) := by
  obtain ⟨plan, hplan⟩ := small_planned_back
  obtain ⟨⟨huuid, hproject, -⟩, -⟩ := planned_back_ok hplan
  have hstaging : moved_site.dirs plan.core.back_staging = none := by
    refine moved_site_free ?_
    rw [Core.back_staging, huuid, hproject]
    decide
  exact ⟨plan, hplan, (relocation_back_keeps_files hplan rfl rfl hstaging _ _ _).1⟩

end AnKla.Relocation
