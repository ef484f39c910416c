import AnKla.Relocation.Stands

/-!
# A relocation loses no file

* `planned_forward`, `planned_before`: a plan names the files of the project, which holds them.
* `spec_commit_relocation`, `spec_reconcile_relocation`: the calls keep where a site stands.
* `relocation_keeps_files`: after any calls, wherever they are stopped, the root that a client
  opens holds every planned file.
* `killed_pointer_remains`: a pointer that is cut in the middle is never repaired.
-/

namespace AnKla.Relocation

open PyJson Durable Sealed Base64 Proc

variable {P : Primitives} {H : Host} {project : String} {plan : Plan} {s : Site}

/-! ## The staging directory -/

theorem txid_shape_no_dot : ∀ f ∈ txid_shape, ∀ c, f c = true → decide (c ≠ '.') = true := by
  intro f hf c hc
  rw [decide_eq_true_eq]
  rintro rfl
  revert hc f
  decide

theorem is_txid_no_dot {text : String} (h : is_txid text = true) : '.' ∉ text.toList := by
  have hall := List.all_eq_true.1 (shapeMatches_all txid_shape_no_dot h)
  intro hdot
  exact of_decide_eq_true (hall _ hdot) rfl

theorem length_of_is_txid {text : String} (h : is_txid text = true) : text.toList.length = 36 := by
  rw [is_txid, shapeMatches, Bool.and_eq_true, decide_eq_true_eq] at h
  rw [h.1]
  decide

/-- The staging directory is not the default root: its name ends in a transaction. -/
theorem staging_ne (c : Core) (project : String) (h : is_txid c.transaction_id = true) :
    default_store_root project ≠ c.staging := by
  intro heq
  have hroot : "/.an-kla".toList <:+ c.staging.toList := by
    rw [← heq, default_store_root, String.toList_append]
    exact List.suffix_append _ _
  have htxid : c.transaction_id.toList <:+ c.staging.toList := by
    rw [Core.staging, String.toList_append]
    exact List.suffix_append _ _
  -- Both end the same text, so the shorter one, with its dot, ends the transaction.
  have hsuffix := List.suffix_of_suffix_length_le hroot htxid (by
    rw [length_of_is_txid h]
    decide)
  exact is_txid_no_dot h (hsuffix.subset (by decide))

/-! ## The plan -/

theorem validate_plan_ok {c : Core} (h : validate_plan P plan = .ok c) :
    c = plan.core ∧ is_txid plan.core.transaction_id = true ∧
      (plan.core.entries.map Entry.path).Nodup := by
  simp only [validate_plan, bind_ok, ensure_ok, pure_ok, decide_eq_true_eq] at h
  obtain ⟨_, htxid, _, -, _, -, _, hnodup, _, -, rfl⟩ := h
  exact ⟨rfl, htxid, hnodup⟩

/-- A file of the move set lies in the vault. -/
theorem read_of_move_set {R : Readers} {v : Vault} {rows : List (String × Bytes)}
    (h : move_set R v = .ok rows) {f : String × Bytes} (hf : f ∈ rows) :
    v.read f.1 = some f.2 := by
  simp only [move_set, bind_ok, mapError_ok, pure_ok] at h
  obtain ⟨files, hfiles, rfl⟩ := h
  rw [List.mem_insertionSort, List.mem_append] at hf
  obtain hf | hf := hf
  · have hstore := ((export_files_ok hfiles).2.2 f).1 hf
    obtain ⟨x, hx, rfl⟩ := List.mem_map.1 hstore.1
    exact AList.mem_lookup_iff.2 hx
  · cases hkey : v.read attest_key with
    | none =>
      rw [hkey] at hf
      cases hf
    | some payload =>
      rw [hkey, Option.elim_some, List.mem_singleton] at hf
      rw [hf]
      exact hkey

/-- What a plan binds. -/
theorem planned_ok {store_root destination uuid : String}
    (h : planned P H project store_root destination uuid s = .ok plan) :
    (plan.core.transaction_id = uuid ∧ plan.core.source_store_root = store_root ∧
        plan.core.destination_store_root = destination) ∧
      s.pointer = .absent ∧ Forward project plan ∧
      ∃ rows, move_set H.readers (s.vault plan.core.source_store_root) = .ok rows ∧
        plan.core.entries = rows.map fun f => entry_of P f.1 f.2 := by
  simp only [planned, require_source, validate_destination, bind_ok, ensure_ok, pure_ok,
    decide_eq_true_eq] at h
  obtain ⟨_, ⟨_, hroot, pointer, hpointer, hnone⟩, _, ⟨_, -, _, -, hdestination⟩, binding, hbinding,
    _, -, _, -, current, hcurrent, rows, hrows, rfl⟩ := h
  have habsent : s.pointer = .absent := by
    cases hp : s.pointer with
    | absent => rfl
    | invalid => rw [read_pointer, hp] at hpointer; cases hpointer
    | names p =>
      rw [read_pointer, hp] at hpointer
      cases hpointer
      cases hnone
  have hsource : (s.dirs store_root).isSome = true := by
    by_contra hnodir
    rw [Option.not_isSome_iff_eq_none] at hnodir
    rw [Site.vault, hnodir] at hcurrent
    cases hcurrent
  refine ⟨⟨rfl, rfl, rfl⟩, habsent, ⟨rfl, hroot, fun heq => ?_⟩, rows, hrows, rfl⟩
  have heq : destination = store_root := heq
  rw [← heq] at hsource
  exact Option.isSome_iff_ne_none.1 hsource (Option.isNone_iff_eq_none.1 hdestination)

/-- A root holds the files that its move set has told a plan. -/
theorem holds_of_move_set {R : Readers} {rows : List (String × Bytes)}
    (hrows : move_set R (s.vault plan.core.source_store_root) = .ok rows)
    (hentries : plan.core.entries = rows.map fun f => entry_of P f.1 f.2) :
    Holds P plan.core s plan.core.source_store_root := by
  intro e he
  rw [hentries] at he
  obtain ⟨f, hf, rfl⟩ := List.mem_map.1 he
  have hread : (s.vault plan.core.source_store_root).read (entry_of P f.1 f.2).path = some f.2 :=
    read_of_move_set hrows hf
  rw [matches_entry, hread, Option.any_some, decide_eq_true_eq]
  rfl

theorem planned_before {store_root destination uuid : String}
    (h : planned P H project store_root destination uuid s = .ok plan)
    (hnew : s.journals uuid = none) : Before P plan s := by
  obtain ⟨⟨rfl, -, -⟩, hpointer, -, rows, hrows, hentries⟩ := planned_ok h
  exact ⟨hpointer, holds_of_move_set hrows hentries, .inl hnew⟩

/-! ## The checks -/

theorem read_journal_none {txid : String} (h : read_journal P txid s = .ok none) :
    s.journals txid = none := by
  simp only [read_journal, bind_ok] at h
  obtain ⟨_, -, h⟩ := h
  cases hj : s.journals txid with
  | none => rfl
  | some file =>
    rw [hj] at h
    cases file with
    | none => cases h
    | some j =>
      simp only [bind_ok, pure_ok] at h
      obtain ⟨_, -, _, -, h⟩ := h
      cases h

theorem read_journal_some {txid : String} {j : Journal} (h : read_journal P txid s = .ok (some j)) :
    s.journals txid = some (some j) ∧ is_txid j.plan.core.transaction_id = true ∧
      (j.plan.core.entries.map Entry.path).Nodup := by
  simp only [read_journal, bind_ok] at h
  obtain ⟨_, -, h⟩ := h
  cases hj : s.journals txid with
  | none => rw [hj] at h; cases h
  | some file =>
    rw [hj] at h
    cases file with
    | none => cases h
    | some j' =>
      simp only [bind_ok, pure_ok] at h
      obtain ⟨_, -, _, hvalid, h⟩ := h
      cases h
      exact ⟨rfl, (validate_plan_ok hvalid).2⟩

theorem replay_none (h : replay P plan s = .ok none) :
    s.journals plan.core.transaction_id = none := by
  simp only [replay, bind_ok] at h
  obtain ⟨journal, hjournal, h⟩ := h
  cases journal with
  | none => exact read_journal_none hjournal
  | some j =>
    simp only [bind_ok] at h
    obtain ⟨_, -, h⟩ := h
    cases hstage : j.stage <;> rw [hstage] at h <;> cases h

theorem replay_some {r : Result} (h : replay P plan s = .ok (some r)) :
    s.journals plan.core.transaction_id = some (some r.journal) ∧ r.journal.stage = .cleaned := by
  simp only [replay, bind_ok] at h
  obtain ⟨journal, hjournal, h⟩ := h
  cases journal with
  | none => cases h
  | some j =>
    simp only [bind_ok] at h
    obtain ⟨_, -, h⟩ := h
    cases hstage : j.stage <;> rw [hstage] at h <;> cases h
    exact ⟨(read_journal_some hjournal).1, hstage⟩

/-- A call of a relocation that is finished answers what the call that finished it did. -/
theorem spec_replayed {I before after E : Site → Prop} (r : Result)
    (h : ∀ s, I s → s.journals plan.core.transaction_id = some (some r.journal) →
      r.journal.stage = .cleaned → after s) :
    Spec (fun s => I s ∧ replay P plan s = .ok (some r)) (Pure.pure r : Run Result)
      (Tells before after) E E := by
  refine Spec.pure fun s hs => ?_
  obtain ⟨hj, hstage⟩ := replay_some hs.2
  exact .cleaned hstage (h s hs.1 hj hstage)

/-- The reconciliation of a relocation that has ended answers its journal. -/
theorem spec_ended {I before after E : Site → Prop} {j : Journal}
    (hended : j.stage = .cleaned ∨ j.stage = .aborted)
    (hcleaned : j.stage = .cleaned → ∀ s, I s → after s)
    (haborted : j.stage = .aborted → ∀ s, I s → before s) :
    Spec I (Pure.pure ⟨j, true⟩ : Run Result) (Tells before after) E E := by
  refine Spec.pure fun s hs => ?_
  obtain hstage | hstage := hended
  · exact .cleaned hstage (hcleaned hstage s hs)
  · exact .aborted hstage (haborted hstage s hs)

/-- Without a journal, nothing has begun. -/
theorem Stands.before_of_none (h : Stands P plan s)
    (hnone : s.journals plan.core.transaction_id = none) : Before P plan s := by
  cases h with
  | before h => exact h
  | torn h =>
    obtain ⟨j, hj, -⟩ := h.journal
    rw [hj] at hnone
    cases hnone
  | moved h =>
    obtain ⟨j, hj, -⟩ := h.journal
    rw [hj] at hnone
    cases hnone

theorem Stands.filed (h : Stands P plan s) {j : Journal}
    (hj : s.journals plan.core.transaction_id = some (some j)) : j.plan = plan := by
  cases h with
  | before h => exact (h.journal.stage hj).1
  | torn h => exact (h.journal.stage hj).1
  | moved h => exact (h.journal.stage hj).1

theorem before_stage {stage : Stage} (h : stage ∈ [Stage.staging, .published, .aborted]) :
    stage ∉ [Stage.pointer_written, .pointer_removed, .cleaned] := by
  revert h
  cases stage <;> decide

theorem moved_stage {stage : Stage} (h : stage ∈ [Stage.published, .pointer_written, .cleaned]) :
    stage ∉ [Stage.staging, .aborted] := by
  revert h
  cases stage <;> decide

/-- The stage of the journal tells where the site stands, but for `published`. -/
theorem Stands.of_stage (h : Stands P plan s) {j : Journal}
    (hj : s.journals plan.core.transaction_id = some (some j)) :
    (j.stage ∈ [Stage.staging, .aborted] → Before P plan s) ∧
      (j.stage ∈ [Stage.pointer_written, .pointer_removed, .cleaned] → Moved P plan s) := by
  cases h with
  | before h =>
    exact ⟨fun _ => h, fun hstage => absurd hstage (before_stage (h.journal.stage hj).2)⟩
  | torn h =>
    rw [List.mem_singleton.1 (h.journal.stage hj).2]
    exact ⟨fun hstage => absurd hstage (by decide), fun hstage => absurd hstage (by decide)⟩
  | moved h =>
    exact ⟨fun hstage => absurd hstage (moved_stage (h.journal.stage hj).2), fun _ => h⟩

theorem check_commit_ok {store_root : String} {c : Core} {b : Bound} {extra : List String}
    (h : check_commit P H project store_root c s = .ok (b, extra)) :
    custody_fingerprint P b = c.custody_fingerprint := by
  simp only [check_commit, bind_ok, ensure_ok, pure_ok, Bool.and_eq_true, decide_eq_true_eq,
    Prod.mk.injEq] at h
  obtain ⟨_, -, binding, -, _, ⟨hfingerprint, -⟩, _, -, _, -, _, -, _, -, rfl, -⟩ := h
  exact hfingerprint

/-! ## The commit -/

theorem spec_commit_relocation (hf : Forward project plan) (store_root expected_current : String) :
    Spec (Stands P plan) (commit_relocation P H project store_root plan expected_current)
      (Told P plan) (Stands P plan) (Stands P plan) := by
  refine Spec.load_bind (fun _ hs => hs) fun c => ?_
  refine Spec.of_pre (fun _ hs => validate_plan_ok hs.2) fun ⟨hc, htxid, _⟩ => ?_
  subst hc
  have hstaging : plan.core.source_store_root ≠ plan.core.staging := by
    rw [hf.source]
    exact staging_ne plan.core project htxid
  refine Spec.pre ?_ fun _ hs => hs.1
  refine Spec.require_bind (fun _ hs => hs) fun _ => ?_
  refine Spec.require_bind (fun _ hs => hs) fun _ => ?_
  refine Spec.load_bind (fun _ hs => hs) fun replayed => ?_
  have htold (r : Result) : Spec (fun s => Stands P plan s ∧ replay P plan s = .ok (some r))
      (Pure.pure r : Run Result) (Told P plan) (Stands P plan) (Stands P plan) :=
    spec_replayed r fun _ hs hj hstage => (hs.of_stage hj).2 (by rw [hstage]; decide)
  cases replayed with
  | some r => exact htold r
  | none =>
    rw [hf.direction, if_neg (by decide)]
    refine Spec.pre ?_ fun _ hs => hs.1
    refine Spec.require_bind (fun _ hs => hs) fun _ => ?_
    refine Spec.bind spec_flush fun _ => ?_
    refine Spec.load_bind (fun _ hs => hs) fun replayed => ?_
    cases replayed with
    | some r => exact htold r
    | none =>
      refine Spec.pre ?_ fun _ hs => hs.1.before_of_none (replay_none hs.2)
      refine Spec.load_bind (fun _ hs => .before hs) fun checked => ?_
      refine Spec.of_pre (fun _ hs => check_commit_ok hs.2) fun hb => ?_
      refine Spec.pre ?_ fun _ hs => hs.1
      refine Spec.bind (M := fun _ => Before P plan)
        (Spec.sync fun _ hs => ⟨hs, .before hs, .before hs⟩) fun _ => ?_
      refine Spec.load_bind (fun _ hs => .before hs) fun _ => ?_
      exact (spec_move hf hstaging hb).pre fun _ hs => hs.1

/-! ## The reconciliation -/

/-- While the journal says `published`, the pointer tells where the site stands. -/
theorem pointer_matches_ok {matched : Bool} (h : Stands P plan s)
    (hmatched : pointer_matches plan.core s = .ok matched) :
    if matched then Moved P plan s else Before P plan s := by
  simp only [pointer_matches, bind_ok] at hmatched
  obtain ⟨pointer, hpointer, hmatched⟩ := hmatched
  cases h with
  | before h =>
    rw [read_pointer_absent h.pointer] at hpointer
    cases hpointer
    cases hmatched
    exact h
  | torn h =>
    rw [read_pointer, h.pointer] at hpointer
    cases hpointer
  | moved h =>
    rw [read_pointer, h.pointer] at hpointer
    cases hpointer
    simp only [Core.pointer, ne_eq, not_true_eq_false, if_false, bind_ok, pure_ok] at hmatched
    obtain ⟨_, -, rfl⟩ := hmatched
    exact h

/-- An entry is found by its path. -/
theorem find_entry {entries : List Entry} (hnodup : (entries.map Entry.path).Nodup) {e : Entry}
    (he : e ∈ entries) : (entries.find? fun e' => e'.path = e.path) = some e := by
  cases hfind : entries.find? fun e' => e'.path = e.path with
  | none => exact absurd (decide_eq_true rfl) (List.find?_eq_none.1 hfind e he)
  | some e' =>
    have hpath := List.find?_some (p := fun e' : Entry => decide (e'.path = e.path)) hfind
    rw [decide_eq_true_eq] at hpath
    rw [List.inj_on_of_nodup_map hnodup (List.mem_of_find?_eq_some hfind) he hpath]

/-- A destination with the receipt of a plan holds its files. -/
theorem holds_of_receipt (hnodup : (plan.core.entries.map Entry.path).Nodup)
    (h : (destination_receipt P H plan.core
      (s.vault plan.core.destination_store_root)).isSome = true) :
    Holds P plan.core s plan.core.destination_store_root := by
  rw [destination_receipt] at h
  cases hrows : move_set H.readers (s.vault plan.core.destination_store_root) with
  | error e =>
    rw [hrows] at h
    cases h
  | ok rows =>
    simp only [hrows] at h
    split at h
    swap
    · cases h
    split_ifs at h with hchecked
    swap
    · cases h
    rw [Bool.and_eq_true, List.all_eq_true, List.all_eq_true] at hchecked
    intro e he
    obtain ⟨f, hf, hpath⟩ := List.mem_map.1 (List.contains_iff_mem.1 (hchecked.2 e he))
    have hgood := hchecked.1 f hf
    rw [hpath, find_entry hnodup he, decide_eq_true_eq] at hgood
    rw [matches_entry, ← hpath, read_of_move_set hrows hf, Option.any_some, decide_eq_true_eq]
    exact hgood

theorem check_published_ok {c : Core} {b : Bound} (h : check_published P H project c s = .ok b) :
    custody_fingerprint P b = c.custody_fingerprint := by
  simp only [check_published, bind_ok, ensure_ok, pure_ok, Bool.and_eq_true, decide_eq_true_eq] at h
  obtain ⟨_, -, _, -, _, -, _, -, _, ⟨-, hfingerprint⟩, rfl⟩ := h
  exact hfingerprint

theorem spec_reconcile_moved {j : Journal} (hf : Forward project plan) (hplan : j.plan = plan)
    (abort : Bool) :
    Spec (Moved P plan) (reconcile_moved P j abort) (Told P plan) (Moved P plan) (Moved P plan) :=
  Spec.require_bind (fun _ hs => hs) fun _ => spec_finish hf.apart (by decide) hplan

theorem spec_reconcile_published {j : Journal} (hf : Forward project plan) (hplan : j.plan = plan)
    (hnodup : (plan.core.entries.map Entry.path).Nodup) (abort : Bool) :
    Spec (fun s => Stands P plan s ∧
        Filed plan [.published] (s.journals plan.core.transaction_id))
      (reconcile_published P H project j abort) (Told P plan) (Stands P plan) (Stands P plan) := by
  subst hplan
  refine Spec.load_bind (fun _ hs => hs.1) fun matched => ?_
  -- Whether the pointer is there decides between going on and going back.
  cases matched with
  | true =>
    refine Spec.pre (P := Moved P j.plan) ?_ fun _ hs => pointer_matches_ok hs.1.1 hs.2
    refine Spec.weaken (P := Moved P j.plan) (Spec.bind (spec_file rfl (by decide)) fun _ =>
      spec_reconcile_moved (j := { j with stage := .pointer_written }) hf rfl abort)
      (fun _ hs => hs) (fun _ _ hs => hs) (fun _ hs => .moved hs) fun _ hs => .moved hs
  | false =>
    refine Spec.pre (P := fun s => Before P j.plan s ∧
      Filed j.plan [.published] (s.journals j.plan.core.transaction_id)) ?_
      fun _ hs => ⟨pointer_matches_ok hs.1.1 hs.2, hs.1.2⟩
    refine Spec.reads_bind fun receipt => ?_
    refine Spec.require_bind (fun _ hs => .before hs.1.1) fun hreceipt => ?_
    refine Spec.pre (P := Ready P j.plan) ?_ fun s hs => ?_
    swap
    · rw [Bool.and_eq_true, ← hs.2] at hreceipt
      exact ⟨hs.1.1.pointer, hs.1.1.files, holds_of_receipt hnodup hreceipt.1, hs.1.2⟩
    cases abort with
    | true =>
      refine Spec.pre (P := Before P j.plan) ?_ fun _ hs => hs.before
      refine Spec.weaken (P := Before P j.plan) (Q := Told P j.plan)
        (E := Before P j.plan) (C := Before P j.plan) ?_ (fun _ hs => hs)
        (fun _ _ hs => hs) (fun _ hs => .before hs) fun _ hs => .before hs
      refine Spec.reads_bind fun only => ?_
      refine Spec.require_bind (fun _ hs => hs.1) fun _ => ?_
      refine Spec.pre (P := Before P j.plan) ?_ fun _ hs => hs.1
      refine Spec.bind (spec_remove_tree fun _ _ hs hw => hs.within hw hf.apart.symm) fun _ => ?_
      refine Spec.bind spec_flush fun _ => ?_
      exact Spec.bind (spec_file_unfinished rfl (by decide)) fun _ =>
        Spec.pure fun _ hs => .aborted rfl hs
    | false =>
      refine Spec.load_bind (fun _ hs => .before hs.before) fun b => ?_
      refine Spec.of_pre (fun _ hs => check_published_ok hs.2) fun hb => ?_
      exact (spec_point hf rfl hb).pre fun _ hs => hs.1

theorem spec_reconcile_staging {j : Journal} (hf : Forward project plan) (hplan : j.plan = plan)
    (hstaging : plan.core.source_store_root ≠ plan.core.staging)
    (hnodup : (plan.core.entries.map Entry.path).Nodup) (abort : Bool) :
    Spec (Before P plan) (reconcile_staging P H project j abort) (Told P plan)
      (Stands P plan) (Stands P plan) := by
  subst hplan
  refine Spec.reads_bind fun receipt => ?_
  refine Spec.pre (P := Before P j.plan) ?_ fun _ hs => hs.1
  cases receipt with
  | none =>
    refine Spec.weaken (P := Before P j.plan) (Q := Told P j.plan)
      (E := Before P j.plan) (C := Before P j.plan) ?_ (fun _ hs => hs)
      (fun _ _ hs => hs) (fun _ hs => .before hs) fun _ hs => .before hs
    refine Spec.bind (spec_discard_staging fun _ _ hs hw => hs.within hw hstaging) fun _ => ?_
    exact Spec.bind (spec_file_unfinished rfl (by decide)) fun _ =>
      Spec.pure fun _ hs => .aborted rfl hs
  | some r =>
    refine Spec.bind (M := fun _ s => Stands P j.plan s ∧
      Filed j.plan [.published] (s.journals j.plan.core.transaction_id))
      (spec_write_journal (fun _ hs => .before hs) (fun s hs => ?_) fun _ hs => hs.1)
      fun _ => spec_reconcile_published
        (j := { j with relocation_receipt := some r, stage := .published }) hf rfl hnodup abort
    have hstage : Stage.published ∈ [Stage.staging, .published, .aborted] := by decide
    exact ⟨.before (hs.set_journal rfl (.inr ⟨_, rfl, rfl, hstage⟩)),
      Filed.set_journal s rfl (List.mem_singleton.2 rfl)⟩

theorem spec_reconcile_relocation (hf : Forward project plan) (abort : Bool) :
    Spec (Stands P plan) (reconcile_relocation P H project plan.core.transaction_id abort)
      (Told P plan) (Stands P plan) (Stands P plan) := by
  refine Spec.load_bind (fun _ hs => hs) fun journal => ?_
  cases journal with
  | none => exact Spec.raise fun _ hs => hs.1
  | some j =>
    refine Spec.of_pre (fun s hs => And.intro (hs.1.filed (read_journal_some hs.2).1)
      (read_journal_some hs.2).2) fun ⟨hplan, htxid, hnodup⟩ => ?_
    subst hplan
    refine Spec.pre (P := fun s => Stands P j.plan s ∧
      s.journals j.plan.core.transaction_id = some (some j)) ?_
      fun _ hs => ⟨hs.1, (read_journal_some hs.2).1⟩
    dsimp only
    by_cases hended : j.stage = .cleaned ∨ j.stage = .aborted
    · rw [if_pos hended]
      exact spec_ended hended
        (fun hstage _ hs => (hs.1.of_stage hs.2).2 (by rw [hstage]; decide))
        fun hstage _ hs => (hs.1.of_stage hs.2).1 (by rw [hstage]; decide)
    rw [if_neg hended]
    refine Spec.require_bind (fun _ hs => hs.1) fun _ => ?_
    rw [hf.direction, if_neg (by decide)]
    refine Spec.bind (M := fun _ s => Stands P j.plan s ∧
      s.journals j.plan.core.transaction_id = some (some j))
      (Spec.sync fun _ hs => ⟨hs, hs.1, hs.1⟩) fun _ => ?_
    have hmoved (hstage : j.stage ∈ [Stage.pointer_written, .pointer_removed, .cleaned]) :
        Spec (fun s => Stands P j.plan s ∧ s.journals j.plan.core.transaction_id = some (some j))
          (reconcile_moved P j abort) (Told P j.plan) (Stands P j.plan) (Stands P j.plan) :=
      (spec_reconcile_moved hf rfl abort).weaken (fun _ hs => (hs.1.of_stage hs.2).2 hstage)
        (fun _ _ hs => hs) (fun _ hs => .moved hs) fun _ hs => .moved hs
    cases hstage : j.stage with
    | staging =>
      have hstaging : j.plan.core.source_store_root ≠ j.plan.core.staging := by
        rw [hf.source]
        exact staging_ne j.plan.core project htxid
      refine (spec_reconcile_staging hf rfl hstaging hnodup abort).pre fun _ hs =>
        (hs.1.of_stage hs.2).1 ?_
      rw [hstage]
      decide
    | published =>
      refine (spec_reconcile_published hf rfl hnodup abort).pre fun _ hs => ⟨hs.1, j, hs.2, rfl, ?_⟩
      rw [hstage]
      decide
    | pointer_written => exact hmoved (by rw [hstage]; decide)
    | pointer_removed => exact hmoved (by rw [hstage]; decide)
    | cleaned => exact absurd (.inl hstage) hended
    | aborted => exact absurd (.inr hstage) hended

/-! ## Runs -/

/-- A call of one relocation. -/
inductive Call
  | commit (store_root expected_current : String)
  | reconcile (abort : Bool)

def Call.proc (P : Primitives) (H : Host) (project : String) (plan : Plan) : Call → Run Result
  | .commit store_root expected_current =>
    commit_relocation P H project store_root plan expected_current
  | .reconcile abort => reconcile_relocation P H project plan.core.transaction_id abort

/-- The site after calls, each with the fates of its steps. -/
def after (P : Primitives) (H : Host) (project : String) (plan : Plan)
    (calls : List (Call × List Fate)) (s : Site) : Site :=
  Proc.run (calls.map fun call => (call.1.proc P H project plan, call.2)) s

/-- The root that a client opens holds the planned files. Where a client opens none, both
    roots hold them. -/
def Served (P : Primitives) (project : String) (plan : Plan) (s : Site) : Prop :=
  match resolve_store_root project s with
  | .ok dir => Holds P plan.core s dir
  | .error _ => Holds P plan.core s plan.core.source_store_root ∧
      Holds P plan.core s plan.core.destination_store_root

/-- A finished relocation has moved the files, and an aborted one has left them. -/
def Settled (P : Primitives) (project : String) (plan : Plan) (r : Result) (s : Site) : Prop :=
  r.journal.stage = .cleaned ∧
      resolve_store_root project s = .ok plan.core.destination_store_root ∧
      Holds P plan.core s plan.core.destination_store_root ∨
    r.journal.stage = .aborted ∧
      resolve_store_root project s = .ok plan.core.source_store_root ∧
      Holds P plan.core s plan.core.source_store_root

/-- What a call answers, and where it leaves the files. -/
def Answers (P : Primitives) (project : String) (plan : Plan) :
    Ending Failure Result × Site × List Fate → Prop
  | (.returned r, s, _) => Settled P project plan r s
  | (.raised _, s, _) => Served P project plan s
  | (.died, s, _) => Served P project plan s

theorem spec_call (hf : Forward project plan) (call : Call) :
    Spec (Stands P plan) (call.proc P H project plan) (Told P plan) (Stands P plan)
      (Stands P plan) := by
  cases call with
  | commit store_root expected_current => exact spec_commit_relocation hf store_root expected_current
  | reconcile abort => exact spec_reconcile_relocation hf abort

theorem Stands.after (hf : Forward project plan) (h : Stands P plan s)
    (calls : List (Call × List Fate)) : Stands P plan (after P H project plan calls s) := by
  refine run_invariant (fun call hcall => ?_) h
  obtain ⟨c, -, rfl⟩ := List.mem_map.1 hcall
  refine (spec_call hf c.1).post fun _ _ hs => ?_
  cases hs with
  | cleaned _ h => exact .moved h
  | aborted _ h => exact .before h

theorem Before.resolve (hf : Forward project plan) (h : Before P plan s) :
    resolve_store_root project s = .ok plan.core.source_store_root := by
  rw [resolve_store_root, read_pointer_absent h.pointer, hf.source]
  rfl

theorem Moved.resolve (h : Moved P plan s) :
    resolve_store_root project s = .ok plan.core.destination_store_root := by
  rw [resolve_store_root, read_pointer, h.pointer]
  rfl

theorem Torn.resolve (h : Torn P plan s) :
    resolve_store_root project s = .error (refused "store_root_pointer_invalid") := by
  rw [resolve_store_root, read_pointer, h.pointer]
  rfl

theorem Stands.served (hf : Forward project plan) (h : Stands P plan s) :
    Served P project plan s := by
  cases h with
  | before h =>
    rw [Served, h.resolve hf]
    exact h.files
  | torn h =>
    rw [Served, h.resolve]
    exact ⟨h.source, h.destination⟩
  | moved h =>
    rw [Served, h.resolve]
    exact h.files

theorem Told.settled (hf : Forward project plan) {r : Result} (h : Told P plan r s) :
    Settled P project plan r s := by
  cases h with
  | cleaned hstage h => exact .inl ⟨hstage, h.resolve, h.files⟩
  | aborted hstage h => exact .inr ⟨hstage, h.resolve hf, h.files⟩

/-- Let a plan be made on a site that knows no journal of its transaction. Then after any
    commits and reconciliations of it, each stopped by an error or killed in any of its
    steps, the root that the pointer designates holds every planned file, and while the
    pointer is half written, both roots do. A call that returns tells which root it is. -/
theorem relocation_keeps_files {store_root destination uuid : String}
    (hplan : planned P H project store_root destination uuid s = .ok plan)
    (hnew : s.journals uuid = none) (calls : List (Call × List Fate)) (call : Call)
    (fates : List Fate) : Answers P project plan
      (call.proc P H project plan (after P H project plan calls s) fates) := by
  have hf := (planned_ok hplan).2.2.1
  have hstart : Stands P plan s := .before (planned_before hplan hnew)
  have hstands : Stands P plan (after P H project plan calls s) := hstart.after hf calls
  rcases hr : call.proc P H project plan (after P H project plan calls s) fates with
    ⟨r | e | _, s', rest⟩
  · exact ((spec_call hf call).returned hstands hr).settled hf
  · exact ((spec_call hf call).raised hstands hr).served hf
  · exact ((spec_call hf call).died hstands hr).served hf

/-! ## A half-written pointer -/

theorem Torn.pointer_matches (h : Torn P plan s) :
    pointer_matches plan.core s = .error (refused "store_root_pointer_invalid") := by
  rw [Relocation.pointer_matches, read_pointer, h.pointer]
  rfl

theorem Torn.no_replay (h : Torn P plan s) (replayed : Option Result) :
    replay P plan s ≠ .ok replayed := by
  intro hreplay
  obtain ⟨j, hj, -, hstage⟩ := h.journal
  cases replayed with
  | none =>
    rw [replay_none hreplay] at hj
    cases hj
  | some r =>
    obtain ⟨hr, hcleaned⟩ := replay_some hreplay
    rw [hr] at hj
    cases hj
    rw [hcleaned] at hstage
    exact absurd hstage (by decide)

/-- No call gets past a half-written pointer, or changes anything. -/
theorem spec_torn (hf : Forward project plan) (h : Torn P plan s) (call : Call) :
    Spec (fun s' => s' = s) (call.proc P H project plan) (fun _ _ => False) (fun s' => s' = s)
      (fun s' => s' = s) := by
  cases call with
  | commit store_root expected_current =>
    refine Spec.load_bind (fun _ hs => hs) fun c => ?_
    refine Spec.of_pre (fun _ hs => (validate_plan_ok hs.2).1) fun hc => ?_
    subst hc
    refine Spec.require_bind (fun _ hs => hs.1) fun _ => ?_
    refine Spec.require_bind (fun _ hs => hs.1) fun _ => ?_
    refine Spec.load_bind (fun _ hs => hs.1) fun replayed => ?_
    refine Spec.of_pre (p := False) (fun s' hs => ?_) False.elim
    rw [hs.1.1] at hs
    exact h.no_replay replayed hs.2
  | reconcile abort =>
    refine Spec.load_bind (fun _ hs => hs) fun journal => ?_
    cases journal with
    | none => exact Spec.raise fun _ hs => hs.1
    | some j =>
      have hj {s' : Site} (hs : s' = s ∧ read_journal P plan.core.transaction_id s' = .ok (some j)) :
          j.plan = plan ∧ j.stage ∈ [Stage.published] := by
        rw [hs.1] at hs
        exact h.journal.stage (read_journal_some hs.2).1
      -- The journal says `published`, so the pointer is read before anything is done.
      refine Spec.of_pre (fun _ hs => hj hs) fun ⟨hplan, hpublished⟩ => ?_
      subst hplan
      have hstage := List.mem_singleton.1 hpublished
      dsimp only
      rw [hstage, if_neg (by decide)]
      refine Spec.require_bind (fun _ hs => hs.1) fun _ => ?_
      rw [hf.direction, if_neg (by decide)]
      refine Spec.bind (M := fun _ s' => s' = s) (Spec.sync fun _ hs => ⟨hs.1, hs.1, hs.1⟩) fun _ => ?_
      refine Spec.load_bind (fun _ hs => hs) fun matched => ?_
      refine Spec.of_pre (p := False) (fun s' hs => ?_) False.elim
      rw [hs.1, h.pointer_matches] at hs
      cases hs.2

/-- The creation of the pointer, killed in its middle. -/
theorem torn_of_killed (h : Ready P plan s) : create_pointer plan.core.pointer s [.dies 1] =
    (.died, s.set_pointer .invalid, []) := by
  rw [create_pointer, Proc.step, if_neg (by rw [h.pointer]; decide), if_pos rfl]

/-- Let a relocation be killed while it writes its pointer. Then no further call of it
    returns or changes anything, and a client opens no root, although both hold the files. -/
theorem killed_pointer_remains (hf : Forward project plan) (h : Ready P plan s) :
    ∃ torn, create_pointer plan.core.pointer s [.dies 1] = (.died, torn, []) ∧
      Holds P plan.core torn plan.core.source_store_root ∧
      Holds P plan.core torn plan.core.destination_store_root ∧
      resolve_store_root project torn = .error (refused "store_root_pointer_invalid") ∧
      ∀ calls : List (Call × List Fate), after P H project plan calls torn = torn ∧
        ∀ (call : Call) fates r s' rest,
          call.proc P H project plan torn fates ≠ (.returned r, s', rest) := by
  have htorn : Torn P plan (s.set_pointer .invalid) := h.torn
  refine ⟨_, torn_of_killed h, htorn.source, htorn.destination, htorn.resolve, fun calls =>
    ⟨?_, fun call fates r s' rest hr => (spec_torn hf htorn call).returned rfl hr⟩⟩
  refine run_invariant (I := fun s' => s' = s.set_pointer .invalid) (fun call hcall => ?_) rfl
  obtain ⟨c, -, rfl⟩ := List.mem_map.1 hcall
  exact (spec_torn hf htorn c.1).post fun _ _ hs => hs.elim

/-! ## A small project -/

/-- The vault of the store with one revision. -/
def small_vault : Vault where
  entries := small_store.files.map fun f => ⟨f.1, f.2⟩
  nodupKeys := by
    rw [List.NodupKeys, List.keys, List.map_map]
    exact small_store.nodup

def small_host : Host where
  readers :=
    { verify := fun _ => small_store.verify
      read_binding := fun _ => .ok ⟨"sha256:project", "sha256:store"⟩
      preflight := fun _ => .ok ⟨"sha256:project", "sha256:store"⟩ }
  commit_back _ _ := Proc.raise (refused "relocate_source_changed")
  reconcile_back _ _ := Proc.raise (refused "relocate_source_changed")

/-- The project has its vault below it. -/
def small_site : Site :=
  Site.set_dir ⟨fun _ => none, .absent, fun _ => none⟩ "/project/.an-kla" (some small_vault)

theorem small_vault_store : small_vault.store small_host.readers = small_store := rfl

theorem small_site_vault : small_site.vault "/project/.an-kla" = small_vault :=
  Site.vault_set_dir small_vault

theorem small_move_set : move_set small_host.readers small_vault = .ok
    ((small_files ++ []).insertionSort fun f g => f.1 ≤ g.1) := by
  have hkey : small_vault.read attest_key = none := by
    decide
  rw [move_set, small_vault_store, small_store_files, hkey]
  rfl

theorem small_planned : ∃ plan, planned plain small_host "/project" "/project/.an-kla" "/vault"
    "00000000-0000-4000-8000-000000000000" small_site = .ok plan := by
  have hsource : require_source "/project" "/project/.an-kla" small_site = .ok () := by
    decide
  have hdestination : validate_destination "/project" "/vault" small_site = .ok () := by
    have hfree : small_site.dirs "/vault" = none := Site.dirs_set_dir_ne _ _ (by decide)
    rw [validate_destination, hfree]
    decide
  have hcurrent : read_current small_host.readers small_vault = .ok ("sha256:" ++ zeros) := by
    rw [read_current, small_vault_store, small_store_current]
    rfl
  rw [planned, hsource, hdestination, small_site_vault]
  simp only [hcurrent, small_move_set]
  exact ⟨_, rfl⟩

/-- The commit is killed while it copies, and then reconciled. -/
theorem small_project_keeps_files : ∃ plan, planned plain small_host "/project" "/project/.an-kla"
    "/vault" "00000000-0000-4000-8000-000000000000" small_site = .ok plan ∧
      Answers plain "/project" plan ((Call.reconcile false).proc plain small_host "/project" plan
        (after plain small_host "/project" plan
          [(.commit "/project/.an-kla" ("sha256:" ++ zeros), [.done, .done, .done, .dies 1])]
          small_site) []) := by
  obtain ⟨plan, hplan⟩ := small_planned
  exact ⟨plan, hplan, relocation_keeps_files hplan rfl _ _ _⟩

/-- Its copy is published. -/
theorem small_ready : ∃ plan s, planned plain small_host "/project" "/project/.an-kla" "/vault"
    "00000000-0000-4000-8000-000000000000" small_site = .ok plan ∧ Ready plain plan s := by
  obtain ⟨plan, hplan⟩ := small_planned
  obtain ⟨⟨-, hsource, hdestination⟩, -, -⟩ := planned_ok hplan
  have hbefore : Before plain plan small_site := planned_before hplan rfl
  let copied := small_site.set_dir "/vault" (some small_vault)
  have hw : Within "/vault" small_site copied := Within.set_dir "/vault" small_site _
  let j : Journal := ⟨plan, .published, none, [], none, false⟩
  refine ⟨plan, copied.set_journal j, hplan, rfl, ?_, ?_,
    Filed.set_journal copied rfl (List.mem_singleton.2 rfl)⟩
  · exact hbefore.files.congr (hw.vault _ (by rw [hsource]; decide))
  · intro e he
    have hsmall := hbefore.files e he
    rw [hsource, small_site_vault] at hsmall
    rw [hdestination, Site.vault_set_journal, Site.vault_set_dir]
    exact hsmall

/-- The relocation is killed while it writes its pointer, and then reconciled. -/
theorem small_pointer_remains : ∃ plan s torn,
    create_pointer plan.core.pointer s [.dies 1] = (.died, torn, []) ∧
      resolve_store_root "/project" torn = .error (refused "store_root_pointer_invalid") ∧
      after plain small_host "/project" plan [(.reconcile false, [])] torn = torn := by
  obtain ⟨plan, s, hplan, hready⟩ := small_ready
  obtain ⟨torn, hkilled, -, -, hresolve, hcalls⟩ :=
    killed_pointer_remains (H := small_host) (planned_ok hplan).2.2.1 hready
  exact ⟨plan, s, torn, hkilled, hresolve, (hcalls _).1⟩

end AnKla.Relocation
