import AnKla.Governed

/-!
# Commits that move CURRENT

What is on the disk once CURRENT has moved to a candidate, wherever the commit
stops afterwards.

* `Child`: the candidate of a request, field by field.
* `before_writes`, `after_writes`: what is written before and after CURRENT moves.
* `Moved`: what a commit that has moved CURRENT leaves.
* `run_moves`: a commit moves CURRENT from its base to its candidate, or not at all.
* `Governed.moves`: so does every governed call.
* `Governed.keeps`: what the writes of a transaction keep, a call under its id keeps.
-/

namespace AnKla

open PyJson Durable

variable (H : Crypto)

/-! ## The candidate -/

/-- The candidate of a request on a base. -/
structure Child (c : CommitRequest) (base : Snapshot) (entry : List RefutationEntry)
    (m : Manifest) : Prop where
  added : c.refutation_entry H = .ok entry
  valid : m.Valid
  schema : m.schema = if base.manifest.schema = .v3 then .v3
    else if base.manifest.schema = .v2 ∨ c.attempt.operation = .refute then .v2 else .v1
  revision : m.revision = base.manifest.revision + 1
  parent : m.parent = some c.observed
  segments : m.segments = c.segment_ids H base
  checkpoint : m.checkpoint = c.checkpoint_id H base
  transaction_id : m.transaction_id = .uuid c.txid
  store_identity : m.store_identity = some c.store_identity
  supersedes : m.supersedes = base.manifest.supersedes ++ c.supersedes
  refutations : m.schema ≠ .v1 → m.refutations = base.manifest.refutations ++ entry
  epoch : m.compaction_epoch =
    if base.manifest.schema = .v3 then base.manifest.compaction_epoch else none

namespace CommitRequest

variable (c : CommitRequest)

variable {H c} in
theorem manifest_child {base : Snapshot} {m : Manifest} (h : c.manifest H base = .ok m) :
    ∃ entry, Child H c base entry m := by
  rw [manifest] at h
  obtain ⟨entry, he, h⟩ := bind_ok.1 h
  obtain ⟨m', hb, h⟩ := bind_ok.1 h
  obtain ⟨_, hv, h⟩ := bind_ok.1 h
  obtain rfl := pure_ok.1 h
  have hvalid := validate_manifest_ok.1 hv
  rw [build_child_manifest] at hb
  obtain ⟨_, -, hb⟩ := bind_ok.1 hb
  obtain rfl := pure_ok.1 hb
  refine ⟨entry, he, hvalid, ?_, rfl, rfl, rfl, rfl, rfl, rfl, ?_, fun hs => ?_, rfl⟩
  · by_cases hs : base.manifest.schema = .v3 <;> simp [hs]
  · by_cases hs : base.manifest.supersedes ++ c.supersedes ≠ [] ∨ base.manifest.schema = .v3
    · rw [Manifest.supersedes, if_pos hs]
      rfl
    · rw [Manifest.supersedes, if_neg hs]
      rw [not_or, not_not] at hs
      exact hs.1.symm
  · have hu : (¬base.manifest.schema = .v3 ∧
        (base.manifest.schema = .v2 ∨ c.attempt.operation = .refute)) ∨
        base.manifest.schema = .v3 := by
      by_contra hno
      rw [not_or, not_and] at hno
      exact hs (by simp [hno.2, hno.1 hno.2])
    rw [Manifest.refutations, if_pos hu]
    rfl

/-! ## The writes around the move -/

/-- What is written before CURRENT moves. -/
def before_writes (base : Snapshot) (m : Manifest) : List (Write Path Document Failure) :=
  (c.object_writes H base ++ .create (.revision (candidate H m)) (.manifest m) ::
    c.stage_writes H m) ++
  [.replace (.journal c.txid)
      (.journal (c.journal H m .candidate_prepared (some (c.candidate_receipt_id H m)) none none)),
    .check fun d => do
      let current ← read_current d
      ensure (current = c.observed) (.storage "storage_io_failed")]

/-- What is written after it. -/
def after_writes (m : Manifest) : List (Write Path Document Failure) :=
  .replace .watermark (.watermark (watermark H m)) :: write_receipt H (c.current_receipt H m) ++
    c.audit_writes H m ++ c.observe_writes H m

variable {H c} {base : Snapshot} {m : Manifest}

theorem writes_split (h : c.manifest H base = .ok m) : c.writes H base =
    c.before_writes H base m ++ .replace .current (.current (candidate H m)) ::
      c.after_writes H m := by
  rw [writes, h]
  simp [publish_writes, move_writes, before_writes, after_writes]

theorem before_own : ∀ w ∈ c.before_writes H base m, Own H c.txid w := by
  intro w hw
  rw [before_writes, List.mem_append, List.mem_append, List.mem_cons] at hw
  obtain (hw | rfl | hw) | hw := hw
  · exact c.object_own base w hw
  · exact .plain ⟨rfl, rfl⟩ (by simp [Path.kind])
  · exact c.stage_own m w hw
  · simp only [List.mem_cons, List.not_mem_nil, or_false] at hw
    obtain rfl | rfl := hw
    · exact .journal _
    · exact .check _

theorem after_own : ∀ w ∈ c.after_writes H m, Own H c.txid w := by
  intro w hw
  rw [after_writes, List.mem_append, List.mem_append, List.mem_cons] at hw
  obtain ((rfl | hw) | hw) | hw := hw
  · exact .watermark _
  · exact write_receipt_own w hw
  · exact c.audit_own m w hw
  · exact c.observe_own m w hw

end CommitRequest

/-- No write of a transaction puts anything but one content under its own digest. -/
theorem Own.onlyCreates {H : Crypto} {t : Uuid} {w : Write Path Document Failure} (h : Own H t w)
    {p : Path} {x : Document} (hf : Filed H p x) : w.OnlyCreates p x :=
  (h.spares (fun _ => True) ∅).files trivial hf

/-- A write that moves CURRENT is the replacement of CURRENT. -/
def MovesCurrent (w : Write Path Document Failure) : Prop := w.target = some .current

namespace CommitRequest

variable {H} {c : CommitRequest} {base : Snapshot} {m : Manifest}

theorem write_receipt_target {r : Receipt} {p : Path} (hp : ∀ t id, p ≠ .receipt t id) :
    ∀ w ∈ write_receipt H r, w.target ≠ some p := by
  intro w hw ht
  rw [write_receipt, List.mem_cons, List.mem_singleton] at hw
  obtain rfl | rfl := hw
  · cases ht
  · exact hp _ _ (Option.some.inj ht).symm

theorem object_not_current : ∀ w ∈ c.object_writes H base, ¬MovesCurrent w := by
  intro w hw ht
  rw [object_writes, List.cons_append, List.cons_append, List.mem_cons, List.mem_append,
    List.mem_append] at hw
  obtain rfl | (hw | hw) | hw := hw
  · cases ht
  · obtain ⟨x, -, rfl⟩ := List.mem_map.1 hw
    cases ht
  · obtain ⟨v, -, rfl⟩ := List.mem_map.1 hw
    cases ht
  · rw [refute_writes] at hw
    split at hw
    · exact absurd hw List.not_mem_nil
    · simp only [List.mem_cons, List.not_mem_nil, or_false] at hw
      obtain rfl | rfl | rfl := hw <;> cases ht

theorem stage_not_current : ∀ w ∈ c.stage_writes H m, ¬MovesCurrent w := by
  intro w hw ht
  rw [stage_writes, List.mem_append] at hw
  obtain hw | hw := hw
  · simp only [List.mem_cons, List.not_mem_nil, or_false] at hw
    obtain rfl | rfl | rfl := hw <;> cases ht
  · exact write_receipt_target (by simp) w hw ht

theorem before_not_current : ∀ w ∈ c.before_writes H base m, ¬MovesCurrent w := by
  intro w hw
  rw [before_writes, List.mem_append, List.mem_append, List.mem_cons] at hw
  obtain (hw | rfl | hw) | hw := hw
  · exact object_not_current w hw
  · exact fun ht => by cases ht
  · exact stage_not_current w hw
  · simp only [List.mem_cons, List.not_mem_nil, or_false] at hw
    obtain rfl | rfl := hw <;> exact fun ht => by cases ht

theorem after_not_current : ∀ w ∈ c.after_writes H m, ¬MovesCurrent w := by
  intro w hw
  rw [after_writes, List.mem_append, List.mem_append, List.mem_cons] at hw
  obtain ((rfl | hw) | hw) | hw := hw
  · exact fun ht => by cases ht
  · exact write_receipt_target (by simp) w hw
  · simp only [audit_writes, List.mem_cons, List.not_mem_nil, or_false] at hw
    obtain rfl | rfl := hw <;> exact fun ht => by cases ht
  · simp only [observe_writes, List.mem_cons, List.not_mem_nil, or_false] at hw
    obtain rfl | rfl := hw <;> exact fun ht => by cases ht

/-- A journal of the candidate. -/
structure CandidateJournal (H : Crypto) (c : CommitRequest) (m : Manifest) (j : Journal) : Prop where
  attempt : j.attempt = c.attempt
  parent : j.parent = some c.observed
  policy : j.policy = c.policy
  candidate : j.candidate = some (candidate H m)
  stage_object : j.stage_object = some (c.stage_id H m)

theorem journal_candidate (c : CommitRequest) (m : Manifest) (stage : JournalStage)
    (candidate_receipt current_receipt observed_log : Option Digest) :
    CandidateJournal H c m (c.journal H m stage candidate_receipt current_receipt observed_log) :=
  ⟨rfl, rfl, rfl, rfl, rfl⟩

/-- From the candidate on, every journal that is written is one of the candidate. -/
theorem after_journal : ∀ w ∈ c.after_writes H m, w.target = some (.journal c.txid) →
    ∃ j, w = .replace (.journal c.txid) (.journal j) ∧ CandidateJournal H c m j := by
  intro w hw ht
  rw [after_writes, List.mem_append, List.mem_append, List.mem_cons] at hw
  obtain ((rfl | hw) | hw) | hw := hw
  · cases ht
  · exact absurd ht (write_receipt_target (by simp) w hw)
  · simp only [audit_writes, List.mem_cons, List.not_mem_nil, or_false] at hw
    obtain rfl | rfl := hw
    · cases ht
    · exact ⟨_, rfl, journal_candidate c m ..⟩
  · simp only [observe_writes, List.mem_cons, List.not_mem_nil, or_false] at hw
    obtain rfl | rfl := hw
    · cases ht
    · exact ⟨_, rfl, journal_candidate c m ..⟩

end CommitRequest

/-! ## What a commit leaves -/

/-- What a commit that has moved CURRENT leaves. -/
structure Moved (c : CommitRequest) (base : Snapshot) (m : Manifest) (d d' : Disk) : Prop where
  manifest : c.manifest H base = .ok m
  before : read_current d = .ok c.observed
  after : read_current d' = .ok (CommitRequest.candidate H m)
  created : ∀ {p x}, Filed H p x → .create p x ∈ c.object_writes H base ++
    .create (.revision (CommitRequest.candidate H m)) (.manifest m) :: c.stage_writes H m → d'.read p = some x
  kept : ∀ {p x}, Filed H p x → d.read p = some x → d'.read p = some x
  journal : ∃ j, d'.read (.journal c.txid) = some (.journal j) ∧ c.CandidateJournal H m j

variable {H}

theorem Moved.read_candidate {c : CommitRequest} {base : Snapshot} {m : Manifest} {d d' : Disk}
    (h : Moved H c base m d d') : read_manifest H d' (CommitRequest.candidate H m) = .ok m :=
  read_manifest_iff.2 ⟨h.created ⟨rfl, rfl⟩ (List.mem_append_right _ List.mem_cons_self), rfl⟩

namespace CommitRequest

/-- A commit moves CURRENT from its base to its candidate, or not at all. -/
theorem run_moves (c : CommitRequest) (base : Snapshot) (f : Option Fault)
    (d : Disk) : (perform (storage H) (c.writes H base) f d).1.read .current = d.read .current ∨
      ∃ m, Moved H c base m d (perform (storage H) (c.writes H base) f d).1 := by
  have hq : ¬(storage H).aside .current := not_aside (by simp)
  cases hm : c.manifest H base with
  | error e =>
    refine .inl (perform_frame f (fun w hw => ?_) hq)
    rw [writes, hm, List.mem_append, List.mem_singleton] at hw
    obtain hw | rfl := hw
    · exact object_not_current w hw
    · exact fun ht => by cases ht
  | ok m =>
    by_cases hsame : (perform (storage H) (c.writes H base) f d).1.read .current = d.read .current
    · exact .inl hsame
    refine .inr ⟨m, ?_⟩
    rw [writes_split hm] at hsame ⊢
    obtain ⟨e, he, hrun⟩ := perform_reached before_not_current hq hsame
    rw [hrun] at hsame ⊢
    set d' := (perform (storage H) (.replace .current (.current (CommitRequest.candidate H m)) ::
      c.after_writes H m) (faultAfter (c.before_writes H base m).length f) e).1 with hd'
    have hcur : e.read .current = d.read .current := execs_frame he before_not_current hq
    have hown : ∀ w ∈ .replace .current (.current (CommitRequest.candidate H m)) :: c.after_writes H m,
        Own H c.txid w := by
      intro w hw
      obtain rfl | hw := List.mem_cons.1 hw
      · exact .current _
      · exact after_own w hw
    obtain ⟨e₁, he₁, htail⟩ := execs_append.1 he
    obtain ⟨e₂, he₂, htail⟩ := execs_cons.1 htail
    obtain ⟨e₃, he₃, htail⟩ := execs_cons.1 htail
    obtain rfl : e₃ = e := Except.ok.inj htail
    -- the last write before the move has seen the base
    have hcheck : read_current e₂ = .ok c.observed ∧ e₂ = e₃ := by
      rw [Write.exec] at he₃
      cases hr : read_current e₂ with
      | error err => rw [hr] at he₃; cases he₃
      | ok r =>
        rw [hr] at he₃
        have hb : ((Except.ok r : Except Failure Digest) >>= fun current =>
          ensure (current = c.observed) (.storage "storage_io_failed")) =
            ensure (r = c.observed) (.storage "storage_io_failed") := rfl
        rw [hb] at he₃
        by_cases hrc : r = c.observed
        · rw [ensure, if_pos (by simpa using hrc)] at he₃
          cases he₃
          exact ⟨by rw [hrc], rfl⟩
        · rw [ensure, if_neg (by simpa using hrc)] at he₃
          cases he₃
    obtain ⟨hread, rfl⟩ := hcheck
    refine ⟨hm, ?_, ?_, fun {p x} hf hmem => ?_, fun {p x} hf hd => ?_, ?_⟩
    · rw [read_current_ok] at hread ⊢
      rw [← hcur, hread]
    · have hmoved : d'.read .current = e₂.read .current ∨
          d'.read .current = some (.current (CommitRequest.candidate H m)) := by
        refine perform_invariant (I := fun x : Disk => x.read .current = e₂.read .current ∨
          x.read .current = some (.current (CommitRequest.candidate H m))) _ (fun w hw => ?_) (.inl rfl)
        obtain rfl | hw := List.mem_cons.1 hw
        · exact Write.keeps_replace (I := fun x => x = e₂.read .current ∨
            x = some (.current (CommitRequest.candidate H m))) (.inr rfl)
        · have hkeep := Write.keeps_of_target (after_not_current w hw) hq (I := fun x =>
            x = e₂.read .current ∨ x = some (.current (CommitRequest.candidate H m)))
          exact hkeep
      rw [read_current_ok]
      exact hmoved.resolve_left fun h => hsame (h.trans hcur)
    · have hx := execs_created he (List.mem_append_left _ hmem)
        (fun w hw => (before_own w hw).onlyCreates hf) (not_aside_of_kind hf.1)
      exact perform_content _ (fun w hw => (hown w hw).onlyCreates hf) (not_aside_of_kind hf.1) hx
    · have hx := execs_content he (fun w hw => (before_own w hw).onlyCreates hf)
        (not_aside_of_kind hf.1) hd
      exact perform_content _ (fun w hw => (hown w hw).onlyCreates hf) (not_aside_of_kind hf.1) hx
    · have hj : e₂.read (.journal c.txid) = some (.journal (c.journal H m .candidate_prepared
          (some (c.candidate_receipt_id H m)) none none)) := Write.exec_target (.inl rfl) he₂
      have hn : ¬(storage H).aside (.journal c.txid) := not_aside (by simp)
      let J (x : Option Document) : Prop := ∃ j, x = some (.journal j) ∧ c.CandidateJournal H m j
      refine perform_invariant (I := fun x : Disk => J (x.read (.journal c.txid))) _ (fun w hw => ?_)
        ⟨_, hj, journal_candidate c m ..⟩
      by_cases ht : w.target = some (.journal c.txid)
      · obtain rfl | hw := List.mem_cons.1 hw
        · cases ht
        · obtain ⟨j, rfl, hcj⟩ := after_journal w hw ht
          exact Write.keeps_replace (I := J) ⟨j, rfl, hcj⟩
      · exact Write.keeps_of_target ht hn

end CommitRequest

/-- A governed call moves CURRENT from the base of its plan to a candidate, or not at
    all. -/
theorem Governed.moves (g : Governed) (incident : Option Incident) (d : Disk) :
    (g.commit H incident d).1.read .current = d.read .current ∨
      ∃ d₀ c base m, Spends H d g d₀ ∧ Requests H d g d₀ c ∧ c.prepare H d₀ = .ok (.inr base) ∧
        Moved H c base m d₀ (g.commit H incident d).1 := by
  obtain ⟨d₀, hs, h⟩ := g.effect (H := H) incident d
  have h₀ : d₀.read .current = d.read .current := hs.read (by simp) (by simp)
  obtain h | ⟨c, rest, hc, h⟩ := h
  · exact .inl (by rw [h, h₀])
  · obtain h' | ⟨base, hp, h'⟩ := commit_locked_cases (H := H) c rest d₀
    · exact .inl (by rw [h, h', h₀])
    · obtain hrun | ⟨m, hm⟩ := c.run_moves (H := H) base (rest.map (·.fault)) d₀
      · exact .inl (by rw [h, h', hrun, h₀])
      · refine .inr ⟨d₀, c, base, m, hs, hc, hp, ?_⟩
        rw [h, h']
        exact hm

/-! ## The writes of a transaction -/

variable (H) in
/-- A write of a transaction. Its manifests name the transaction. -/
structure Signed (t : Uuid) (w : Write Path Document Failure) : Prop where
  own : Own H t w
  manifest : ∀ {p m}, w = .create p (.manifest m) → m.transaction_id = .uuid t

namespace CommitRequest

variable {c : CommitRequest} {base : Snapshot} {m : Manifest}

theorem write_receipt_not_manifest {r : Receipt} {p : Path} {m : Manifest} :
    ∀ w ∈ write_receipt H r, w ≠ .create p (.manifest m) := by
  intro w hw h
  rw [write_receipt, List.mem_cons, List.mem_singleton] at hw
  obtain rfl | rfl := hw <;> cases h

theorem object_not_manifest {p : Path} {m : Manifest} :
    ∀ w ∈ c.object_writes H base, w ≠ .create p (.manifest m) := by
  intro w hw h
  rw [object_writes, List.cons_append, List.cons_append, List.mem_cons, List.mem_append,
    List.mem_append] at hw
  obtain rfl | (hw | hw) | hw := hw
  · cases h
  · obtain ⟨x, -, rfl⟩ := List.mem_map.1 hw
    cases h
  · obtain ⟨v, -, rfl⟩ := List.mem_map.1 hw
    cases h
  · rw [refute_writes] at hw
    split at hw
    · exact absurd hw List.not_mem_nil
    · simp only [List.mem_cons, List.not_mem_nil, or_false] at hw
      obtain rfl | rfl | rfl := hw <;> cases h

/-- The only manifest that is written is the candidate. -/
theorem publish_manifest {p : Path} {m' : Manifest} :
    ∀ w ∈ c.publish_writes H m, w = .create p (.manifest m') → m' = m := by
  rintro w hw rfl
  simp only [publish_writes, List.cons_append, List.mem_cons, List.mem_append] at hw
  obtain h | ((hw | hw) | hw) | hw := hw
  · cases h
    rfl
  · rw [stage_writes, List.mem_append] at hw
    obtain hw | hw := hw
    · simp at hw
    · exact absurd rfl (write_receipt_not_manifest _ hw)
  · rw [move_writes, List.mem_append] at hw
    obtain hw | hw := hw
    · simp at hw
    · exact absurd rfl (write_receipt_not_manifest _ hw)
  · simp [audit_writes] at hw
  · simp [observe_writes] at hw

theorem writes_signed (c : CommitRequest) (base : Snapshot) :
    ∀ w ∈ c.writes H base, Signed H c.txid w := by
  refine fun w hw => ⟨c.writes_own base w hw, fun {p m'} h => ?_⟩
  rw [writes, List.mem_append] at hw
  obtain hw | hw := hw
  · exact absurd h (object_not_manifest w hw)
  · cases hm : c.manifest H base with
    | error e =>
      rw [hm, List.mem_singleton] at hw
      rw [hw] at h
      cases h
    | ok m =>
      rw [hm] at hw
      obtain rfl := publish_manifest w hw h
      obtain ⟨entry, hchild⟩ := manifest_child hm
      exact hchild.transaction_id

end CommitRequest

/-- What every write of a transaction keeps, a call under its id keeps, wherever it
    stops. -/
theorem Governed.keeps {I : Disk → Prop} {t : Uuid} {g : Governed} (ht : g.txid = some t)
    (hI : ∀ w, Signed H t w → w.Keeps (storage H) I) (incident : Option Incident) {d : Disk}
    (hd : I d) : I (g.commit H incident d).1 := by
  obtain ⟨d₀, hs, h⟩ := g.effect (H := H) incident d
  have h₀ : I d₀ := by
    cases hs with
    | nothing => exact hd
    | receipt verified attests f =>
      refine perform_invariant f (fun w hw => hI w ?_) hd
      rw [consume_tombstone, List.mem_cons, List.mem_singleton] at hw
      obtain rfl | rfl := hw
      · exact ⟨.check _, fun h => by cases h⟩
      · exact ⟨.tombstone _, fun h => by cases h⟩
  obtain h | ⟨c, rest, hc, h⟩ := h
  · rw [h]
    exact h₀
  · rw [h]
    obtain h' | ⟨base, -, h'⟩ := commit_locked_cases (H := H) c rest d₀
    · rw [h']
      exact h₀
    · rw [h']
      have hct : c.txid = t := Option.some.inj (hc.binds.2.1.symm.trans ht)
      exact perform_invariant _ (fun w hw => hI w (hct ▸ c.writes_signed base w hw)) h₀

/-- A call without an id writes nothing. -/
theorem Governed.commit_of_no_id {g : Governed} (h : g.txid = none) (incident : Option Incident)
    (d : Disk) : (g.commit H incident d).1 = d := by
  obtain ⟨d₀, hs, hd⟩ := g.effect (H := H) incident d
  have h₀ : d₀ = d := by
    cases hs with
    | nothing => rfl
    | receipt verified attests f => cases h
  obtain hd | ⟨c, rest, hc, -⟩ := hd
  · exact hd.trans h₀
  · rw [hc.binds.2.1] at h
    cases h

end AnKla
