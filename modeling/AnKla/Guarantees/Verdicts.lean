import AnKla.Guarantees.Updates
import AnKla.Revisions.Lineage

/-!
# Verdicts on what was not committed

A transaction that left evidence, but whose candidate is on no chain of CURRENT, is
inspected again and again while other transactions commit.

* `Untouched`: what a disk keeps of a transaction while others write.
* `Governed.chain`: a call adds at most a revision of its own to the chain of CURRENT.
* `Undecided`: a transaction with its evidence, whose candidate is not among these.
* `not_committed_iff`: when it is inspected, it is reported not to be committed
  exactly as long as CURRENT is its base.
-/

namespace AnKla

open PyJson Durable

variable (H : Crypto)

/-! ## What others leave alone -/

/-- What a disk keeps of a transaction while others write: its journal, its stages and
    its manifests, and every filed object. -/
structure Untouched (t : Uuid) (d e : Disk) : Prop where
  journal : e.read (.journal t) = d.read (.journal t)
  stages : ∀ id, e.read (.stage t id) = d.read (.stage t id)
  manifests : ∀ {id m}, m.transaction_id = .uuid t →
    (read_manifest H e id = .ok m ↔ read_manifest H d id = .ok m)
  files : ∀ {p c}, Filed H p c → d.read p = some c → e.read p = some c

variable {H}

/-- A write under the id of another transaction neither adds nor removes a manifest. -/
theorem Signed.keeps_manifest {t : Uuid} {w : Write Path Document Failure} (h : Signed H t w)
    {id : Digest} {m : Manifest} (hm : m.transaction_id ≠ .uuid t) {R : Prop} :
    w.Keeps (storage H) fun e => (read_manifest H e id = .ok m ↔ R) := by
  intro e he
  by_cases ht : w.target = some (.revision id)
  · -- the content of the write has the digest that it is filed under
    have hdigest : H.digest (.manifest m) ≠ id := by
      intro hd
      have hf : Filed H (.revision id) (.manifest m) := ⟨rfl, congrArg (fun x => [x]) hd.symm⟩
      exact hm (h.manifest (h.own.onlyCreates hf ht))
    have hno (e' : Disk) : ¬read_manifest H e' id = .ok m := fun hr => hdigest (read_manifest_iff.1 hr).2
    have hR : ¬R := fun hr => hno e (he.2 hr)
    exact ⟨fun e' _ => iff_of_false (hno e') hR, fun pt => iff_of_false (hno _) hR⟩
  · have hq : ¬(storage H).aside (.revision id) := not_aside (by simp)
    refine ⟨fun e' hexec => ?_, fun pt => ?_⟩
    · show read_manifest H e' id = .ok m ↔ R
      rw [read_manifest_congr (Write.exec_frame hexec ht hq)]
      exact he
    · show read_manifest H (w.left (storage H) pt e) id = .ok m ↔ R
      rw [read_manifest_congr (Write.left_frame ht hq)]
      exact he

/-- A write under the id of another transaction leaves this one alone. -/
theorem Signed.keeps_untouched {t t' : Uuid} {w : Write Path Document Failure} (h : Signed H t' w)
    (hne : t ≠ t') (d : Disk) : w.Keeps (storage H) fun e => Untouched H t d e := by
  have hsp : Spares H (· ≠ t') (fun _ => True) ∅ w := h.own.spares _ _
  have hj : w.target ≠ some (.journal t) := by
    intro ht
    obtain ⟨j, j', -, hj, -⟩ := hsp.journals hne ht
    cases hj
  have hstep {e e' : Disk} (he : Untouched H t d e)
      (hk : ∀ {I : Disk → Prop}, w.Keeps (storage H) I → I e → I e') : Untouched H t d e' := by
    refine ⟨?_, fun id => ?_, fun {id m} hm => ?_, fun hf hd => ?_⟩
    · exact hk (Write.keeps_read hj (not_aside (by simp))) he.journal
    · exact hk (Write.keeps_read (hsp.stages hne id) (not_aside (by simp))) (he.stages id)
    · refine hk (h.keeps_manifest ?_) (he.manifests hm)
      rw [hm]
      exact fun heq => hne (Txid.uuid.inj heq)
    · exact hk (Write.keeps_content (h.own.onlyCreates hf) (not_aside_of_kind hf.1)) (he.files hf hd)
  intro e he
  exact ⟨fun e' hexec => hstep he fun hk hi => (hk e hi).1 e' hexec,
    fun pt => hstep he fun hk hi => (hk e hi).2 pt⟩

namespace Untouched

variable {t : Uuid} {d e : Disk}

theorem refl : Untouched H t d d := ⟨rfl, fun _ => rfl, fun _ => Iff.rfl, fun _ h => h⟩

variable (h : Untouched H t d e)
include h

theorem readable_journal : readable_journal e t = readable_journal d t := by
  rw [AnKla.readable_journal, AnKla.readable_journal, AnKla.journal, AnKla.journal, h.journal]

theorem stage_evidence (c : Digest) : stage_evidence H e t c = stage_evidence H d t c := by
  have hlist : (AnKla.stages t).listing e = (AnKla.stages t).listing d := by
    refine Dir.listing_congr fun id => ?_
    rw [show (AnKla.stages t).path id = .stage t id from rfl, h.stages id]
  have hread (id : Digest) : read_stage H e t id = read_stage H d t id := by
    rw [read_stage, read_stage, read_json_object, read_json_object, h.stages id]
  simp only [AnKla.stage_evidence, hlist, hread]

theorem manifest_candidates : manifest_candidates H e t = manifest_candidates H d t := by
  rw [manifest_candidates_eq, manifest_candidates_eq]
  refine Dir.listing_filter_congr fun id => ?_
  rw [is_candidate_iff, is_candidate_iff]
  exact exists_congr fun m => and_congr_right fun hm => h.manifests hm

theorem recovered_journal (cs : List Digest) :
    recovered_journal H e t cs = recovered_journal H d t cs := by
  simp only [AnKla.recovered_journal, AnKla.journal, h.journal, h.stage_evidence]

theorem read_manifest {id : Digest} {m : Manifest} (hm : read_manifest H d id = .ok m) :
    AnKla.read_manifest H e id = .ok m := by
  obtain ⟨hr, hd⟩ := read_manifest_iff.1 hm
  exact read_manifest_iff.2 ⟨h.files ⟨rfl, congrArg (fun x => [x]) hd.symm⟩ hr, hd⟩

end Untouched

/-! ## Commits on the chain -/

/-- What a call does to the chain of CURRENT: nothing, or it adds a revision of its own
    transaction. -/
theorem Governed.chain {g : Governed} {incident : Option Incident} {d : Disk} (hd : Complete H d)
    (hk : ∀ {id x}, read_manifest H d id = .ok x →
      read_manifest H (g.commit H incident d).1 id = .ok x) :
    Complete H (g.commit H incident d).1 ∧
      (∀ id, OnChain H d id → OnChain H (g.commit H incident d).1 id) ∧
      ∀ id, OnChain H (g.commit H incident d).1 id → OnChain H d id ∨
        ∃ t m, g.txid = some t ∧ m.transaction_id = .uuid t ∧
          read_manifest H (g.commit H incident d).1 id = .ok m := by
  obtain ⟨head, m, hcur, hm, hroot⟩ := hd
  obtain hsame | ⟨d₀, c, base, m', hspends, hreq, hprep, hmoved⟩ := g.moves (H := H) incident d
  · have hcur' : read_current (g.commit H incident d).1 = .ok head := by
      rw [read_current, hsame]
      exact hcur
    refine ⟨⟨head, m, hcur', hk hm, hroot.mono hk⟩, ?_, ?_⟩
    · rintro id ⟨head', x, y, hx, hr, hb⟩
      obtain rfl := Except.ok.inj (hcur.symm.trans hx)
      exact ⟨head, x, y, hcur', hk hr, hb.mono hk⟩
    · rintro id ⟨head', x, y, hx, hr, hb⟩
      obtain rfl := Except.ok.inj (hcur'.symm.trans hx)
      obtain rfl := Except.ok.inj ((hk hm).symm.trans hr)
      exact .inl ⟨head, m, y, hcur, hm, hroot.ancestors hk hb⟩
  · have hbase : head = c.observed := by
      have h₀ : read_current d₀ = .ok c.observed := hmoved.before
      rw [read_current, hspends.read (by simp) (by simp)] at h₀
      exact Except.ok.inj (hcur.symm.trans h₀)
    obtain ⟨entry, hchild⟩ := CommitRequest.manifest_child hmoved.manifest
    have hparent : m'.parent = some head := hbase ▸ hchild.parent
    have hnew := hmoved.read_candidate
    refine ⟨⟨_, m', hmoved.after, hnew, .step hparent (hk hm) (hroot.mono hk)⟩, ?_, ?_⟩
    · rintro id ⟨head', x, y, hx, hr, hb⟩
      obtain rfl := Except.ok.inj (hcur.symm.trans hx)
      exact ⟨_, m', y, hmoved.after, hnew, .step hparent (hk hr) (hb.mono hk)⟩
    · rintro id ⟨head', x, y, hx, hr, hb⟩
      obtain rfl := Except.ok.inj (hmoved.after.symm.trans hx)
      obtain rfl := Except.ok.inj (hnew.symm.trans hr)
      cases hb with
      | here => exact .inr ⟨c.txid, m', hreq.binds.2.1, hchild.transaction_id, hnew⟩
      | @step _ _ parent p _ _ up read below =>
        obtain rfl := Option.some.inj (hparent.symm.trans up)
        obtain rfl := Except.ok.inj ((hk hm).symm.trans read)
        exact .inl ⟨head, m, y, hcur, hm, hroot.ancestors hk below⟩

/-- A call of another transaction leaves a transaction alone. -/
theorem Governed.untouched {g : Governed} {t : Uuid} (hg : g.txid ≠ some t)
    (incident : Option Incident) (d : Disk) : Untouched H t d (g.commit H incident d).1 := by
  cases ht : g.txid with
  | none =>
    rw [Governed.commit_of_no_id ht]
    exact .refl
  | some t' =>
    have hne : t ≠ t' := fun heq => hg (heq ▸ ht)
    exact Governed.keeps (I := fun e : Disk => Untouched H t d e) ht
      (fun w hw => hw.keeps_untouched hne d) incident .refl

/-! ## Undecided transactions -/

variable (H) in
/-- A transaction with a readable journal or stage. Its base is CURRENT or an ancestor
    of CURRENT, and its candidate was never written or is a manifest outside of the chain. -/
structure Undecided (d : Disk) (t : Uuid) (j : Journal) (base : Digest) : Prop where
  recovered : recovered_journal H d t (manifest_candidates H d t) = some j
  single : (manifest_candidates H d t).length ≤ 1
  parent : j.parent.or j.attempt.base_revision = some base
  complete : Complete H d
  base : OnChain H d base
  candidate : ∀ c, candidate_of H d t j = some c → c ∈ manifest_candidates H d t ∧ ¬OnChain H d c

variable (H) in
/-- If the transaction refutes and has a candidate, its stage fits its journal on its
    base. -/
def Staged (d : Disk) (t : Uuid) (j : Journal) (base : Digest) : Prop :=
  j.attempt.operation = .refute → ∀ c, candidate_of H d t j = some c →
    check_refute_stage H d t c j.attempt (readable_journal d t) (some base) = .ok ()

variable (H) in
/-- An inspection reports that the transaction is not committed, on the authority of
    its parent. -/
def ReportsNotCommitted (d : Disk) (t : Uuid) : Prop :=
  ∃ o, inspect_transaction H d t = .ok o ∧ o.committed = some false ∧
    o.authority_state = .parent_lineage_authoritative ∧
    (o.state = .not_committed ∨ o.state = .durability_incomplete)

variable {t : Uuid} {j : Journal} {base : Digest} {d : Disk}

/-- A transaction stays undecided while others commit, and its stage stays as it is. -/
theorem Undecided.commit (h : Undecided H d t j base) {g : Governed} (hg : g.txid ≠ some t)
    (incident : Option Incident) : Undecided H (g.commit H incident d).1 t j base ∧
      (Staged H (g.commit H incident d).1 t j base ↔ Staged H d t j base) := by
  have hun := g.untouched (H := H) hg incident d
  obtain ⟨hcomplete, hon, hback⟩ := Governed.chain h.complete hun.read_manifest
  have hcs := hun.manifest_candidates
  have hof : candidate_of H (g.commit H incident d).1 t j = candidate_of H d t j := by
    rw [candidate_of, candidate_of, hcs]
  refine ⟨⟨?_, ?_, h.parent, hcomplete, hon _ h.base, fun c hc => ?_⟩, ?_⟩
  · rw [hcs, hun.recovered_journal]
    exact h.recovered
  · rw [hcs]
    exact h.single
  · obtain ⟨hmem, hout⟩ := h.candidate c (hof ▸ hc)
    rw [hcs]
    refine ⟨hmem, fun hc' => ?_⟩
    obtain hc' | ⟨t', m, ht', hm, hr⟩ := hback c hc'
    · exact hout hc'
    · obtain ⟨m', hm', hr'⟩ := mem_manifest_candidates.1 hmem
      obtain rfl := Except.ok.inj (hr.symm.trans (hun.read_manifest hr'))
      rw [hm] at hm'
      exact hg (ht'.trans (congrArg some (Txid.uuid.inj hm')))
  · simp only [Staged, hof, check_refute_stage, hun.stage_evidence, hun.readable_journal]

/-- An inspection of an undecided transaction reports that it is not committed exactly
    when CURRENT is its base. -/
theorem Undecided.reports_iff (h : Undecided H d t j base) :
    ReportsNotCommitted H d t ↔ read_current d = .ok base ∧ Staged H d t j base := by
  have hout : (candidate_relation H d (candidate_of H d t j) (current? d)).authoritative =
      false := by
    rw [Bool.eq_false_iff]
    intro ha
    cases hcand : candidate_of H d t j with
    | none =>
      rw [hcand] at ha
      cases ha
    | some c =>
      obtain ⟨hmem, hnot⟩ := h.candidate c hcand
      obtain ⟨m, -, hm⟩ := mem_manifest_candidates.1 hmem
      rw [hcand] at ha
      exact hnot (onChain_of_authoritative hm ha)
  have hcurrent : current? d = some base ↔ read_current d = .ok base := by
    rw [current?]
    cases read_current d <;> simp [Except.toOption]
  obtain ⟨audit, code, hins⟩ := inspect_transaction_ok h.single h.recovered
  rw [ReportsNotCommitted]
  constructor
  · rintro ⟨o, ho, hverdict⟩
    obtain ⟨hcheck, rfl⟩ := (hins o).1 ho
    have hbase := (make_outcome_of_not_authoritative hout).1 hverdict
    rw [h.parent] at hbase
    exact ⟨hcurrent.1 hbase, by rwa [hbase] at hcheck⟩
  · rintro ⟨hread, hstaged⟩
    have hbase := hcurrent.2 hread
    refine ⟨_, (hins _).2 ⟨?_, rfl⟩, (make_outcome_of_not_authoritative hout).2 ?_⟩
    · rw [hbase]
      exact hstaged
    · rw [h.parent, hbase]

/-! ## Runs -/

/-- From a state in which a transaction is undecided, whatever other transactions
    commit, an inspection of it reports that it is not committed exactly when CURRENT is
    still its base. -/
theorem not_committed_iff {s : World} {es : List Event} (h : Undecided H s.disk t j base)
    (others : ∀ n g incident, Event.commit n g incident ∈ es → g.txid ≠ some t) :
    Undecided H (s.run H es).disk t j base ∧ (ReportsNotCommitted H (s.run H es).disk t ↔
      read_current (s.run H es).disk = .ok base ∧ Staged H s.disk t j base) := by
  have hrun : Undecided H (s.run H es).disk t j base ∧
      (Staged H (s.run H es).disk t j base ↔ Staged H s.disk t j base) := by
    refine World.run_invariant (I := fun d : Disk => Undecided H d t j base ∧
      (Staged H d t j base ↔ Staged H s.disk t j base)) others (fun g hg incident d hd => ?_)
      ⟨h, Iff.rfl⟩
    obtain ⟨hu, hs⟩ := hd.1.commit hg incident
    exact ⟨hu, hs.trans hd.2⟩
  exact ⟨hrun.1, hrun.1.reports_iff.trans (and_congr_right fun _ => hrun.2)⟩

/-! ## A lost commit

The store of `OneFact` holds the journal of a commit that died. Another client commits. -/

namespace OneFact

theorem lost_evidence : opened.read (.journal 9) = some (.journal lost_journal) ∧
    manifest_candidates host opened 9 = [] ∧ read_current opened = .ok 5 ∧
    read_manifest host opened 5 = .ok genesis := by
  decide +kernel

theorem world_current : read_current world.disk = .ok 5 := by
  rw [world_disk, store_eq]
  exact lost_evidence.2.2.1

theorem lost_undecided : Undecided host world.disk 9 lost_journal 5 := by
  obtain ⟨hj, hcs, hcur, hm⟩ := lost_evidence
  rw [world_disk, store_eq]
  have hof : candidate_of host opened 9 lost_journal = none := by
    rw [candidate_of, hcs]
    rfl
  refine ⟨?_, ?_, rfl, ⟨5, genesis, hcur, hm, .root rfl⟩, ⟨5, genesis, genesis, hcur, hm, .here⟩, ?_⟩
  · have hread : journal opened 9 = some (some lost_journal) := by
      rw [journal, hj]
      rfl
    simp only [recovered_journal, hread]
  · rw [hcs]
    exact Nat.zero_le 1
  · intro c hc
    rw [hof] at hc
    cases hc

theorem lost_staged : Staged host world.disk 9 lost_journal 5 := fun hop => by cases hop

theorem others : ∀ n g incident, Event.commit n g incident ∈ [Event.commit 0 (.write call) none] →
    g.txid ≠ some 9 := by
  intro n g incident h
  rw [List.mem_singleton] at h
  cases h
  decide

theorem advanced : read_current (world.run host [.commit 0 (.write call) none]).disk ≠ .ok 5 := by
  have hrun : world.run host [.commit 0 (.write call) none] =
      world.step host (.commit 0 (.write call) none) := rfl
  rw [hrun, World.step_commit none (world_seen 0), world_disk, read_current, moves.2]
  simp

end OneFact

/-- The lost commit is reported not to be committed, as long as nothing is committed. -/
theorem lost_not_committed : ReportsNotCommitted OneFact.host OneFact.world.disk 9 := by
  have hnone : ∀ n g incident, Event.commit n g incident ∈ ([] : List Event) →
      g.txid ≠ some 9 := fun _ _ _ h => absurd h List.not_mem_nil
  exact (not_committed_iff OneFact.lost_undecided hnone).2.2
    ⟨OneFact.world_current, OneFact.lost_staged⟩

/-- A transaction is reported not to be committed. Another transaction commits, and it is
    not reported any more. -/
theorem verdict_lost : ∃ (H : Crypto) (s : World) (es : List Event) (t : Uuid) (j : Journal)
    (base : Digest), Undecided H s.disk t j base ∧ ReportsNotCommitted H s.disk t ∧
      (∀ n g incident, Event.commit n g incident ∈ es → g.txid ≠ some t) ∧
      ¬ReportsNotCommitted H (s.run H es).disk t := by
  refine ⟨OneFact.host, OneFact.world, [.commit 0 (.write OneFact.call) none], 9,
    OneFact.lost_journal, 5, OneFact.lost_undecided, ?_, OneFact.others, fun h => ?_⟩
  · exact OneFact.lost_undecided.reports_iff.2 ⟨OneFact.world_current, OneFact.lost_staged⟩
  · refine OneFact.advanced ?_
    have hu : Undecided OneFact.host (OneFact.world.run OneFact.host
        [.commit 0 (.write OneFact.call) none]).disk 9 OneFact.lost_journal 5 := by
      rw [World.run, World.run, World.step_commit none (OneFact.world_seen 0)]
      exact (OneFact.lost_undecided.commit (by decide) none).1
    exact (hu.reports_iff.1 h).1

end AnKla
