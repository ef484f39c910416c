import AnKla.Frame.Agrees
import AnKla.Transactions.Inspect

/-!
# The lineage of CURRENT

* `OnChain`, `Rooted`, `Complete`: the revisions that CURRENT leads to, and whether
  they are all there.
* `walk_of_chain`: the walk from a valid revision visits its ancestors.
* `onChain_of_authoritative`, `relation_of_chain`: what the relation of a candidate to
  CURRENT says.
* `inspect_transaction_ok`: what an inspection reports.
-/

namespace AnKla

open PyJson Durable

variable {H : Crypto}

/-! ## The revisions that CURRENT leads to -/

variable (H) in
/-- A revision whose ancestors are all there, back to one without a parent. -/
inductive Rooted (d : Disk) : Manifest → Prop
  | root {m} (parent : m.parent = none) : Rooted d m
  | step {m parent p} (up : m.parent = some parent) (read : read_manifest H d parent = .ok p)
      (rooted : Rooted d p) : Rooted d m

variable (H) in
/-- A revision is CURRENT, or one of its ancestors. -/
def OnChain (d : Disk) (id : Digest) : Prop :=
  ∃ head m m', read_current d = .ok head ∧ read_manifest H d head = .ok m ∧ Below H d head m id m'

theorem Rooted.mono {d e : Disk} {m : Manifest} (h : Rooted H d m)
    (hk : ∀ {id x}, read_manifest H d id = .ok x → read_manifest H e id = .ok x) : Rooted H e m := by
  induction h with
  | root parent => exact .root parent
  | step up read _ ih => exact .step up (hk read) ih

theorem Below.mono {d e : Disk} {id id' : Digest} {m m' : Manifest} (h : Below H d id m id' m')
    (hk : ∀ {id x}, read_manifest H d id = .ok x → read_manifest H e id = .ok x) :
    Below H e id m id' m' := by
  induction h with
  | here => exact .here
  | step up read _ ih => exact .step up (hk read) ih

/-- A revision whose ancestors are all there has no others once more is there. -/
theorem Rooted.ancestors {d e : Disk} {id id' : Digest} {m m' : Manifest} (h : Rooted H d m)
    (hk : ∀ {id x}, read_manifest H d id = .ok x → read_manifest H e id = .ok x)
    (hb : Below H e id m id' m') : Below H d id m id' m' := by
  induction h generalizing id with
  | root parent =>
    cases hb with
    | here => exact .here
    | step up => rw [parent] at up; cases up
  | @step m parent p up read _ ih =>
    cases hb with
    | here => exact .here
    | @step _ _ parent' p' _ _ up' read' below =>
      obtain rfl := Option.some.inj (up.symm.trans up')
      obtain rfl := Except.ok.inj ((hk read).symm.trans read')
      exact .step up read (ih below)

/-- The revision that a chain ends in is there. -/
theorem Below.read {d : Disk} {id id' : Digest} {m m' : Manifest}
    (hm : read_manifest H d id = .ok m) (h : Below H d id m id' m') :
    read_manifest H d id' = .ok m' := by
  induction h with
  | here => exact hm
  | step _ read _ ih => exact ih read

theorem Below.trans {d : Disk} {id id' id'' : Digest} {m m' m'' : Manifest}
    (h : Below H d id m id' m') (h' : Below H d id' m' id'' m'') : Below H d id m id'' m'' := by
  induction h with
  | here => exact h'
  | step up read _ ih => exact .step up read (ih h')

/-- The parents of a revision lead to one root. -/
theorem Below.root_unique {d : Disk} {id id' id'' : Digest} {m m' m'' : Manifest}
    (h : Below H d id m id' m') (h' : Below H d id m id'' m'') (hp : m'.parent = none)
    (hp' : m''.parent = none) : m' = m'' := by
  induction h with
  | here =>
    cases h' with
    | here => rfl
    | step up => rw [hp] at up; cases up
  | step up read _ ih =>
    cases h' with
    | here => rw [hp'] at up; cases up
    | step up' read' below =>
      obtain rfl := Option.some.inj (up.symm.trans up')
      obtain rfl := Except.ok.inj (read.symm.trans read')
      exact ih below hp

/-- What a walk visits is an ancestor of where it starts. -/
theorem below_of_mem_walk {d : Disk} {n : ℕ} {id : Digest} {child : Option ℕ} {seen : List Digest}
    {x : Digest × Manifest} {m : Manifest} (hm : read_manifest H d id = .ok m)
    (h : x ∈ (walk_loop H d n id child seen).1) : Below H d id m x.1 x.2 := by
  induction n generalizing id child seen m with
  | zero => exact absurd h List.not_mem_nil
  | succ n ih =>
    rw [walk_loop] at h
    simp only [hm] at h
    split_ifs at h
    · exact absurd h List.not_mem_nil
    · cases hp : m.parent with
      | none =>
        rw [hp, List.mem_singleton] at h
        subst h
        exact .here
      | some parent =>
        rw [hp, List.mem_cons] at h
        obtain rfl | h := h
        · exact .here
        · cases hr : read_manifest H d parent with
          | ok p => exact .step hp hr (ih hr h)
          | error e =>
            cases n with
            | zero => exact absurd h List.not_mem_nil
            | succ n =>
              rw [walk_loop] at h
              simp only [hr] at h
              split_ifs at h <;> exact absurd h List.not_mem_nil
    · exact absurd h List.not_mem_nil

/-- A candidate that has authority is CURRENT or one of its ancestors. -/
theorem current_or_onChain {d : Disk} {c : Digest}
    (h : (candidate_relation H d (some c) (current? d)).authoritative = true) :
    read_current d = .ok c ∨ OnChain H d c := by
  cases hcur : current? d with
  | none =>
    rw [hcur] at h
    cases h
  | some current =>
    have hread : read_current d = .ok current := by
      rw [current?] at hcur
      cases hr : read_current d with
      | error e => rw [hr] at hcur; cases hcur
      | ok x => rw [hr] at hcur; exact congrArg _ (Option.some.inj hcur)
    rw [hcur, candidate_relation] at h
    split_ifs at h with heq
    · subst heq
      exact .inl hread
    · split at h
      · next r hr =>
        rw [relation_to_head] at hr
        obtain ⟨head, hh, hr⟩ := bind_ok.1 hr
        obtain ⟨_, -, hr⟩ := bind_ok.1 hr
        obtain ⟨_, -, hr⟩ := bind_ok.1 hr
        obtain ⟨walk, hw, hr⟩ := bind_ok.1 hr
        dsimp only at hr
        split_ifs at hr with hroot hany
        · obtain rfl := pure_ok.1 hr
          cases h
        · obtain ⟨x, hx, hxc⟩ := List.any_eq_true.1 hany
          rw [walk_revisions] at hw
          split_ifs at hw with hdone
          obtain rfl := Except.ok.inj hw
          rw [walk_steps, hh] at hx
          have hb := below_of_mem_walk hh hx
          rw [of_decide_eq_true hxc] at hb
          exact .inr ⟨current, head, x.2, hread, hh, hb⟩
        · obtain rfl := pure_ok.1 hr
          cases h
      · cases h

theorem onChain_of_authoritative {d : Disk} {c : Digest} {m : Manifest}
    (hm : read_manifest H d c = .ok m)
    (h : (candidate_relation H d (some c) (current? d)).authoritative = true) : OnChain H d c :=
  (current_or_onChain h).elim (fun hcur => ⟨c, m, m, hcur, hm, .here⟩) id

variable (H) in
/-- The chain of CURRENT is there, back to its root. -/
def Complete (d : Disk) : Prop :=
  ∃ head m, read_current d = .ok head ∧ read_manifest H d head = .ok m ∧ Rooted H d m

/-! ## Chains -/

/-- A chain is there, back to its root. -/
theorem Chain.rooted {d : Disk} {id : Digest} {m : Manifest} (h : Chain H d id m) : Rooted H d m := by
  induction h with
  | root parent _ => exact .root parent
  | step parent read _ _ _ _ ih => exact .step parent read ih

/-- The ancestors of a chain are chains. -/
theorem Chain.ancestor {d : Disk} {id id' : Digest} {m m' : Manifest} (h : Chain H d id m)
    (hb : Below H d id m id' m') : Chain H d id' m' := by
  induction hb with
  | here => exact h
  | step up read _ ih =>
    cases h with
    | root parent _ => rw [parent] at up; cases up
    | step parent read' _ _ _ chain =>
      obtain rfl := Option.some.inj (up.symm.trans parent)
      obtain rfl := Except.ok.inj (read.symm.trans read')
      exact ih chain

/-- The ancestors of a valid chain are valid. -/
theorem Chain.valid_below {d : Disk} {id id' : Digest} {m m' : Manifest} (h : Chain H d id m)
    (hv : m.Valid) (hb : Below H d id m id' m') : m'.Valid := by
  induction hb with
  | here => exact hv
  | step up read _ ih =>
    cases h with
    | root parent _ => rw [parent] at up; cases up
    | step parent read' valid _ _ chain =>
      obtain rfl := Option.some.inj (up.symm.trans parent)
      obtain rfl := Except.ok.inj (read.symm.trans read')
      exact ih chain valid

/-- Revision numbers fall towards the root. -/
theorem Chain.revision_le {d : Disk} {id id' : Digest} {m m' : Manifest} (h : Chain H d id m)
    (hb : Below H d id m id' m') : m'.revision ≤ m.revision := by
  induction hb with
  | here => exact le_rfl
  | step up read _ ih =>
    cases h with
    | root parent _ => rw [parent] at up; cases up
    | step parent read' _ _ transition chain =>
      obtain rfl := Option.some.inj (up.symm.trans parent)
      obtain rfl := Except.ok.inj (read.symm.trans read')
      have hrev := transition.revision
      have := ih chain
      omega

theorem walk_ok_iff {child : Option ℕ} {m : Manifest} : walk_ok child m = true ↔
    (∀ r, child = some r → r = m.revision + 1) ∧
      ((m.parent = none ∧ (m.schema = .v1 ∧ m.revision = 0 ∨ m.schema = .v3 ∧ m.revision ≠ 0)) ∨
        ∃ p, m.parent = some p ∧ m.revision ≠ 0) := by
  cases hp : m.parent <;> cases child <;> simp [walk_ok, hp]

/-- The walk from a valid chain visits its ancestors, down to its root. -/
theorem walk_of_chain {d : Disk} {n : ℕ} {id : Digest} {m : Manifest} (child : Option ℕ)
    (seen : List Digest) (hm : read_manifest H d id = .ok m) (hv : m.Valid) (hn : m.revision < n)
    (hchild : ∀ r, child = some r → r = m.revision + 1)
    (hseen : ∀ s ∈ seen, ∃ m', H.digest (.manifest m') = s ∧ m.revision < m'.revision)
    (h : Chain H d id m) : (walk_loop H d n id child seen).2 = true ∧
      (∀ id' m', Below H d id m id' m' → (id', m') ∈ (walk_loop H d n id child seen).1) ∧
      ∃ x, (walk_loop H d n id child seen).1.getLast? = some x ∧ Below H d id m x.1 x.2 ∧
        x.2.parent = none := by
  induction n generalizing id m child seen with
  | zero => exact absurd hn (Nat.not_lt_zero _)
  | succ n ih =>
    have hid := digest_of_read_manifest hm
    have hfresh : id ∉ seen := by
      intro hmem
      obtain ⟨m', hm', hlt⟩ := hseen id hmem
      obtain rfl := Crypto.manifest_inj (hm'.trans hid.symm)
      exact absurd hlt (Nat.lt_irrefl _)
    rw [walk_loop, if_neg hfresh]
    simp only [hm]
    cases h with
    | root parent hroot =>
      have hok : walk_ok child m = true := by
        refine walk_ok_iff.2 ⟨hchild, .inl ⟨parent, ?_⟩⟩
        obtain ⟨hs, -⟩ | hr := hroot
        · have hp := hv.parent
          rw [manifest_parent_ok, hs] at hp
          exact .inr ⟨hs, by simpa using hp⟩
        · exact .inl hr
      rw [if_pos hok, parent]
      refine ⟨rfl, fun id' m' hb => ?_, (id, m), rfl, .here, parent⟩
      cases hb with
      | here => exact List.mem_singleton_self _
      | step up => rw [parent] at up; cases up
    | @step _ _ parent_id p parent read valid link transition chain =>
      have hrev := transition.revision
      have hok : walk_ok child m = true :=
        walk_ok_iff.2 ⟨hchild, .inr ⟨parent_id, parent, by omega⟩⟩
      have hseen' : ∀ s ∈ id :: seen,
          ∃ m', H.digest (.manifest m') = s ∧ p.revision < m'.revision := by
        intro s hs
        obtain rfl | hs := List.mem_cons.1 hs
        · exact ⟨m, hid, by omega⟩
        · obtain ⟨m', hm', hlt⟩ := hseen s hs
          exact ⟨m', hm', by omega⟩
      obtain ⟨h2, hall, x, hx, hbx, hxp⟩ := ih (some m.revision) (id :: seen) read valid
        (by omega) (fun r hr => (Option.some.inj hr).symm.trans hrev) hseen' chain
      rw [if_pos hok, parent]
      refine ⟨h2, fun id' m' hb => ?_, x, ?_, .step parent read hbx, hxp⟩
      · cases hb with
        | here => exact List.mem_cons_self
        | @step _ _ parent' p' _ _ up read' below =>
          obtain rfl := Option.some.inj (parent.symm.trans up)
          obtain rfl := Except.ok.inj (read.symm.trans read')
          exact List.mem_cons_of_mem _ (hall id' m' below)
      · rw [List.getLast?_cons, hx]
        rfl

variable (H) in
/-- A revision that is CURRENT and whose chain is valid. The chain of a revision of
    schema 3 ends in a compaction root. -/
structure Head (d : Disk) (head : Digest) (m : Manifest) : Prop where
  current : read_current d = .ok head
  read : read_manifest H d head = .ok m
  valid : m.Valid
  chain : Chain H d head m
  root : m.schema = .v3 → ∀ id r, Below H d head m id r → r.parent = none → r.schema = .v3

/-- On a valid chain, the relation of a candidate to CURRENT says where it stands. -/
theorem Head.relation {d : Disk} {head : Digest} {m : Manifest} (h : Head H d head m) (c : Digest) :
    candidate_relation H d (some c) (some head) = .current ∧ c = head ∨
      candidate_relation H d (some c) (some head) = .ancestor ∧ c ≠ head ∧ OnChain H d c ∨
      candidate_relation H d (some c) (some head) = .orphan ∧ ¬OnChain H d c := by
  rw [candidate_relation]
  by_cases hc : c = head
  · exact .inl ⟨if_pos hc, hc⟩
  rw [if_neg hc]
  have hid := digest_of_read_manifest h.read
  obtain ⟨h2, hall, x, hx, hbx, hxp⟩ := walk_of_chain (n := m.revision + 1) none [] h.read h.valid (Nat.lt_succ_self _) (fun r hr => by cases hr)
    (fun s hs => absurd hs List.not_mem_nil) h.chain
  set walk := (walk_loop H d (m.revision + 1) head none []).1 with hw
  have hwalk : walk_revisions H d head = .ok walk := by
    rw [walk_revisions, walk_steps, h.read]
    exact if_pos h2
  have hroot : ¬(m.schema = .v3 ∧ (walk.getLast?.map fun y => y.2.schema) ≠ some .v3) := by
    rintro ⟨hs, hne⟩
    rw [hx] at hne
    exact hne (congrArg some (h.root hs x.1 x.2 hbx hxp))
  have hany : (walk.any fun y => decide (y.1 = c)) = true ↔ OnChain H d c := by
    rw [List.any_eq_true]
    constructor
    · rintro ⟨y, hy, hyc⟩
      obtain rfl := of_decide_eq_true hyc
      exact ⟨head, m, y.2, h.current, h.read, below_of_mem_walk h.read hy⟩
    · rintro ⟨head', m₁, m₂, hcur, hread, hb⟩
      obtain rfl := Except.ok.inj (h.current.symm.trans hcur)
      obtain rfl := Except.ok.inj (h.read.symm.trans hread)
      exact ⟨(c, m₂), hall c m₂ hb, decide_eq_true rfl⟩
  have hrel : relation_to_head H d c head =
      if (walk.any fun y => decide (y.1 = c)) = true then .ok .ancestor else .ok .orphan := by
    have hval : validate_manifest Failure.value m = .ok () := validate_manifest_ok.2 h.valid
    have hchain : validate_revision_chain H Failure.value none d head m = .ok () :=
      (validate_revision_chain_iff hid).2 h.chain
    simp only [relation_to_head, h.read, hval, hchain, hwalk, bind, Except.bind]
    rw [if_neg hroot]
    rfl
  by_cases hon : OnChain H d c
  · rw [hrel, if_pos (hany.2 hon)]
    exact .inr (.inl ⟨rfl, hc, hon⟩)
  · rw [hrel, if_neg fun hx => hon (hany.1 hx)]
    exact .inr (.inr ⟨rfl, hon⟩)

/-! ## Inspections -/

variable (H) in
/-- The candidate that an inspection finds. -/
def candidate_of (d : Disk) (t : Uuid) (j : Journal) : Option Digest :=
  j.candidate.or (manifest_candidates H d t).head?

variable {t : Uuid} {j : Journal} {d : Disk}

/-- The verdict on a candidate without authority: it is not committed exactly when
    CURRENT is the parent. -/
theorem make_outcome_of_not_authoritative {parent candidate current : Option Digest}
    {relation : Relation} {recorded : Option Bool} {audit : AuditState}
    {durability : DurabilityState} {code : Option String} {warnings : List String}
    (hr : relation.authoritative = false) :
    let o := make_outcome t parent candidate current relation recorded audit durability code warnings
    (o.committed = some false ∧ o.authority_state = .parent_lineage_authoritative ∧
      (o.state = .not_committed ∨ o.state = .durability_incomplete)) ↔ current = parent := by
  have horphan : relation = .orphan ∨ relation = .unknown := by
    cases relation with
    | orphan => exact .inl rfl
    | unknown => exact .inr rfl
    | _ => cases hr
  by_cases heq : current = parent
  · simp only [make_outcome, hr, heq, horphan, Bool.false_eq_true, if_false, and_self, if_true,
      reduceCtorEq, false_and, Option.some.injEq, iff_true, true_and]
    split_ifs <;> simp
  · simp [make_outcome, hr, heq]

variable (H) in
/-- The journal is committed, with the last entry of its log. -/
abbrev Audited (d : Disk) (t : Uuid) (j : Journal) : Prop :=
  (readable_journal d t).any (·.stage = .committed) ∧
    (j.attempt.operation = .init ∨
      (candidate_of H d t j).any (observed_log_complete H d j t) = true)

/-- What an inspection reports of a transaction with a journal or stage. -/
theorem inspect_transaction_ok (hlen : (manifest_candidates H d t).length ≤ 1)
    (hj : recovered_journal H d t (manifest_candidates H d t) = some j) :
    ∃ audit code, ∀ o, inspect_transaction H d t = .ok o ↔
      (j.attempt.operation = .refute → ∀ c, candidate_of H d t j = some c →
        check_refute_stage H d t c j.attempt (readable_journal d t) (current? d) = .ok ()) ∧
      o = make_outcome t (j.parent.or j.attempt.base_revision) (candidate_of H d t j) (current? d)
        (candidate_relation H d (candidate_of H d t j) (current? d)) (some true) audit
        (durability_of H d t j (candidate_of H d t j)
          (candidate_relation H d (candidate_of H d t j) (current? d))) code [] := by
  refine ⟨if Audited H d t j then .complete else .incomplete,
    if Audited H d t j then none else some "audit_incomplete", fun o => ?_⟩
  rw [inspect_transaction, if_neg (Nat.not_lt.2 hlen)]
  simp only [hj]
  rw [show j.candidate.or (manifest_candidates H d t).head? = candidate_of H d t j from rfl]
  unfold Audited
  cases hc : candidate_of H d t j with
  | none =>
    dsimp only
    rw [pure_ok]
    exact ⟨fun h => ⟨fun _ c hcand => (by cases hcand), h.symm⟩, fun h => h.2.symm⟩
  | some c =>
    dsimp only
    by_cases hop : j.attempt.operation = .refute
    · simp only [if_pos hop, bind_ok, pure_ok]
      constructor
      · rintro ⟨⟨⟩, hcheck, rfl⟩
        exact ⟨fun _ c' hc' => Option.some.inj hc' ▸ hcheck, rfl⟩
      · rintro ⟨hcheck, rfl⟩
        exact ⟨(), hcheck hop c rfl, rfl⟩
    · rw [if_neg hop, pure_ok]
      exact ⟨fun h => ⟨fun h' => absurd h' hop, h.symm⟩, fun h => h.2.symm⟩

/-- A transaction whose journal names CURRENT or an ancestor of it is reported to be
    committed. -/
theorem Head.reports_committed {head c : Digest} {m : Manifest} {o : Outcome} (h : Head H d head m)
    (hlen : (manifest_candidates H d t).length ≤ 1) (hj : journal d t = some (some j))
    (hc : j.candidate = some c) (hon : OnChain H d c) (ho : inspect_transaction H d t = .ok o) :
    o.committed = some true ∧ o.candidate_revision = some c ∧
      (o.candidate_relation = .current ∧ c = head ∨ o.candidate_relation = .ancestor ∧ c ≠ head) := by
  have hrec : recovered_journal H d t (manifest_candidates H d t) = some j := by
    simp only [recovered_journal, hj]
  have hcand : candidate_of H d t j = some c := by rw [candidate_of, hc, Option.some_or]
  have hcur : current? d = some head := by rw [current?, h.current]; rfl
  obtain ⟨audit, code, hins⟩ := inspect_transaction_ok hlen hrec
  obtain ⟨-, rfl⟩ := (hins o).1 ho
  rw [hcand, hcur]
  obtain ⟨hr, hh⟩ | ⟨hr, hne, -⟩ | ⟨-, hno⟩ := h.relation c
  · rw [hr]
    exact ⟨rfl, rfl, .inl ⟨rfl, hh⟩⟩
  · rw [hr]
    exact ⟨rfl, rfl, .inr ⟨rfl, hne⟩⟩
  · exact absurd hon hno

theorem make_outcome_committed {parent candidate current : Option Digest} {relation : Relation}
    {recorded : Option Bool} {audit : AuditState} {durability : DurabilityState}
    {code : Option String} {warnings : List String} :
    (make_outcome t parent candidate current relation recorded audit durability code
      warnings).committed = some true ↔ relation.authoritative = true := by
  cases relation <;> simp only [make_outcome, Relation.authoritative] <;> split_ifs <;> simp_all

/-- Only CURRENT and its ancestors are reported to be committed. -/
theorem inspect_committed {o : Outcome} (ho : inspect_transaction H d t = .ok o)
    (hc : o.committed = some true) :
    ∃ j c, recovered_journal H d t (manifest_candidates H d t) = some j ∧
      candidate_of H d t j = some c ∧ o.candidate_revision = some c ∧
      (read_current d = .ok c ∨ OnChain H d c) := by
  by_cases hlen : (manifest_candidates H d t).length ≤ 1
  · cases hj : recovered_journal H d t (manifest_candidates H d t) with
    | none =>
      rw [inspect_transaction, if_neg (Nat.not_lt.2 hlen)] at ho
      simp only [hj] at ho
      cases ho
      cases hc
    | some j =>
      obtain ⟨audit, code, hins⟩ := inspect_transaction_ok hlen hj
      obtain ⟨-, rfl⟩ := (hins o).1 ho
      have hauth := make_outcome_committed.1 hc
      cases hcand : candidate_of H d t j with
      | none =>
        rw [hcand] at hauth
        cases hauth
      | some c =>
        rw [hcand] at hauth
        exact ⟨j, c, rfl, hcand, rfl, current_or_onChain hauth⟩
  · rw [inspect_transaction, if_pos (Nat.lt_of_not_le hlen)] at ho
    cases ho
    cases hc

end AnKla
