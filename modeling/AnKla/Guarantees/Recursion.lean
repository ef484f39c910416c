import AnKla.Guarantees.Roots

/-!
# Refutations and the revisions they were made on

A snapshot reads the revision that each of its refutations was made on.

* `Chain.target_parent`: a refutation that a revision adds to those of its parent was made on
  the parent, whatever the schemas are.
* `refutations_well_founded`: so it was made on a strict ancestor. The refutations of a
  compaction root are not looked at, but to be mentioned they had to be hashed, and what they
  mention before them: the calls of a snapshot end, and its equation has one solution.
* `root_refutation_unbound`: a compaction root with a refutation of no ancestor.
-/

namespace AnKla

open PyJson Durable

variable (H : Crypto)

/-- A revision adds a refutation to those of its parent, if it has one. -/
structure Introduces (d : Disk) (m : Manifest) (entry : RefutationEntry) : Prop where
  mem : entry ∈ m.refutations
  new : ∀ pid p, m.parent = some pid → read_manifest H d pid = .ok p → entry ∉ p.refutations

/-- The revision that a refutation was made on. -/
def RefutedAt (d : Disk) (entry : RefutationEntry) (target : Digest) : Prop :=
  ∃ refutation, read_refutation H d entry.refutation_id = .ok refutation ∧
    refutation_digest refutation "target_revision" = .ok target

/-- The parent of a revision, or a revision below it. -/
def StrictAncestor (d : Disk) (m : Manifest) (target : Digest) : Prop :=
  ∃ pid p t, m.parent = some pid ∧ read_manifest H d pid = .ok p ∧ Below H d pid p target t

variable {H}
variable {d : Disk} {id : Digest} {m : Manifest}

theorem Chain.of_below (h : Chain H d id m) (hv : m.Valid) {xid : Digest} {x : Manifest}
    (hb : Below H d id m xid x) : Chain H d xid x ∧ x.Valid := by
  induction hb with
  | here => exact ⟨h, hv⟩
  | step up read _ ih =>
    cases h with
    | root parent _ => rw [parent] at up; cases up
    | step parent read' valid _ _ chain =>
      obtain rfl := Option.some.inj (up.symm.trans parent)
      obtain rfl := Except.ok.inj (read.symm.trans read')
      exact ih chain valid

/-- A revision of schema 1 has no refutations. -/
theorem Manifest.Valid.refutations_v1 (h : m.Valid) (h1 : m.schema = .v1) : m.refutations = [] := by
  have hshape := h.shape
  rw [manifest_shape_ok, h1] at hshape
  simp only [Bool.and_eq_true, Option.isNone_iff_eq_none] at hshape
  rw [Manifest.refutations, hshape.1.2]
  rfl

/-- The evidence of a revision with a parent allows no refutation that the parent does not have,
    unless it is the one of a refute. -/
theorem StageOf.no_new {pid : Digest} {p : Manifest} (h : StageOf H d id m [])
    (hm : read_manifest H d id = .ok m) (hpid : m.parent = some pid)
    (hp : read_manifest H d pid = .ok p) : new_refutations m (some p) = [] := by
  obtain ⟨txid, stage, -, -, hop, files, hfiles⟩ := h
  have hnot : stage.attempt.operation ≠ .refute := fun h => absurd (hop.1 h) (by decide)
  rw [required_candidate_files] at hfiles
  obtain ⟨m', hm', hfiles⟩ := bind_ok.1 hfiles
  obtain rfl := Except.ok.inj (hm.symm.trans hm')
  obtain ⟨parent, hparent, hfiles⟩ := bind_ok.1 hfiles
  rw [read_parent, hpid] at hparent
  obtain ⟨p', hp', rfl⟩ := map_ok.1 hparent
  obtain rfl := Except.ok.inj (hp.symm.trans hp')
  obtain ⟨_, -, hfiles⟩ := bind_ok.1 hfiles
  obtain ⟨stage_id, -, hfiles⟩ := bind_ok.1 hfiles
  obtain ⟨stage', -, hfiles⟩ := bind_ok.1 hfiles
  obtain ⟨extra, hextra, -⟩ := bind_ok.1 hfiles
  rw [operation_files.eq_def] at hextra
  split at hextra
  · -- a compaction has no parent
    obtain ⟨_, hcompact, -⟩ := bind_ok.1 hextra
    rw [ensure_ok, hpid] at hcompact
    simp at hcompact
  · next h => exact absurd h hnot
  · obtain ⟨_, hclean, -⟩ := bind_ok.1 hextra
    rw [ensure_ok, Bool.and_eq_true] at hclean
    exact of_decide_eq_true hclean.1

/-- What a revision adds to the refutations of its parent was made on the parent. -/
theorem Transition.bound {pid : Digest} {p : Manifest} (h : Transition H d id m pid p)
    (hm : read_manifest H d id = .ok m) (hv : m.Valid) (hpid : m.parent = some pid)
    (hp : read_manifest H d pid = .ok p) (hpv : p.Valid) {entry : RefutationEntry}
    (hmem : entry ∈ m.refutations) (hnew : entry ∉ p.refutations) :
    refutation_bound H d pid entry = .ok true := by
  obtain ⟨added, hadded, hbound, hstage⟩ := h.refutations
  rw [added_refutations] at hadded
  split_ifs at hadded with hp1 hrest hm2 hone
  · obtain rfl := Option.some.inj hadded
    simp only [Bool.and_eq_true, List.isPrefixOf_iff_prefix] at hrest
    obtain ⟨more, hmore⟩ := hrest.1.2
    refine hbound entry ?_
    rw [← hmore, List.drop_left]
    rw [← hmore, List.mem_append] at hmem
    exact hmem.resolve_left hnew
  · obtain rfl := Option.some.inj hadded
    exact hbound entry hmem
  · -- schema 3 on schema 1, or schema 1: there are no refutations
    obtain rfl := Option.some.inj hadded
    have hp1 : p.schema = .v1 := not_not.1 hp1
    by_cases hm1 : m.schema = .v1
    · rw [hv.refutations_v1 hm1] at hmem
      exact absurd hmem List.not_mem_nil
    · have hnone := (hstage hm1).no_new hm hpid hp
      rw [new_refutations] at hnone
      have hkept := List.filter_eq_nil_iff.1 hnone entry hmem
      simp only [hpv.refutations_v1 hp1, List.map_nil, List.not_mem_nil, not_false_eq_true,
        decide_true, not_true_eq_false] at hkept

/-- The validated parent of a revision is what its new refutations were made on. -/
theorem Chain.target_parent (h : Chain H d id m) (hm : read_manifest H d id = .ok m) (hv : m.Valid)
    {entry : RefutationEntry} (hentry : Introduces H d m entry) {pid target : Digest}
    (hpid : m.parent = some pid) (htarget : RefutedAt H d entry target) : target = pid := by
  cases h with
  | root parent _ => rw [parent] at hpid; cases hpid
  | @step _ _ pid' p parent read valid _ transition _ =>
    obtain rfl := Option.some.inj (hpid.symm.trans parent)
    have hbound := transition.bound hm hv hpid read valid hentry.mem (hentry.new _ _ hpid read)
    obtain ⟨refutation, hread, hdigest⟩ := htarget
    rw [refutation_bound] at hbound
    obtain ⟨refutation', hread', hbound⟩ := bind_ok.1 hbound
    obtain rfl := Except.ok.inj (hread.symm.trans hread')
    have hitem := pure_ok.1 hbound
    simp only [Bool.and_eq_true, decide_eq_true_eq] at hitem
    have hsame := (item_of_refutation_digest hdigest).symm.trans hitem.1.1
    exact ident_injective (Json.str.inj hsame)

variable (H) in
/-- On a validated chain, the refutations that a revision adds to its parent's were made on a
    strict ancestor. On any disk, the calls of a snapshot are well founded, the bound on them
    makes no difference, and the equation of the source has one solution. -/
theorem refutations_well_founded (d : Disk) :
    (∀ id m, read_manifest H d id = .ok m → m.Valid → Chain H d id m →
      ∀ xid x, Below H d id m xid x → x.parent ≠ none → ∀ entry target, Introduces H d x entry →
        RefutedAt H d entry target → StrictAncestor H d x target) ∧
      (WellFounded fun target revision => Calls H d revision target) ∧
      (∀ n use_watermark revision, snapshot_depth d ≤ n →
        snapshot_loop H d n use_watermark revision =
          snapshot_loop H d (snapshot_depth d) use_watermark revision) ∧
      ∀ f, (∀ revision, f revision = snapshot_step H d f true revision) ↔ f = snapshot H d := by
  refine ⟨fun id m hm hv hchain xid x hb hparent entry target hentry htarget => ?_,
    calls_wellFounded d, fun n w revision hn => snapshot_loop_enough hn w revision, fun f =>
    ⟨snapshot_unique, fun hf revision => ?_⟩⟩
  · obtain ⟨pid, hpid⟩ := Option.ne_none_iff_exists'.1 hparent
    obtain ⟨hx, hxv⟩ := hchain.of_below hv hb
    obtain rfl := hx.target_parent (hb.read hm) hxv hentry hpid htarget
    cases hx with
    | root parent _ => exact absurd parent hparent
    | step parent read _ _ _ _ =>
      obtain rfl := Option.some.inj (hpid.symm.trans parent)
      exact ⟨_, _, _, hpid, read, .here⟩
  · rw [hf]
    exact snapshot_eq revision

/-! ## A refutation of the first revision -/

namespace Refuted

/-- A refutation that was made on the first revision of a new store. -/
def refutation : Json := dict
  [("schema", .str "an-kla/refutation-v1"), ("target_revision", .str (ident 5)),
    ("stream", .str "facts"), ("target_record_sha256", .str (ident 0)), ("reason", .str "r"),
    ("proposal_sha256", .str (ident 0)), ("authority_claim_sha256", .str (ident 0)),
    ("authority_attestation_id", .str (ident 0)), ("policy_fingerprint", .str (ident 0)),
    ("decision_sha256", .str (ident 0)), ("evidence_sha256", .str (ident 0)),
    ("plan_fingerprint", .str (ident 0))]

def entry : RefutationEntry := ⟨.facts, 0, 12⟩

/-- The revision with the refutation. -/
def head : Manifest :=
  { OneFact.genesis with
    schema := .v2, revision := 1, parent := some 5, transaction_id := .uuid 4
    features := some [.refutations_v1], refutations_map := some [entry] }

def attempt : Attempt := ⟨.refute, 4, some 5, 0⟩

def stage : Stage := ⟨some 5, 13, attempt, some (.refute_policy (refute_metadata refutation 12))⟩

theorem ordered : Ordered (OneFact.init_contents ++
    [.json refutation, .manifest head, .ref_log ⟨.intent, 4, 5, 13⟩, .attempt attempt,
      .stage stage]) :=
  ordered_of_supposed (by decide +kernel) (by decide +kernel)

/-- A host that numbers these contents by their places. -/
noncomputable def host : Crypto := Crypto.ofTable _ ordered

noncomputable def store : Disk :=
  (((( bootstrap_initialize host OneFact.init).1.write (.refutation 12) (.json refutation)).write
    (.revision 13) (.manifest head)).write (.ref_log 14) (.ref_log ⟨.intent, 4, 5, 13⟩)).write
    (.stage 4 16) (.stage stage)

theorem head_valid : head.Valid := by
  have h : validate_manifest Failure.value head = .ok () := by decide +kernel
  exact validate_manifest_ok.1 h

theorem read_head : read_manifest host store 13 = .ok head := by decide +kernel

theorem read_genesis : read_manifest host store 5 = .ok OneFact.genesis := by decide +kernel

theorem chain : Chain host store 13 head := by
  have h : validate_revision_chain host Failure.value none store 13 head = .ok () := by
    decide +kernel
  exact (validate_revision_chain_iff (digest_of_read_manifest read_head)).1 h

theorem introduces : Introduces host store head entry := by
  refine ⟨List.mem_singleton_self _, fun pid p hpid hp => ?_⟩
  obtain rfl : 5 = pid := Option.some.inj hpid
  obtain rfl := Except.ok.inj (read_genesis.symm.trans hp)
  exact List.not_mem_nil

theorem made_on : RefutedAt host store entry 5 :=
  ⟨refutation, by decide +kernel, by decide +kernel⟩

end Refuted

/-- The refutation was made on a strict ancestor of its revision. -/
theorem refutations_well_founded_refuted :
    StrictAncestor Refuted.host Refuted.store Refuted.head 5 :=
  (refutations_well_founded Refuted.host Refuted.store).1 13 Refuted.head Refuted.read_head
    Refuted.head_valid Refuted.chain 13 Refuted.head .here (by decide) Refuted.entry 5
    Refuted.introduces Refuted.made_on

/-! ## A compaction root with a refutation -/

namespace Unbound

def proof : RestoreProof := ⟨0, 0, 5, 0, 1, 0, 0⟩

def catalog : Catalog := ⟨6, 5, 0, 14, [⟨5, 6, 0⟩], [], [], []⟩

def epoch : EpochManifest := ⟨6, 7, 5, 0, 0, 13, 15, 14, 12⟩

def entry : RefutationEntry := ⟨.facts, 0, 17⟩

/-- A refutation of no revision of the store. -/
def refutation : Json := dict [("target_revision", .str (ident 0))]

def root : Manifest :=
  { OneFact.genesis with
    schema := .v3, revision := 1, transaction_id := .uuid 7, supersedes_map := some []
    features := some [.refutations_v1, .compaction_v1], refutations_map := some [entry]
    compaction_epoch := some ⟨6, 5, 0, 15, 16⟩ }

def attempt : Attempt := ⟨.compact, 7, some 5, 0⟩

def stage : Stage := ⟨some 5, 18, attempt, some (.compaction_policy policy_config)⟩

theorem ordered : Ordered (OneFact.init_contents ++
    [.json policy_config, .restore_proof proof, .delete_set [], .catalog catalog, .epoch epoch,
      .json refutation, .manifest root, .attempt attempt, .stage stage]) :=
  ordered_of_supposed (by decide +kernel) (by decide +kernel)

/-- A host that numbers these contents by their places. -/
noncomputable def host : Crypto := Crypto.ofTable _ ordered

/-- A store that starts with the compaction root. -/
noncomputable def store : Disk :=
  (((((((∅ : Disk).write .current (.current 18)).write (.restore_proof 13)
    (.restore_proof proof)).write (.catalog 15) (.catalog catalog)).write (.epoch 16)
    (.epoch epoch)).write (.refutation 17) (.json refutation)).write (.revision 18)
    (.manifest root)).write (.stage 7 20) (.stage stage)

theorem root_valid : root.Valid := by
  have h : validate_manifest Failure.value root = .ok () := by decide +kernel
  exact validate_manifest_ok.1 h

theorem read_root : read_manifest host store 18 = .ok root := by decide +kernel

theorem made_on : RefutedAt host store entry 0 := ⟨refutation, by decide +kernel, by decide +kernel⟩

end Unbound

/-- The chain of a compaction root is accepted, and its refutation was made on no ancestor. -/
theorem root_refutation_unbound : ∃ (H : Crypto) (d : Disk) (id : Digest) (m : Manifest),
    read_current d = .ok id ∧ read_manifest H d id = .ok m ∧ m.Valid ∧
      validate_revision_chain H .integrity none d id m = .ok () ∧
      ∃ entry target, Introduces H d m entry ∧ RefutedAt H d entry target ∧
        ¬StrictAncestor H d m target := by
  refine ⟨Unbound.host, Unbound.store, 18, Unbound.root, by decide +kernel, Unbound.read_root,
    Unbound.root_valid, by decide +kernel, Unbound.entry, 0,
    ⟨List.mem_singleton_self _, fun pid p hpid _ => by cases hpid⟩, Unbound.made_on, ?_⟩
  rintro ⟨pid, p, t, hpid, -⟩
  cases hpid

end AnKla
