import AnKla.Guarantees.Plans
import AnKla.Guarantees.Updates

/-!
# Checkpoints

* `SkipsUnchanged`: a working state that a store holds already is planned as a skip, and
  its commit creates no revision.
* `plans_unchanged_as_write`: it is planned as a write.
-/

namespace AnKla

open PyJson Durable

variable {H : Crypto}

/-! ## A working state that is there already -/

variable (H) in
/-- A working state is planned on a store as a skip, because it is unchanged, and to commit
    that plan on CURRENT creates no revision. -/
def SkipsUnchanged (d : Disk) (working_state authority : Json) : Prop :=
  ∃ planning, plan_checkpoint H working_state authority d = .ok planning ∧
    item (item planning "decision") "decision" = .str "skip" ∧
    item (item planning "decision") "reasons" = str_list ["checkpoint_unchanged"] ∧
    ∀ k : CheckpointCall, k.planning_result = planning → read_current d = .ok k.expected_current →
      ∀ incident, (commit_checkpoint H k incident d).1 = d

/-- The working state of a checkpoint, to be planned on the checkpoint itself. -/
def again (checkpoint : Json) (id : Digest) : Json :=
  (item checkpoint "working_state").set "supersedes_checkpoint" (.str (ident id))

/-- A valid checkpoint does not name itself as the one that it supersedes. -/
theorem supersedes_ne_self {checkpoint : Json} :
    item (item checkpoint "working_state") "supersedes_checkpoint" ≠
      .str (ident (H.digest_json checkpoint)) := by
  intro h
  have hmem : H.digest_json checkpoint ∈ idents checkpoint := by
    refine mem_idents_item (mem_idents_item (?_ : _ ∈ idents (item (item checkpoint "working_state")
      "supersedes_checkpoint")))
    rw [h]
    exact mem_idents_json_ident checkpoint
  exact lt_irrefl _ (H.rank_lt (c := .json checkpoint) hmem)

theorem again_ne {checkpoint : Json} (hobj : (item checkpoint "working_state").isObj = true) :
    again checkpoint (H.digest_json checkpoint) ≠ item checkpoint "working_state" := by
  intro h
  refine @supersedes_ne_self H checkpoint ?_
  rw [← h, again, item_set hobj]

/-- The working state of a valid checkpoint is an object. -/
theorem isObj_working_state {checkpoint : Json} {revision : ℕ}
    (hv2 : item checkpoint "schema" = .str "an-kla/checkpoint-v2")
    (h : validate_checkpoint_v2 checkpoint revision = .ok ()) :
    (item checkpoint "working_state").isObj = true := by
  rw [validate_checkpoint_v2, if_neg (by simp [hv2])] at h
  obtain ⟨_, -, h⟩ := bind_ok.1 h
  obtain ⟨_, -, h⟩ := bind_ok.1 h
  have h := mapError_ok.1 h
  rw [validate_working_state, checkpoint_exact] at h
  obtain ⟨_, h, -⟩ := bind_ok.1 h
  obtain ⟨_, h, -⟩ := bind_ok.1 h
  exact ensure_ok.1 h

/-- The working state that a store holds is planned again as what its authority grants. -/
theorem decision_again {d : Disk} {id : Digest} {base : Snapshot} {authority decision planning : Json}
    (hcur : read_current d = .ok id) (hbase : snapshot H d id = .ok base)
    (hv2 : item base.checkpoint "schema" = .str "an-kla/checkpoint-v2")
    (heval : evaluate_checkpoint H (checkpoint_proposal id base.manifest.checkpoint
      (again base.checkpoint base.manifest.checkpoint)) authority = .ok decision)
    (hplan : plan_checkpoint H (again base.checkpoint base.manifest.checkpoint) authority d =
      .ok planning) : item planning "decision" = decision := by
  have hdigest : H.digest_json base.checkpoint = base.manifest.checkpoint :=
    (read_checkpoint_iff.1 (snapshot_reads hbase).checkpoint).2
  have hobj := isObj_working_state hv2 (snapshot_reads hbase).checkpoint_ok
  have hne : again base.checkpoint base.manifest.checkpoint ≠ item base.checkpoint "working_state" :=
    hdigest ▸ @again_ne H _ hobj
  have hholds : holds_working_state base (again base.checkpoint base.manifest.checkpoint) = false := by
    rw [holds_working_state, decide_eq_false (Ne.symm hne), Bool.and_false]
  rw [plan_checkpoint, hcur] at hplan
  obtain ⟨_, -, hplan⟩ := bind_ok.1 hplan
  obtain ⟨_, hid, hplan⟩ := bind_ok.1 hplan
  obtain rfl := Except.ok.inj hid
  obtain ⟨_, hs, hplan⟩ := bind_ok.1 hplan
  obtain rfl := Except.ok.inj (hbase.symm.trans hs)
  obtain ⟨_, he, hplan⟩ := bind_ok.1 hplan
  obtain rfl := Except.ok.inj (heval.symm.trans he)
  obtain ⟨plan, -, hplan⟩ := bind_ok.1 hplan
  obtain rfl := pure_ok.1 hplan
  rw [item_dict (by simp) (List.mem_of_getElem? (i := 4) rfl), hholds, if_neg (by simp)]

/-- The working state that a store holds is never planned again as a skip. -/
theorem plans_unchanged_as_write {d : Disk} {id : Digest} {base : Snapshot} {authority decision : Json}
    (hcur : read_current d = .ok id) (hbase : snapshot H d id = .ok base)
    (hv2 : item base.checkpoint "schema" = .str "an-kla/checkpoint-v2")
    (heval : evaluate_checkpoint H (checkpoint_proposal id base.manifest.checkpoint
      (again base.checkpoint base.manifest.checkpoint)) authority = .ok decision)
    (hwrite : item decision "decision" = .str "write") :
    ¬SkipsUnchanged H d (again base.checkpoint base.manifest.checkpoint) authority := by
  rintro ⟨planning, hplan, hskip, -, -⟩
  rw [decision_again hcur hbase hv2 heval hplan, hwrite, Json.str.injEq] at hskip
  exact absurd hskip (by decide)

/-! ## A store with one checkpoint -/

namespace OneCheckpoint

def field (value : String) : Json := dict
  [("value", .str value), ("provenance", .str "caller_asserted")]

/-- The working state on the first revision of a new store. -/
def working_state : Json := dict
  [("schema", .str "an-kla/working-state-v2"), ("objective", field "o"), ("phase", unavailable),
    ("next_step", unavailable), ("decisions", .arr []), ("blockers", .arr []),
    ("evidence", .arr []),
    ("source_state", dict [("profile", .str "none/v1"), ("head", unavailable),
      ("branch", unavailable), ("dirty_digest", unavailable)]),
    ("captured_at", unavailable), ("supersedes_checkpoint", .str (ident 3))]

def proposal : Json := checkpoint_proposal 5 3 working_state

/-- An authority on a proposal. -/
def authority_on (proposal base_revision : Digest) : Json := dict
  [("schema", .str "an-kla/checkpoint-authority-v1"), ("proposal_sha256", .str (ident proposal)),
    ("base_revision", .str (ident base_revision)), ("authority_class", .str "model_derived"),
    ("issuer", dict [("kind", .str "model"), ("id", .str "m"),
      ("configuration_fingerprint", .str (ident 0))]),
    ("evidence", .arr []),
    ("scope", dict [("operation", .str "checkpoint"),
      ("fields", str_list (sorted_set checkpoint_fields))])]

def decision_on (proposal authority : Digest) : Json := dict
  [("schema", .str "an-kla/checkpoint-decision-v1"), ("proposal_sha256", .str (ident proposal)),
    ("authority_sha256", .str (ident authority)), ("decision", .str "write"), ("reasons", .arr [])]

def checkpoint : Json := checkpoint_object working_state 1

def core : Json := dict
  [("base_revision", .str (ident 5)), ("parent_checkpoint", .str (ident 3)),
    ("proposal_sha256", .str (ident 13)), ("authority_sha256", .str (ident 14)),
    ("policy_fingerprint", .str (ident 12)), ("decision_sha256", .str (ident 15)),
    ("checkpoint_sha256", .str (ident 16))]

def planning : Json := dict
  [("schema", .str "an-kla/checkpoint-planning-result-v1"), ("current_revision", .str (ident 5)),
    ("proposal", proposal), ("authority", authority_on 13 5), ("decision", decision_on 13 14),
    ("plan", dict [("schema", .str "an-kla/checkpoint-plan-v1"), ("core", core),
      ("checkpoint", checkpoint), ("plan_fingerprint", .str (ident 17))])]

/-- The commit of the plan, under the id 4. -/
def call : CheckpointCall := ⟨planning, 5, some 4⟩

def attempt : Attempt := ⟨.checkpoint, 4, some 5, 17⟩

/-- The revision with the checkpoint. -/
def child : Manifest :=
  { OneFact.genesis with revision := 1, parent := some 5, checkpoint := 16, transaction_id := .uuid 4 }

/-- The contents that the plan and its commit add, and those of the plan after it. -/
def contents : List Document :=
  [.json checkpoint_policy_config, .json proposal, .json (authority_on 13 5),
    .json (decision_on 13 14), .json checkpoint, .json core, .manifest child,
    .ref_log ⟨.intent, 4, 5, 18⟩, .attempt attempt, .stage ⟨some 5, 18, attempt, none⟩,
    .receipt ⟨.candidate_data_durable, 4, 20, 18, none, none,
      [(.checkpoint 16, 16), (.ref_log 19, 19), (.revision 18, 18), (.stage 4 21, 21)],
      [[7], [16], [18], [22, 4, 2]]⟩,
    .current 18, .receipt ⟨.current_durable, 4, 20, 18, some 22, none, [(.current, 23)], [[15]]⟩,
    .ref_log ⟨.observed_commit 19, 4, 5, 18⟩,
    .json (checkpoint_proposal 18 16 (again checkpoint 16)), .json (authority_on 26 18)]

theorem ordered : Ordered (OneFact.init_contents ++ contents) :=
  ordered_of_supposed (by decide +kernel) (by decide +kernel)

/-- A host that numbers these contents by their places. -/
noncomputable def host : Crypto := Crypto.ofTable _ ordered

/-- The new store, with the checkpoint. -/
noncomputable def store : Disk :=
  ((Governed.checkpoint call).commit host none ( bootstrap_initialize host OneFact.init).1).1

/-! The store, file by file. -/

def file (p : Path) (i : ℕ) : Σ _ : Path, Document :=
  ⟨p, (OneFact.init_contents ++ contents).getD i (.bytes 0)⟩

def committed_journal : Journal where
  stage := .committed
  parent := some 5
  attempt := attempt
  policy := none
  candidate := some 18
  stage_object := some 21
  candidate_receipt := some 22
  current_receipt := some 24
  observed_log := some 25
  intent_id := none
  cleanup_receipt := none

def files : List (Σ _ : Path, Document) :=
  [⟨.journal 4, .journal committed_journal⟩, file (.ref_log 25) 25, file (.receipt 4 24) 24,
    ⟨.watermark, .watermark ⟨18, some 5, none⟩⟩, file .current 23, file (.receipt 4 22) 22,
    file (.stage 4 21) 21, file (.ref_log 19) 19, file (.revision 18) 18,
    file (.checkpoint 16) 16] ++
  OneFact.files.filter fun f => f.1 ≠ .current ∧ f.1 ≠ .journal 9

/-- The store, file by file. -/
def opened : Disk where
  entries := files
  nodupKeys := by
    have h : (files.map fun f => f.1).Nodup := by decide +kernel
    exact h

/-- What a commit leaves of the new store. -/
noncomputable def store_of (g : Governed) : Disk :=
  (g.commit host none ( bootstrap_initialize host OneFact.init).1).1

theorem store_of_call : store = store_of (.checkpoint call) := rfl

theorem store_files : (store_of (.checkpoint call)).entries = files := by decide +kernel

theorem store_eq : store = opened := store_of_call.trans (AList.ext store_files)

theorem current : read_current store = .ok 18 := by
  rw [store_eq]
  decide +kernel

theorem snapshot_store : ∃ base, snapshot host store 18 = .ok base ∧
    base.manifest.checkpoint = 16 ∧ base.checkpoint = checkpoint := by
  rw [store_eq]
  have h : (fun s => (s.manifest.checkpoint, s.checkpoint)) <$> snapshot host opened 18 =
      .ok (16, checkpoint) := by decide +kernel
  obtain ⟨base, hbase, heq⟩ := map_ok.1 h
  exact ⟨base, hbase, congrArg Prod.fst heq, congrArg Prod.snd heq⟩

theorem evaluated : ∃ decision, evaluate_checkpoint host
    (checkpoint_proposal 18 16 (again checkpoint 16)) (authority_on 26 18) = .ok decision ∧
      item decision "decision" = .str "write" := by
  have h : (fun x => item x "decision") <$> evaluate_checkpoint host
    (checkpoint_proposal 18 16 (again checkpoint 16)) (authority_on 26 18) = .ok (.str "write") := by
    decide +kernel
  exact map_ok.1 h

end OneCheckpoint

/-- On the store with one checkpoint, its working state is not planned as a skip. -/
theorem plans_unchanged_as_write_one_checkpoint : ¬SkipsUnchanged OneCheckpoint.host
    OneCheckpoint.store (again OneCheckpoint.checkpoint 16) (OneCheckpoint.authority_on 26 18) := by
  obtain ⟨base, hbase, hid, hcheckpoint⟩ := OneCheckpoint.snapshot_store
  obtain ⟨decision, heval, hwrite⟩ := OneCheckpoint.evaluated
  rw [← hid, ← hcheckpoint] at heval ⊢
  exact plans_unchanged_as_write OneCheckpoint.current hbase
    (by rw [hcheckpoint]; decide +kernel) heval hwrite

/-- A store holds a checkpoint whose working state is planned again as a write. -/
theorem unchanged_state_written : ¬∀ (H : Crypto) (d : Disk) (id : Digest) (base : Snapshot)
    (authority decision : Json), read_current d = .ok id → snapshot H d id = .ok base →
      item base.checkpoint "schema" = .str "an-kla/checkpoint-v2" →
      evaluate_checkpoint H (checkpoint_proposal id base.manifest.checkpoint
        (again base.checkpoint base.manifest.checkpoint)) authority = .ok decision →
      item decision "decision" = .str "write" →
      SkipsUnchanged H d (again base.checkpoint base.manifest.checkpoint) authority := by
  intro h
  obtain ⟨base, hbase, hid, hcheckpoint⟩ := OneCheckpoint.snapshot_store
  obtain ⟨decision, heval, hwrite⟩ := OneCheckpoint.evaluated
  have hv2 : item base.checkpoint "schema" = .str "an-kla/checkpoint-v2" := by
    rw [hcheckpoint]
    decide +kernel
  rw [← hid, ← hcheckpoint] at heval
  obtain ⟨planning, hplan, hskip, -⟩ := h _ _ _ base _ decision OneCheckpoint.current hbase hv2
    heval hwrite
  rw [decision_again OneCheckpoint.current hbase hv2 heval hplan, hwrite, Json.str.injEq] at hskip
  exact absurd hskip (by decide)

end AnKla
