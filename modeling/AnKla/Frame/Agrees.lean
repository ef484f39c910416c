import AnKla.Frame.Filed

/-!
# Disks that agree

What validating a chain of revisions depends on: the filed objects, and what the
transactions of the chain left. Two disks that agree on these have the same chains.

* `Agrees`: the second disk has the objects of the first, and the same evidence
  of some transactions.
* `Below`: the ancestors of a revision, itself included.
* `Chain.agrees`: a chain of one disk is a chain of the other.
-/

namespace AnKla

open PyJson Durable

variable (H : Crypto)

/-- The journal of a transaction is the same, or names the same attempt, candidate
    and stage. -/
def JournalKept (d e : Disk) (t : Uuid) : Prop :=
  e.read (.journal t) = d.read (.journal t) ∨
    ∃ j j', journal d t = some (some j) ∧ journal e t = some (some j') ∧
      j'.attempt = j.attempt ∧ j'.candidate = j.candidate ∧ j'.stage_object = j.stage_object

/-- The second disk has the objects of the first at some paths, and the same
    evidence of some transactions. -/
structure Agrees (U : Uuid → Prop) (O : Path → Prop) (d e : Disk) : Prop where
  files : ∀ {p c}, O p → Filed H p c → d.read p = some c → e.read p = some c
  journals : ∀ {t}, U t → JournalKept d e t
  stages : ∀ {t}, U t → ∀ id, e.read (.stage t id) = d.read (.stage t id)
  intents : ∀ {id r}, U r.transaction_id → r.kind = .intent →
    (read_ref_log H d id = .ok r ↔ read_ref_log H e id = .ok r)

/-- An ancestor of a revision, or the revision itself. -/
inductive Below (d : Disk) : Digest → Manifest → Digest → Manifest → Prop
  | here {id m} : Below d id m id m
  | step {id m parent p id' m'} (up : m.parent = some parent)
      (read : read_manifest H d parent = .ok p) (below : Below d parent p id' m') :
      Below d id m id' m'

/-- The objects that no compaction deletes are at these paths, and those of a
    manifest. -/
structure Covers (O : Path → Prop) (id : Digest) (m : Manifest) : Prop where
  revision : O (.revision id)
  parent : ∀ p, m.parent = some p → O (.revision p)
  refutations : ∀ e ∈ m.refutations, O (.refutation e.refutation_id)

/-- The paths of objects that are never deleted. -/
def Permanent (O : Path → Prop) : Prop :=
  (∀ d, O (.identity d)) ∧ (∀ d, O (.catalog d)) ∧ (∀ d, O (.epoch d)) ∧ ∀ d, O (.restore_proof d)

variable {H}
variable {U : Uuid → Prop} {O : Path → Prop} {d e : Disk}

theorem JournalKept.trans {f : Disk} {t : Uuid} (h : JournalKept d e t) (h' : JournalKept e f t) :
    JournalKept d f t := by
  have same {x y : Disk} (hr : y.read (.journal t) = x.read (.journal t)) :
      journal y t = journal x t := by rw [journal, journal, hr]
  obtain h | ⟨j, j', hj, hj', ha, hc, hs⟩ := h
  · obtain h' | ⟨j, j', hj, hj', ha, hc, hs⟩ := h'
    · exact .inl (h'.trans h)
    · exact .inr ⟨j, j', (same h).symm.trans hj, hj', ha, hc, hs⟩
  · obtain h' | ⟨k, k', hk, hk', ha', hc', hs'⟩ := h'
    · exact .inr ⟨j, j', hj, (same h').trans hj', ha, hc, hs⟩
    · obtain rfl : j' = k := Option.some.inj (Option.some.inj (hj'.symm.trans hk))
      exact .inr ⟨j, k', hj, hk', ha'.trans ha, hc'.trans hc, hs'.trans hs⟩

theorem Agrees.refl : Agrees H U O d d :=
  ⟨fun _ _ h => h, fun _ => .inl rfl, fun _ _ => rfl, fun _ _ => Iff.rfl⟩

theorem Agrees.trans {f : Disk} (h : Agrees H U O d e) (h' : Agrees H U O e f) :
    Agrees H U O d f where
  files ho hf hd := h'.files ho hf (h.files ho hf hd)
  journals hu := (h.journals hu).trans (h'.journals hu)
  stages hu id := (h'.stages hu id).trans (h.stages hu id)
  intents hu hk := (h.intents hu hk).trans (h'.intents hu hk)

/-! ## Intents -/

variable (H) in
/-- The entry is the intent of a candidate. -/
def is_intent (d : Disk) (txid : Uuid) (candidate : Digest) (parent : Option Digest)
    (id : Digest) : Bool :=
  match read_ref_log H d id with
  | .ok r => r.kind = .intent && r.transaction_id = txid && r.candidate = candidate &&
      some r.parent = parent
  | .error _ => false

theorem exact_intent_path_eq (d : Disk) (t : Uuid) (candidate : Digest) (parent : Option Digest) :
    exact_intent_path H d t candidate parent =
      match (ref_logs.listing d).filter (is_intent H d t candidate parent) with
      | [id] => .ok id
      | _ => .error (.value "transaction_intent_missing_or_ambiguous") := rfl

/-- The listed entries that are intents of a candidate are the filed ones. -/
theorem is_intent_iff {t : Uuid} {candidate : Digest} {parent : Option Digest} {id : Digest} :
    ((d.read (ref_logs.path id)).isSome = true ∧ is_intent H d t candidate parent id = true) ↔
      ∃ r, read_ref_log H d id = .ok r ∧ r.kind = .intent ∧ r.transaction_id = t ∧
        r.candidate = candidate ∧ some r.parent = parent := by
  constructor
  · rintro ⟨-, h⟩
    rw [is_intent] at h
    split at h
    · next r hr =>
      simp only [Bool.and_eq_true, decide_eq_true_eq] at h
      exact ⟨r, hr, h.1.1.1, h.1.1.2, h.1.2, h.2⟩
    · cases h
  · rintro ⟨r, hr, h1, h2, h3, h4⟩
    have hread : d.read (.ref_log id) = some (.ref_log r) := (read_ref_log_iff.1 hr).1
    refine ⟨by rw [show ref_logs.path id = .ref_log id from rfl, hread]; rfl, ?_⟩
    rw [is_intent, hr]
    simp [h1, h2, h3, h4]

/-! ## Listed stages -/

variable (H) in
/-- The stage of an entry, if it is one of a candidate. -/
def stage_for (d : Disk) (t : Uuid) (candidate id : Digest) : Option Stage :=
  match read_stage H d t id with
  | .ok s => if s.candidate = candidate ∧ s.attempt.transaction_id = t then some s else none
  | .error _ => none

theorem stage_evidence_eq (d : Disk) (t : Uuid) (candidate : Digest) :
    stage_evidence H d t candidate =
      match (stages t).listing d |>.filterMap (stage_for H d t candidate) with
      | [s] => some s
      | _ => none := rfl

theorem stage_for_eq {t : Uuid} {candidate id : Digest} {s : Stage} :
    stage_for H d t candidate id = some s ↔
      read_stage H d t id = .ok s ∧ s.candidate = candidate ∧ s.attempt.transaction_id = t := by
  rw [stage_for]
  cases hr : read_stage H d t id with
  | error e => simp
  | ok s' =>
    simp only [Option.ite_none_right_eq_some, Option.some.injEq, Except.ok.injEq]
    constructor
    · rintro ⟨h, rfl⟩
      exact ⟨rfl, h⟩
    · rintro ⟨rfl, h⟩
      exact ⟨h, rfl⟩

/-- The stage of a candidate, when there is no other. -/
theorem stage_evidence_of_unique {t : Uuid} {id : Digest} {s : Stage}
    (hs : read_stage H d t id = .ok s) (ht : s.attempt.transaction_id = t)
    (h : ∀ id' s', read_stage H d t id' = .ok s' → s'.candidate = s.candidate → s' = s) :
    stage_evidence H d t s.candidate = some s := by
  have hread := read_stage_iff.1 hs
  have hone : ((stages t).listing d).filterMap (stage_for H d t s.candidate) = [s] := by
    refine Dir.listing_filterMap_eq_singleton (x := id) ?_ (stage_for_eq.2 ⟨hs, rfl, ht⟩)
      fun id' _ hid => ?_
    · rw [show (stages t).path id = .stage t id from rfl, hread.1]
      rfl
    · obtain ⟨s', hs'⟩ := Option.isSome_iff_exists.1 hid
      obtain ⟨hr, hc, -⟩ := stage_for_eq.1 hs'
      obtain rfl := h id' s' hr hc
      exact (read_stage_iff.1 hr).2.symm.trans hread.2
  rw [stage_evidence_eq, hone]

/-! ## Listed candidates -/

variable (H) in
/-- The revision is one of a transaction. -/
def is_candidate (d : Disk) (t : Uuid) (id : Digest) : Bool :=
  match read_manifest H d id with
  | .ok m => m.transaction_id = .uuid t
  | .error _ => false

theorem manifest_candidates_eq (d : Disk) (t : Uuid) :
    manifest_candidates H d t = (revisions.listing d).filter (is_candidate H d t) := rfl

theorem is_candidate_iff {t : Uuid} {id : Digest} :
    ((d.read (revisions.path id)).isSome = true ∧ is_candidate H d t id = true) ↔
      ∃ m, m.transaction_id = .uuid t ∧ read_manifest H d id = .ok m := by
  constructor
  · rintro ⟨-, h⟩
    rw [is_candidate] at h
    split at h
    · next m hm => exact ⟨m, by simpa using h, hm⟩
    · cases h
  · rintro ⟨m, ht, hm⟩
    rw [show revisions.path id = .revision id from rfl, (read_manifest_iff.1 hm).1, is_candidate, hm]
    exact ⟨rfl, by simpa using ht⟩

theorem mem_manifest_candidates {t : Uuid} {id : Digest} :
    id ∈ manifest_candidates H d t ↔
      ∃ m, m.transaction_id = .uuid t ∧ read_manifest H d id = .ok m := by
  rw [manifest_candidates_eq, List.mem_filter, Dir.mem_listing, is_candidate_iff]

namespace Agrees

variable (ha : Agrees H U O d e)
include ha

/-! ## Objects -/

theorem read_manifest {id : Digest} {m : Manifest} (ho : O (.revision id))
    (h : read_manifest H d id = .ok m) : AnKla.read_manifest H e id = .ok m := by
  obtain ⟨hr, hd⟩ := read_manifest_iff.1 h
  exact read_manifest_iff.2 ⟨ha.files ho ⟨rfl, congrArg (fun x => [x]) hd.symm⟩ hr, hd⟩

theorem read_refutation {id : Digest} {v : Json} (ho : O (.refutation id))
    (h : read_refutation H d id = .ok v) : AnKla.read_refutation H e id = .ok v := by
  obtain ⟨hr, hd⟩ := read_refutation_iff.1 h
  exact read_refutation_iff.2 ⟨ha.files ho ⟨rfl, congrArg (fun x => [x]) hd.symm⟩ hr, hd⟩

theorem read_identity {id : Digest} {s : StoreIdentity} (ho : O (.identity id))
    (h : read_identity H d id = .ok s) : AnKla.read_identity H e id = .ok s := by
  obtain ⟨hr, hd⟩ := read_identity_iff.1 h
  exact read_identity_iff.2 ⟨ha.files ho ⟨rfl, congrArg (fun x => [x]) hd.symm⟩ hr, hd⟩

theorem read_catalog {id : Digest} {c : Catalog} (ho : O (.catalog id))
    (h : read_catalog H d id = .ok c) : AnKla.read_catalog H e id = .ok c := by
  obtain ⟨hr, hd⟩ := read_catalog_iff.1 h
  exact read_catalog_iff.2 ⟨ha.files ho ⟨rfl, congrArg (fun x => [x]) hd.symm⟩ hr, hd⟩

theorem read_epoch {id : Digest} {m : EpochManifest} (ho : O (.epoch id))
    (h : read_epoch H d id = .ok m) : AnKla.read_epoch H e id = .ok m := by
  obtain ⟨hr, hd⟩ := read_epoch_iff.1 h
  exact read_epoch_iff.2 ⟨ha.files ho ⟨rfl, congrArg (fun x => [x]) hd.symm⟩ hr, hd⟩

theorem read_restore_proof {id : Digest} {p : RestoreProof} (ho : O (.restore_proof id))
    (h : read_restore_proof H d id = .ok p) : AnKla.read_restore_proof H e id = .ok p := by
  obtain ⟨hr, hd⟩ := read_restore_proof_iff.1 h
  exact read_restore_proof_iff.2 ⟨ha.files ho ⟨rfl, congrArg (fun x => [x]) hd.symm⟩ hr, hd⟩

theorem verify_manifest_link {m : Manifest} (hp : Permanent O)
    (h : verify_manifest_link H d m = .ok ()) : AnKla.verify_manifest_link H e m = .ok () := by
  rw [AnKla.verify_manifest_link] at h ⊢
  split at h
  · rfl
  · next id hid =>
    split at h
    · next s hs => simp only [ha.read_identity (hp.1 id) hs]
    · cases h

/-! ## Transactions -/

theorem read_stage {t : Uuid} (hu : U t) (id : Digest) :
    AnKla.read_stage H e t id = read_stage H d t id := by
  rw [AnKla.read_stage, AnKla.read_stage, read_json_object, read_json_object, ha.stages hu id]

theorem listing_stages {t : Uuid} (hu : U t) :
    (AnKla.stages t).listing e = (AnKla.stages t).listing d :=
  Dir.listing_congr fun id => by
    rw [show (AnKla.stages t).path id = .stage t id from rfl, ha.stages hu id]

theorem stage_evidence {t : Uuid} (hu : U t) (candidate : Digest) :
    AnKla.stage_evidence H e t candidate = stage_evidence H d t candidate := by
  simp only [AnKla.stage_evidence, ha.listing_stages hu, ha.read_stage hu]

/-- The stage that the journal names is the same. -/
theorem named_stage {t : Uuid} (hu : U t) : AnKla.named_stage e t = named_stage d t := by
  obtain h | ⟨j, j', hj, hj', -, -, hs⟩ := ha.journals hu
  · rw [AnKla.named_stage, AnKla.named_stage, journal, journal, h]
  · rw [AnKla.named_stage, AnKla.named_stage, hj, hj']
    exact hs

theorem exact_stage_path {t : Uuid} (hu : U t) (candidate : Digest) (attempt : Attempt) :
    AnKla.exact_stage_path H e t candidate attempt = exact_stage_path H d t candidate attempt := by
  simp only [AnKla.exact_stage_path, ha.named_stage hu, ha.listing_stages hu, ha.read_stage hu]

theorem exact_intent_path {t : Uuid} (hu : U t) (candidate : Digest) (parent : Option Digest) :
    AnKla.exact_intent_path H e t candidate parent = exact_intent_path H d t candidate parent := by
  have hfound : (ref_logs.listing e).filter (is_intent H e t candidate parent) =
      (ref_logs.listing d).filter (is_intent H d t candidate parent) := by
    refine Dir.listing_filter_congr fun id => ?_
    rw [is_intent_iff, is_intent_iff]
    refine exists_congr fun r => and_congr_left fun hr => ?_
    exact (ha.intents (by rw [hr.2.1]; exact hu) hr.1).symm
  rw [exact_intent_path_eq, exact_intent_path_eq, hfound]

/-! ## Candidates -/

theorem read_parent {m : Manifest} {parent : Option Manifest}
    (ho : ∀ p, m.parent = some p → O (.revision p)) (h : read_parent H d m = .ok parent) :
    AnKla.read_parent H e m = .ok parent := by
  rw [AnKla.read_parent] at h ⊢
  cases hpar : m.parent with
  | none =>
    rw [hpar] at h
    exact h
  | some p =>
    rw [hpar] at h
    simp only at h ⊢
    cases hpm : AnKla.read_manifest H d p with
    | error err =>
      rw [hpm] at h
      cases h
    | ok pm =>
      rw [hpm] at h
      rw [ha.read_manifest (ho p hpar) hpm]
      exact h

theorem operation_files {t : Uuid} {m : Manifest} {parent : Option Manifest} {stage : Stage}
    {attempt : Attempt} {files : List Path} (hp : Permanent O)
    (hr : ∀ r ∈ m.refutations, O (.refutation r.refutation_id))
    (h : operation_files H d t m parent stage attempt = .ok files) :
    AnKla.operation_files H e t m parent stage attempt = .ok files := by
  rw [AnKla.operation_files.eq_def] at h ⊢
  cases hop : attempt.operation with
  | compact =>
    rw [hop] at h
    simp only [bind_ok] at h ⊢
    obtain ⟨u, hu, h⟩ := h
    refine ⟨u, hu, ?_⟩
    cases hl : m.compaction_epoch with
    | none => rw [hl] at h; cases h
    | some link =>
      rw [hl] at h
      simp only [bind_ok] at h ⊢
      obtain ⟨epoch, he, h⟩ := h
      exact ⟨epoch, ha.read_epoch (hp.2.2.1 _) he, h⟩
  | refute =>
    rw [hop] at h
    simp only at h ⊢
    split at h
    · next entry hentry =>
      obtain ⟨v, hv, h⟩ := bind_ok.1 h
      have hmem : entry ∈ m.refutations := by
        have : entry ∈ new_refutations m parent := by rw [hentry]; exact List.mem_singleton_self _
        exact (List.mem_filter.1 this).1
      exact bind_ok.2 ⟨v, ha.read_refutation (hr entry hmem) hv, h⟩
    · cases h
  | init => rw [hop] at h; exact h
  | write => rw [hop] at h; exact h
  | checkpoint => rw [hop] at h; exact h
  | internal_commit => rw [hop] at h; exact h

theorem refutation_files {entry : RefutationEntry} {files : List Path}
    (ho : O (.refutation entry.refutation_id)) (h : refutation_files H d entry = .ok files) :
    AnKla.refutation_files H e entry = .ok files := by
  rw [AnKla.refutation_files] at h ⊢
  obtain ⟨v, hv, h⟩ := bind_ok.1 h
  exact bind_ok.2 ⟨v, ha.read_refutation ho hv, h⟩

end Agrees

/-- A loop returns if every turn does. -/
theorem mapM_ok_iff {ε α : Type*} {β : Type} {f : α → Except ε β} {xs : List α} :
    (∃ ys, xs.mapM f = .ok ys) ↔ ∀ x ∈ xs, ∃ y, f x = .ok y := by
  induction xs with
  | nil => exact iff_of_true ⟨[], rfl⟩ (by simp)
  | cons x xs ih =>
    rw [List.forall_mem_cons, ← ih, List.mapM_cons]
    simp only [bind_ok, pure_ok]
    exact ⟨fun ⟨_, y, hy, ys, hys, _⟩ => ⟨⟨y, hy⟩, ys, hys⟩,
      fun ⟨⟨y, hy⟩, ys, hys⟩ => ⟨_, y, hy, ys, hys, rfl⟩⟩

theorem mapM_ok_mem {ε α : Type*} {β : Type} {f : α → Except ε β} {xs : List α} {ys : List β}
    (h : xs.mapM f = .ok ys) {x : α} (hx : x ∈ xs) : ∃ y ∈ ys, f x = .ok y := by
  induction xs generalizing ys with
  | nil => exact absurd hx List.not_mem_nil
  | cons x' xs ih =>
    rw [List.mapM_cons] at h
    obtain ⟨y, hy, h⟩ := bind_ok.1 h
    obtain ⟨ys', hys, h⟩ := bind_ok.1 h
    obtain rfl := pure_ok.1 h
    obtain rfl | hx := List.mem_cons.1 hx
    · exact ⟨y, List.mem_cons_self, hy⟩
    · obtain ⟨y', hy', hf⟩ := ih hys hx
      exact ⟨y', List.mem_cons_of_mem _ hy', hf⟩

theorem mem_of_mapM_ok {ε α : Type*} {β : Type} {f : α → Except ε β} {xs : List α} {ys : List β}
    (h : xs.mapM f = .ok ys) {y : β} (hy : y ∈ ys) : ∃ x ∈ xs, f x = .ok y := by
  induction xs generalizing ys with
  | nil =>
    obtain rfl := pure_ok.1 h
    exact absurd hy List.not_mem_nil
  | cons x xs ih =>
    rw [List.mapM_cons] at h
    obtain ⟨y', hy', h⟩ := bind_ok.1 h
    obtain ⟨ys', hys, h⟩ := bind_ok.1 h
    obtain rfl := pure_ok.1 h
    obtain rfl | hy := List.mem_cons.1 hy
    · exact ⟨x, List.mem_cons_self, hy'⟩
    · obtain ⟨x', hx', hf⟩ := ih hys hy
      exact ⟨x', List.mem_cons_of_mem _ hx', hf⟩

theorem mapM_ok_of_imp {α : Type*} {β : Type} {f g : α → Except Failure β} {xs : List α}
    {ys : List β} (h : xs.mapM f = .ok ys) (hfg : ∀ x ∈ xs, ∀ y, f x = .ok y → g x = .ok y) :
    xs.mapM g = .ok ys := by
  induction xs generalizing ys with
  | nil => exact h
  | cons x xs ih =>
    rw [List.mapM_cons] at h ⊢
    obtain ⟨y, hy, h⟩ := bind_ok.1 h
    obtain ⟨ys', hys, h⟩ := bind_ok.1 h
    exact bind_ok.2 ⟨y, hfg x List.mem_cons_self y hy, bind_ok.2 ⟨ys',
      ih hys fun x' hx' => hfg x' (List.mem_cons_of_mem _ hx'), h⟩⟩

namespace Agrees

variable (ha : Agrees H U O d e)
include ha

/-- What a candidate needs, it needs on both disks. -/
theorem required_candidate_files {t : Uuid} {candidate : Digest} {attempt : Attempt}
    {files : List Path} (hp : Permanent O) (hu : U t)
    (hc : ∀ m, AnKla.read_manifest H d candidate = .ok m → Covers O candidate m)
    (h : required_candidate_files H d t candidate attempt = .ok files) :
    AnKla.required_candidate_files H e t candidate attempt = .ok files := by
  rw [AnKla.required_candidate_files] at h ⊢
  obtain ⟨m, hm, h⟩ := bind_ok.1 h
  have hcov := hc m hm
  obtain ⟨parent, hparent, h⟩ := bind_ok.1 h
  obtain ⟨refs, hrefs, h⟩ := bind_ok.1 h
  have hrefs' := mapM_ok_of_imp (g := AnKla.refutation_files H e) hrefs fun r hr fs hfs =>
    ha.refutation_files (hcov.refutations r (List.mem_filter.1 hr).1) hfs
  obtain ⟨stage_id, hs, h⟩ := bind_ok.1 h
  obtain ⟨stage, hst, h⟩ := bind_ok.1 h
  obtain ⟨extra, hex, h⟩ := bind_ok.1 h
  obtain ⟨intent, hi, h⟩ := bind_ok.1 h
  refine bind_ok.2 ⟨m, ha.read_manifest hcov.revision hm, bind_ok.2 ⟨parent, ?_, bind_ok.2
    ⟨refs, hrefs', bind_ok.2 ⟨stage_id, ?_, bind_ok.2 ⟨stage, ?_, bind_ok.2 ⟨extra,
      ha.operation_files hp hcov.refutations hex, bind_ok.2 ⟨intent, ?_, h⟩⟩⟩⟩⟩⟩⟩
  · exact ha.read_parent hcov.parent hparent
  · rw [ha.exact_stage_path hu, hs]
  · rw [ha.read_stage hu, hst]
  · rw [← hi, intent_files, intent_files, ha.exact_intent_path hu]

/-! ## Chains -/

theorem walk_catalogs (hp : Permanent O) {n : ℕ} {queue : List CatalogVisit} {seen w : CatalogWalk}
    (h : walk_catalogs H d n queue seen = .ok w) : AnKla.walk_catalogs H e n queue seen = .ok w := by
  induction n generalizing queue seen with
  | zero =>
    cases queue with
    | nil => rw [AnKla.walk_catalogs] at h ⊢; exact h
    | cons v queue => rw [AnKla.walk_catalogs] at h; cases h
  | succ n ih =>
    cases queue with
    | nil => rw [AnKla.walk_catalogs] at h ⊢; exact h
    | cons v queue =>
      rw [AnKla.walk_catalogs] at h ⊢
      cases hs : skip_visited seen (v :: queue) with
      | error err =>
        rw [hs] at h
        cases h
      | ok rest =>
      rw [hs] at h
      cases rest with
      | nil => exact h
      | cons v' queue' =>
        simp only at h ⊢
        cases hc : visit_catalog H d v' seen with
        | error err =>
          rw [hc] at h
          cases h
        | ok c =>
          rw [hc] at h
          obtain ⟨hr, hvisit⟩ := visit_catalog_ok.1 hc
          rw [visit_catalog_ok.2 ⟨ha.read_catalog (hp.2.1 _) hr, hvisit⟩]
          exact ih h

theorem validate_catalog_chain (hp : Permanent O) {id : Digest} {w : CatalogWalk}
    (h : validate_catalog_chain H d id = .ok w) : AnKla.validate_catalog_chain H e id = .ok w :=
  ha.walk_catalogs hp h

theorem compactionRoot (hp : Permanent O) {id : Digest} {m : Manifest}
    (hu : ∀ u, m.transaction_id.uuid? = some u → U u) (h : CompactionRoot H d id m) :
    CompactionRoot H e id m := by
  obtain ⟨link, txid, catalog, epoch, proof, stage, hl, ht, hc, hv, he, hpr, ⟨w, hw⟩, hs, hpol, hag⟩ := h
  refine ⟨link, txid, catalog, epoch, proof, stage, hl, ht, ha.read_catalog (hp.2.1 _) hc, hv,
    ha.read_epoch (hp.2.2.1 _) he, ha.read_restore_proof (hp.2.2.2 _) hpr,
    ⟨w, ha.validate_catalog_chain hp hw⟩, ?_, hpol, hag⟩
  rw [ha.stage_evidence (hu txid ht)]
  exact hs

theorem stageOf (hp : Permanent O) {id : Digest} {m : Manifest} {added : List RefutationEntry}
    (hm : H.digest (.manifest m) = id) (hcov : Covers O id m)
    (hu : ∀ u, m.transaction_id.uuid? = some u → U u) (h : StageOf H d id m added) :
    StageOf H e id m added := by
  obtain ⟨txid, stage, ht, hs, hop, files, hf⟩ := h
  refine ⟨txid, stage, ht, ?_, hop, files, ?_⟩
  · rw [ha.stage_evidence (hu txid ht)]
    exact hs
  · refine ha.required_candidate_files hp (hu txid ht) (fun m' hm' => ?_) hf
    obtain rfl := Crypto.manifest_inj ((read_manifest_iff.1 hm').2.trans hm.symm)
    exact hcov

theorem transition (hp : Permanent O) {id : Digest} {m : Manifest} {parent_id : Digest}
    {p : Manifest} (hm : H.digest (.manifest m) = id) (hcov : Covers O id m)
    (hu : ∀ u, m.transaction_id.uuid? = some u → U u) (h : Transition H d id m parent_id p) :
    Transition H e id m parent_id p := by
  obtain ⟨added, hadd, hb, hst⟩ := h.refutations
  refine ⟨h.revision, h.identity, h.supersedes, h.schema, added, hadd, fun r hr => ?_, fun hv =>
    ha.stageOf hp hm hcov hu (hst hv)⟩
  have hmem : r ∈ m.refutations := by
    rw [added_refutations] at hadd
    split_ifs at hadd
    · cases hadd
      exact List.mem_of_mem_drop hr
    · cases hadd
      exact hr
    · cases hadd
      exact absurd hr List.not_mem_nil
  have hbr := hb r hr
  rw [refutation_bound] at hbr ⊢
  obtain ⟨v, hv, hbr⟩ := bind_ok.1 hbr
  exact bind_ok.2 ⟨v, ha.read_refutation (hcov.refutations r hmem) hv, hbr⟩

/-- A chain of one disk is a chain of the other. -/
theorem chain (hp : Permanent O) {id : Digest} {m : Manifest} (hm : H.digest (.manifest m) = id)
    (hb : ∀ id' m', Below H d id m id' m' →
      Covers O id' m' ∧ ∀ u, m'.transaction_id.uuid? = some u → U u)
    (h : Chain H d id m) : Chain H e id m := by
  induction h with
  | @root id m hpar hroot =>
    refine .root hpar ?_
    obtain ⟨hv, hroot⟩ | hroot := hroot
    · exact .inl ⟨hv, ha.compactionRoot hp (hb id m .here).2 hroot⟩
    · exact .inr hroot
  | @step id m parent_id p hpar hread hvalid hlink htrans hchain ih =>
    have hp' := digest_of_read_manifest hread
    have hbp : ∀ id' m', Below H d parent_id p id' m' →
        Covers O id' m' ∧ ∀ u, m'.transaction_id.uuid? = some u → U u :=
      fun id' m' hbelow => hb id' m' (.step hpar hread hbelow)
    have hhere := hb id m .here
    exact .step hpar (ha.read_manifest (hhere.1.parent _ hpar) hread) hvalid
      (ha.verify_manifest_link hp hlink) (ha.transition hp hm hhere.1 hhere.2 htrans) (ih hp' hbp)

/-- The ancestors of a revision are the same. -/
theorem below {id : Digest} {m : Manifest} {id' : Digest} {m' : Manifest}
    (hb : ∀ id' m', Below H d id m id' m' → Covers O id' m') (h : Below H d id m id' m') :
    Below H e id m id' m' := by
  induction h with
  | here => exact .here
  | @step id m parent p id' m' hpar hread hbelow ih =>
    exact .step hpar (ha.read_manifest ((hb id m .here).parent _ hpar) hread)
      (ih fun id'' m'' hb' => hb id'' m'' (.step hpar hread hb'))

end Agrees

end AnKla
