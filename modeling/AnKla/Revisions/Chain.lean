import AnKla.Transactions.Evidence
import AnKla.Revisions.Manifest

/-!
# The chain of revisions

A revision is read only when its ancestors are in order, back to the first
revision of the store or to a compaction root.

* `validate_transition`: a revision against its parent.
* `validate_compaction_root`: a root against its catalog, epoch, proof and stage.
* `validate_revision_chain`: the walk from a revision to its root; the watermark
  may end it early.
* `Chain`: the same without a watermark, as a predicate.
* `validate_revision_chain_iff`: the walk accepts exactly the chains.
-/

namespace AnKla

open PyJson Durable

variable (H : Crypto)

/-! ## One revision -/

/-- `verify_manifest_link`: the store identity that a manifest names is on disk. -/
def verify_manifest_link (d : Disk) (m : Manifest) : Except Failure Unit :=
  match m.store_identity with
  | none => .ok ()
  | some id =>
    match read_identity H d id with
    | .ok _ => .ok ()
    | .error _ => .error (.identity "store_identity_invalid")

/-- `usable_watermark`. -/
def usable_watermark (d : Disk) : Option Watermark :=
  match d.read .watermark with
  | some (.watermark w) => some w
  | _ => none

/-- `epoch_of`. -/
def epoch_of (m : Manifest) : Option Uuid := m.compaction_epoch.map (·.epoch_id)

/-- `binding_matches`: the watermark ends the walk only at the revision that it
    names, with its parent and its epoch. -/
def binding_matches (stop : Option Watermark) (id : Digest) (m : Manifest) : Bool :=
  match stop with
  | none => false
  | some w => w.revision = id && w.parent = m.parent && w.epoch_id = epoch_of m

/-! ## A compaction root -/

/-- What a compaction root's catalog, epoch and proof say of each other. -/
def root_agrees (m : Manifest) (link : EpochLink) (catalog : Catalog) (epoch : EpochManifest)
    (proof : RestoreProof) (policy : Json) : Bool :=
  catalog.epoch_id = link.epoch_id && catalog.source_revision = link.source_revision &&
    catalog.export_manifest_sha256 = link.export_manifest_sha256 &&
    epoch.epoch_id = link.epoch_id && .uuid epoch.transaction_id = m.transaction_id &&
    epoch.base_revision = link.source_revision &&
    epoch.export_manifest_sha256 = link.export_manifest_sha256 &&
    epoch.tombstone_catalog = link.tombstone_catalog &&
    epoch.delete_set_sha256 = catalog.delete_set_sha256 &&
    epoch.compaction_policy = H.digest_json policy &&
    proof.manifest_sha256 = link.export_manifest_sha256 &&
    proof.current_revision = link.source_revision &&
    some proof.store_identity_sha256 = m.store_identity &&
    catalog.archived_revisions.any fun a => a.revision = link.source_revision &&
      a.epoch_id = link.epoch_id && a.export_manifest_sha256 = link.export_manifest_sha256

/-- The transaction id of a manifest, as the name of its directory. -/
def Txid.uuid? : Txid → Option Uuid
  | .uuid u => some u
  | .root => none

/-- `_validate_compaction_root`. -/
def validate_compaction_root (error : String → Failure) (d : Disk) (id : Digest) (m : Manifest) :
    Except Failure Unit :=
  let invalid := error "manifest_compaction_epoch_invalid"
  match m.compaction_epoch, m.transaction_id.uuid? with
  | some link, some txid => do
    let catalog ← read_catalog H d link.tombstone_catalog
    let _ ← (validate_catalog H catalog).mapError fun _ => invalid
    let epoch ← read_epoch H d link.epoch_manifest
    let proof ← read_restore_proof H d epoch.restore_proof
    let _ ← (validate_catalog_chain H d link.tombstone_catalog).mapError fun _ => invalid
    match stage_evidence H d txid id with
    | none => .error invalid
    | some stage =>
      let policy ← (validate_policy_config stage.policy).mapError fun _ => invalid
      ensure (root_agrees H m link catalog epoch proof policy) invalid
  | _, _ => .error invalid

/-! ## A revision and its parent -/

/-- The refutations that a revision adds to its parent's, if its map may follow
    the parent's. -/
def added_refutations (m p : Manifest) : Option (List RefutationEntry) :=
  if p.schema ≠ .v1 then
    if m.features = p.features && (p.schema ≠ .v3 || m.compaction_epoch = p.compaction_epoch) &&
        p.refutations.isPrefixOf m.refutations &&
        m.refutations.length ≤ p.refutations.length + 1 then
      some (m.refutations.drop p.refutations.length)
    else none
  else if m.schema = .v2 then
    if m.refutations.length = 1 then some m.refutations else none
  else some []

/-- A refutation names the revision it was made on, and its target. -/
def refutation_bound (d : Disk) (parent_id : Digest) (entry : RefutationEntry) :
    Except Failure Bool := do
  let refutation ← read_refutation H d entry.refutation_id
  return item refutation "target_revision" = .str (ident parent_id) &&
    item refutation "stream" = .str entry.stream.name &&
    item refutation "target_record_sha256" = .str (ident entry.target_record_sha256)

/-- The evidence that a revision of schema 2 or 3 needs. -/
def validate_stage_of (error : String → Failure) (d : Disk) (id : Digest) (m : Manifest)
    (added : List RefutationEntry) : Except Failure Unit :=
  let invalid := error "revision_transition_invalid"
  match m.transaction_id.uuid? with
  | none => .error invalid
  | some txid =>
    match stage_evidence H d txid id with
    | none => .error invalid
    | some stage => do
      ensure (decide (stage.attempt.operation = .refute) == decide (added.length = 1)) invalid
      let _ ← (required_candidate_files H d txid id stage.attempt).mapError fun _ => invalid

/-- The body of the loop of `validate_revision_chain`: a revision against its
    parent, once both have been read. -/
def validate_transition (error : String → Failure) (d : Disk) (id : Digest) (m : Manifest)
    (parent_id : Digest) (p : Manifest) : Except Failure Unit := do
  let invalid := error "revision_transition_invalid"
  ensure (m.revision = p.revision + 1) invalid
  ensure (p.store_identity.isNone || m.store_identity = p.store_identity) invalid
  ensure (p.supersedes.isPrefixOf m.supersedes) invalid
  ensure (p.schema = .v1 || m.schema = p.schema) (error "revision_schema_downgrade")
  match added_refutations m p with
  | none => .error invalid
  | some added => do
    added.forM fun entry => do
      let bound ← refutation_bound H d parent_id entry
      ensure bound invalid
    if m.schema = .v1 then .ok () else validate_stage_of H error d id m added

/-- The end of the walk, at a revision without a parent. -/
def validate_root (error : String → Failure) (d : Disk) (id : Digest) (m : Manifest) :
    Except Failure Unit :=
  if m.schema = .v3 then validate_compaction_root H error d id m
  else ensure (m.revision = 0 && m.schema = .v1) (error "revision_transition_invalid")

/-- The loop of `validate_revision_chain`, with a bound on its steps. -/
def chain_loop (error : String → Failure) (stop : Option Watermark) (d : Disk) :
    ℕ → Digest → Manifest → List Digest → Except Failure Unit
  | 0, _, _, _ => .error (error "revision_transition_invalid")
  | n + 1, id, m, seen =>
    if id ∈ seen then .error (error "revision_transition_invalid")
    else if binding_matches stop id m then .ok ()
    else match m.parent with
      | none => validate_root H error d id m
      | some parent_id => do
        let p ← read_manifest H d parent_id
        validate_manifest error p
        verify_manifest_link H d p
        validate_transition H error d id m parent_id p
        chain_loop error stop d n parent_id p (id :: seen)

/-- `validate_revision_chain(store, revision_id, manifest, error, stop)`. -/
def validate_revision_chain (error : String → Failure) (stop : Option Watermark) (d : Disk)
    (revision_id : Digest) (m : Manifest) : Except Failure Unit :=
  chain_loop H error stop d (m.revision + 2) revision_id m []

/-! ## What the walk accepts -/

/-- A compaction root whose catalog, epoch, proof and stage are as they should be. -/
def CompactionRoot (d : Disk) (id : Digest) (m : Manifest) : Prop :=
  ∃ link txid catalog epoch proof stage, m.compaction_epoch = some link ∧
    m.transaction_id.uuid? = some txid ∧ read_catalog H d link.tombstone_catalog = .ok catalog ∧
    catalog.Valid H ∧ read_epoch H d link.epoch_manifest = .ok epoch ∧
    read_restore_proof H d epoch.restore_proof = .ok proof ∧
    (∃ w, validate_catalog_chain H d link.tombstone_catalog = .ok w) ∧
    stage_evidence H d txid id = some stage ∧
    stage.policy = some (.compaction_policy policy_config) ∧
    root_agrees H m link catalog epoch proof policy_config = true

/-- The evidence of a revision of schema 2 or 3. -/
def StageOf (d : Disk) (id : Digest) (m : Manifest) (added : List RefutationEntry) : Prop :=
  ∃ txid stage, m.transaction_id.uuid? = some txid ∧ stage_evidence H d txid id = some stage ∧
    (stage.attempt.operation = .refute ↔ added.length = 1) ∧
    ∃ files, required_candidate_files H d txid id stage.attempt = .ok files

/-- A revision that may follow its parent. -/
structure Transition (d : Disk) (id : Digest) (m : Manifest) (parent_id : Digest) (p : Manifest) :
    Prop where
  revision : m.revision = p.revision + 1
  identity : p.store_identity = none ∨ m.store_identity = p.store_identity
  supersedes : p.supersedes <+: m.supersedes
  schema : p.schema = .v1 ∨ m.schema = p.schema
  refutations : ∃ added, added_refutations m p = some added ∧
    (∀ entry ∈ added, refutation_bound H d parent_id entry = .ok true) ∧
    (m.schema ≠ .v1 → StageOf H d id m added)

/-- A revision without a parent that may stand there. -/
def Root (d : Disk) (id : Digest) (m : Manifest) : Prop :=
  (m.schema = .v3 ∧ CompactionRoot H d id m) ∨ (m.schema = .v1 ∧ m.revision = 0)

/-- A revision with its ancestors in order, back to a root. -/
inductive Chain (d : Disk) : Digest → Manifest → Prop
  | root {id m} (parent : m.parent = none) (root : Root H d id m) : Chain d id m
  | step {id m parent_id p} (parent : m.parent = some parent_id)
      (read : read_manifest H d parent_id = .ok p) (valid : p.Valid)
      (link : verify_manifest_link H d p = .ok ()) (transition : Transition H d id m parent_id p)
      (chain : Chain d parent_id p) : Chain d id m

variable {H}

theorem validate_compaction_root_ok {error : String → Failure} {d : Disk} {id : Digest}
    {m : Manifest} {u : Unit} :
    validate_compaction_root H error d id m = .ok u ↔ CompactionRoot H d id m := by
  rw [validate_compaction_root, CompactionRoot]
  split
  · next link txid hl ht =>
    simp only [bind_ok, mapError_ok, validate_catalog_ok]
    constructor
    · rintro ⟨catalog, hc, _, ⟨hv, -⟩, epoch, he, proof, hp, w, hw, h⟩
      split at h
      · cases h
      · next stage hs =>
        obtain ⟨policy, hval, h⟩ := bind_ok.1 h
        obtain ⟨hpol, rfl⟩ := validate_policy_config_ok (mapError_ok.1 hval)
        exact ⟨link, txid, catalog, epoch, proof, stage, hl, ht, hc, hv, he, hp, ⟨w, hw⟩, hs,
          hpol, ensure_ok.1 h⟩
    · rintro ⟨link', txid', catalog, epoch, proof, stage, hl', ht', hc, hv, he, hp, ⟨w, hw⟩, hs,
        hpol, h⟩
      obtain rfl : link = link' := Option.some.inj (hl.symm.trans hl')
      obtain rfl : txid = txid' := Option.some.inj (ht.symm.trans ht')
      refine ⟨catalog, hc, catalog, ⟨hv, rfl⟩, epoch, he, proof, hp, w, hw, ?_⟩
      rw [hs]
      refine bind_ok.2 ⟨policy_config, ?_, ensure_ok.2 h⟩
      rw [validate_policy_config, if_pos hpol]
      rfl
  · next hno =>
    constructor
    · intro h
      cases h
    · rintro ⟨link, txid, catalog, epoch, proof, stage, hl, ht, -⟩
      exact absurd ht (hno link txid hl)

theorem validate_stage_of_ok {error : String → Failure} {d : Disk} {id : Digest} {m : Manifest}
    {added : List RefutationEntry} {u : Unit} :
    validate_stage_of H error d id m added = .ok u ↔ StageOf H d id m added := by
  rw [validate_stage_of, StageOf]
  split
  · next hno =>
    constructor
    · intro h
      cases h
    · rintro ⟨txid, stage, ht, -⟩
      rw [hno] at ht
      cases ht
  · next txid ht =>
    constructor
    · intro h
      split at h
      · cases h
      · next stage hs =>
        obtain ⟨_, hop, h⟩ := bind_ok.1 h
        obtain ⟨files, hf, -⟩ := bind_ok.1 h
        rw [ensure_ok, beq_iff_eq, decide_eq_decide] at hop
        exact ⟨txid, stage, ht, hs, hop, files, mapError_ok.1 hf⟩
    · rintro ⟨txid', stage, ht', hs, hop, files, hf⟩
      obtain rfl : txid = txid' := Option.some.inj (ht.symm.trans ht')
      rw [hs]
      refine bind_ok.2 ⟨(), ensure_ok.2 ?_, bind_ok.2 ⟨files, mapError_ok.2 hf, rfl⟩⟩
      rw [beq_iff_eq, decide_eq_decide]
      exact hop

theorem validate_transition_ok {error : String → Failure} {d : Disk} {id : Digest}
    {m : Manifest} {parent_id : Digest} {p : Manifest} {u : Unit} :
    validate_transition H error d id m parent_id p = .ok u ↔ Transition H d id m parent_id p := by
  have hbound (added : List RefutationEntry) :
      (added.forM fun entry => do
        let bound ← refutation_bound H d parent_id entry
        ensure bound (error "revision_transition_invalid")) = .ok () ↔
      ∀ entry ∈ added, refutation_bound H d parent_id entry = .ok true := by
    rw [forM_ok]
    refine forall₂_congr fun entry _ => ?_
    rw [bind_ok]
    constructor
    · rintro ⟨bound, hb, h⟩
      rw [ensure_ok] at h
      rw [hb, h]
    · exact fun h => ⟨true, h, ensure_ok.2 rfl⟩
  simp only [validate_transition, bind_ok, ensure_ok, exists_const, decide_eq_true_eq,
    Bool.or_eq_true, Option.isNone_iff_eq_none, List.isPrefixOf_iff_prefix]
  constructor
  · rintro ⟨hrev, hid, hsup, hsch, h⟩
    split at h
    · cases h
    · next added ha =>
      obtain ⟨⟨⟩, hb, h⟩ := bind_ok.1 h
      refine ⟨hrev, hid, hsup, hsch, added, ha, (hbound added).1 hb, fun hv => ?_⟩
      rw [if_neg hv] at h
      exact validate_stage_of_ok.1 h
  · rintro ⟨hrev, hid, hsup, hsch, added, ha, hb, hst⟩
    refine ⟨hrev, hid, hsup, hsch, ?_⟩
    rw [ha]
    refine bind_ok.2 ⟨(), (hbound added).2 hb, ?_⟩
    split_ifs with hv
    · rfl
    · exact validate_stage_of_ok.2 (hst hv)

theorem validate_root_ok {error : String → Failure} {d : Disk} {id : Digest} {m : Manifest}
    {u : Unit} : validate_root H error d id m = .ok u ↔ Root H d id m := by
  rw [validate_root, Root]
  split_ifs with h
  · simp [h, validate_compaction_root_ok]
  · simp [h, and_comm]

/-- The walk accepts what a chain is, whatever it calls the error. -/
theorem chain_of_loop {error : String → Failure} {d : Disk} {n : ℕ} {id : Digest} {m : Manifest}
    {seen : List Digest} (h : chain_loop H error none d n id m seen = .ok ()) : Chain H d id m := by
  induction n generalizing id m seen with
  | zero => cases h
  | succ n ih =>
    rw [chain_loop] at h
    simp only [binding_matches, Bool.false_eq_true, if_false] at h
    split_ifs at h with hs
    cases hp : m.parent with
    | none =>
      rw [hp] at h
      exact .root hp (validate_root_ok.1 h)
    | some parent_id =>
      rw [hp] at h
      obtain ⟨p, hr, h⟩ := bind_ok.1 h
      obtain ⟨_, hv, h⟩ := bind_ok.1 h
      obtain ⟨⟨⟩, hl, h⟩ := bind_ok.1 h
      obtain ⟨_, ht, h⟩ := bind_ok.1 h
      exact .step hp hr (validate_manifest_ok.1 hv) hl (validate_transition_ok.1 ht) (ih h)

/-- A manifest that is read under its digest is the one of that digest. -/
theorem digest_of_read_manifest {d : Disk} {id : Digest} {m : Manifest}
    (h : read_manifest H d id = .ok m) : H.digest (.manifest m) = id := by
  obtain ⟨c, -, hd, hm⟩ := read_json_object_ok.1 h
  cases c <;> cases hm
  exact hd

/-- The walk reaches the root of a chain: the revision numbers fall, so no revision
    comes twice and the bound is enough. -/
theorem loop_of_chain {error : String → Failure} {d : Disk} {n : ℕ} {id : Digest} {m : Manifest}
    {seen : List Digest} (hid : H.digest (.manifest m) = id) (hn : m.revision < n)
    (hseen : ∀ s ∈ seen, ∃ m', H.digest (.manifest m') = s ∧ m.revision < m'.revision)
    (h : Chain H d id m) : chain_loop H error none d n id m seen = .ok () := by
  induction n generalizing id m seen with
  | zero => exact absurd hn (Nat.not_lt_zero _)
  | succ n ih =>
    have hfresh : id ∉ seen := by
      intro hmem
      obtain ⟨m', hm', hlt⟩ := hseen id hmem
      obtain rfl := Crypto.manifest_inj (hm'.trans hid.symm)
      exact absurd hlt (Nat.lt_irrefl _)
    rw [chain_loop, if_neg hfresh]
    simp only [binding_matches, Bool.false_eq_true, if_false]
    cases h with
    | root hp hr =>
      rw [hp]
      exact validate_root_ok.2 hr
    | @step _ _ parent_id p hp hread hv hl ht hc =>
      rw [hp]
      have hrev := ht.revision
      refine bind_ok.2 ⟨p, hread, bind_ok.2 ⟨(), validate_manifest_ok.2 hv, bind_ok.2 ⟨(), hl,
        bind_ok.2 ⟨(), validate_transition_ok.2 ht, ?_⟩⟩⟩⟩
      refine ih (digest_of_read_manifest hread) (by omega) (fun s hs => ?_) hc
      obtain rfl | hs := List.mem_cons.1 hs
      · exact ⟨m, hid, by omega⟩
      · obtain ⟨m', hm', hlt⟩ := hseen s hs
        exact ⟨m', hm', by omega⟩

/-- Validation from scratch accepts exactly the chains. -/
theorem validate_revision_chain_iff {error : String → Failure} {d : Disk} {id : Digest}
    {m : Manifest} (hid : H.digest (.manifest m) = id) :
    validate_revision_chain H error none d id m = .ok () ↔ Chain H d id m :=
  ⟨chain_of_loop, loop_of_chain hid (by omega) (fun s hs => absurd hs List.not_mem_nil)⟩

end AnKla
