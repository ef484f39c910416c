import AnKla.Frame.Beside
import AnKla.Revisions.Watermark
import AnKla.Snapshot.Reads

/-!
# Disks with another watermark

Two disks that differ in nothing but their watermark files. What a commit reads is the
same on both, apart from how soon the walk of a chain ends.

* `Alike`: the same files, the watermark apart.
* `Alike.inspect_transaction` and its likes: readers that see no difference.
* `Unwatched`: no identity receipt is on the watermark.
* `Alike.snapshot`: a revision reads the same when both watermarks are sincere.
-/

namespace AnKla

open PyJson Durable

/-- The same files, but for the watermark. -/
def Alike (d e : Disk) : Prop := ∀ p, p ≠ .watermark → e.read p = d.read p

/-- No identity receipt protects the watermark. -/
def Unwatched (d : Disk) : Prop :=
  ∀ id r, d.read (.identity_receipt id) = some (.identity_receipt r) →
    .watermark ∉ r.files.map Prod.fst

theorem Alike.refl (d : Disk) : Alike d d := fun _ _ => rfl

theorem Alike.symm {d e : Disk} (h : Alike d e) : Alike e d := fun p hp => (h p hp).symm

theorem Alike.beside {d e : Disk} (h : Alike d e) : Beside d e :=
  fun p hp => h p fun hw => hp (.inl hw)

namespace Alike

variable {H : Crypto} {d e : Disk}
variable (h : Alike d e)
include h

/-! ## Objects -/

theorem read_json_object {α : Type*} {kind : String} {path : Path} {id : Digest}
    {get : Document → Option α} (hp : path ≠ .watermark) :
    AnKla.read_json_object H e kind path id get = AnKla.read_json_object H d kind path id get := by
  rw [AnKla.read_json_object, AnKla.read_json_object, h path hp]

theorem read_receipt (t : Uuid) (id : Digest) :
    AnKla.read_receipt H e t id = AnKla.read_receipt H d t id := h.read_json_object (by simp)

/-- A directory without the watermark has the same entries. -/
theorem listing {α : Type*} [LinearOrder α] {dir : Dir Path α} (hd : ∀ x, dir.path x ≠ .watermark) :
    dir.listing e = dir.listing d := Dir.listing_congr fun x => by rw [h _ (hd x)]

theorem listing_receipts (t : Uuid) : (receipts t).listing e = (receipts t).listing d :=
  h.listing fun _ => by simp [receipts]

/-! ## Receipts -/

theorem valid_receipt (t : Uuid) (id : Option Digest) (a : Attempt) (c : Option Digest)
    (kind : ReceiptKind) :
    AnKla.valid_receipt H e t id a c kind = AnKla.valid_receipt H d t id a c kind := by
  cases id with
  | none => rfl
  | some id => exact h.beside.valid_receipt (h.read_receipt t id) a c kind

theorem durability_of (t : Uuid) (j : Journal) (c : Option Digest) (relation : Relation) :
    AnKla.durability_of H e t j c relation = AnKla.durability_of H d t j c relation := by
  simp only [AnKla.durability_of, first_receipt, repair_receipt, receipt_ids, h.listing_receipts,
    h.valid_receipt]

/-! ## Inspections -/

theorem inspect_transaction (t : Uuid) :
    AnKla.inspect_transaction H e t = AnKla.inspect_transaction H d t := by
  have hlog : AnKla.observed_log_complete H e = AnKla.observed_log_complete H d := by
    funext j t c
    exact h.beside.observed_log_complete j t c
  have hdur : AnKla.durability_of H e = AnKla.durability_of H d := by
    funext t j c relation
    exact h.durability_of t j c relation
  have hrel : AnKla.candidate_relation H e = AnKla.candidate_relation H d := by
    funext c current
    exact h.beside.candidate_relation c current
  have hstage : AnKla.check_refute_stage H e = AnKla.check_refute_stage H d := by
    funext t c a r current
    exact h.beside.check_refute_stage t c a r current
  rw [AnKla.inspect_transaction, AnKla.inspect_transaction, h.beside.manifest_candidates, h.beside.current?,
    h.beside.recovered_journal, h.beside.readable_journal, hlog, hdur, hrel, hstage]

theorem store_inspect_transaction (t : Uuid) :
    AnKla.store_inspect_transaction H e t = AnKla.store_inspect_transaction H d t := by
  simp only [AnKla.store_inspect_transaction, h.inspect_transaction, archived_transaction_link,
    h.beside.read_current, h.beside.read_manifest, h.beside.validate_catalog_chain]

theorem reconcile_attempt (a : Attempt) :
    AnKla.reconcile_attempt H e a = AnKla.reconcile_attempt H d a := by
  simp only [AnKla.reconcile_attempt, h.beside.check_binding, h.beside.journal, h.inspect_transaction]

/-! ## Identity -/

theorem read_binding : AnKla.read_binding H e = AnKla.read_binding H d := by
  simp only [AnKla.read_binding, h .project_identity (by simp), h .store_identity (by simp),
    h.beside.read_identity]

theorem read_intent : AnKla.read_intent H e = AnKla.read_intent H d := by
  simp only [AnKla.read_intent, h .identity_intent (by simp)]

theorem lineage_summary (current identity : Digest) :
    AnKla.lineage_summary H e current identity = AnKla.lineage_summary H d current identity := by
  simp only [AnKla.lineage_summary, h.beside.walk_revisions]

theorem prepared_receipts (hu : Unwatched d) (i : IdentityIntent) :
    AnKla.prepared_receipts H e i = AnKla.prepared_receipts H d i := by
  rw [AnKla.prepared_receipts, AnKla.prepared_receipts, h.listing fun _ => by simp [identity_receipts]]
  refine List.filterMap_congr fun id _ => ?_
  rw [h (.identity_receipt id) (by simp)]
  split
  · next r hr =>
    have hok : identity_receipt_ok H e i r = identity_receipt_ok H d i r := by
      have hfile : ∀ f ∈ r.files, identity_file_ok H e r.current_observed f =
          identity_file_ok H d r.current_observed f := by
        intro f hf
        have hne : f.1 ≠ .watermark := fun heq => hu id r hr (heq ▸ List.mem_map_of_mem hf)
        rw [identity_file_ok, identity_file_ok, h f.1 hne]
      have hall : r.files.all (identity_file_ok H e r.current_observed) =
          r.files.all (identity_file_ok H d r.current_observed) := by
        rw [Bool.eq_iff_iff, List.all_eq_true, List.all_eq_true]
        exact forall₂_congr fun f hf => by rw [hfile f hf]
      rw [identity_receipt_ok, identity_receipt_ok, hall]
    rw [hok]
  · rfl

theorem valid_identity_receipt (hu : Unwatched d) (i : IdentityIntent) (current : Digest) :
    AnKla.valid_identity_receipt H e i current = AnKla.valid_identity_receipt H d i current := by
  simp only [AnKla.valid_identity_receipt, h.lineage_summary, h.prepared_receipts hu,
    still_observed, h.beside.read_current, is_ancestor, h.beside.walk_steps]

theorem completed_adoption_matches (hu : Unwatched d) (parent : Digest) :
    AnKla.completed_adoption_matches H e parent = AnKla.completed_adoption_matches H d parent := by
  simp only [AnKla.completed_adoption_matches, h.read_intent, h.valid_identity_receipt hu]

theorem identity_status (hu : Unwatched d) :
    AnKla.identity_status H e = AnKla.identity_status H d := by
  have hvalid : AnKla.valid_identity_receipt H e = AnKla.valid_identity_receipt H d := by
    funext i current
    exact h.valid_identity_receipt hu i current
  have hbound : AnKla.bound_status H e = AnKla.bound_status H d := by
    have hlineage : AnKla.lineage_summary H e = AnKla.lineage_summary H d := by
      funext current identity
      exact h.lineage_summary current identity
    have hchain : AnKla.validate_revision_chain H .identity none e =
        AnKla.validate_revision_chain H .identity none d := by
      funext id m
      exact h.beside.validate_revision_chain _ _ id m
    have hread : AnKla.read_manifest H e = AnKla.read_manifest H d := funext h.beside.read_manifest
    rw [bound_status, bound_status, h.read_binding, h.read_intent, h .current (by simp),
      h.beside.read_current, hlineage, hvalid, hchain, hread]
  rw [AnKla.identity_status, AnKla.identity_status, h .current (by simp),
    h .project_identity (by simp), h .store_identity (by simp), h .identity_intent (by simp), hbound]

theorem mutation_preflight (hu : Unwatched d) :
    AnKla.mutation_preflight H e = AnKla.mutation_preflight H d := by
  rw [AnKla.mutation_preflight, AnKla.mutation_preflight, h.identity_status hu, h.read_binding]

theorem assert_unchanged (hu : Unwatched d) (b : Binding) (parent : Digest) :
    AnKla.assert_unchanged H e b parent = AnKla.assert_unchanged H d b parent := by
  rw [AnKla.assert_unchanged, AnKla.assert_unchanged, h .project_identity (by simp),
    h .store_identity (by simp), h.read_binding, h.beside.read_manifest, h.completed_adoption_matches hu]

/-! ## Revisions -/

theorem read_segment (s : Stream) (id : Digest) :
    AnKla.read_segment H e s id = AnKla.read_segment H d s id :=
  read_segment_congr (h _ (by simp))

theorem read_records (m : Manifest) : AnKla.read_records H e m = AnKla.read_records H d m := by
  have hseg (s : Stream) (rows : List Json) (ids : List Digest) :
      read_segments H e s rows ids = read_segments H d s rows ids := by
    induction ids generalizing rows with
    | nil => rfl
    | cons id ids ih => simp only [read_segments, h.read_segment, ih]
  simp only [AnKla.read_records, hseg]

theorem read_manifest_or_archived (id : Digest) :
    AnKla.read_manifest_or_archived H e id = AnKla.read_manifest_or_archived H d id := by
  simp only [AnKla.read_manifest_or_archived, h.beside.read_manifest, archived_revision_link,
    h.beside.read_current, h.beside.read_catalog, h.beside.validate_catalog_chain]

theorem ancestor_ids_fuel (n : ℕ) (id : Digest) (found : List Digest) :
    AnKla.ancestor_ids H e n id found = AnKla.ancestor_ids H d n id found := by
  induction n generalizing id found with
  | zero => rfl
  | succ n ih => simp only [AnKla.ancestor_ids, h.beside.read_manifest, ih]

omit h in
/-- The walk ends before its bound does, as it visits no revision twice. -/
theorem ancestor_ids_enough {n n' : ℕ} {id : Digest} {found : List Digest} (hnd : found.Nodup)
    (hsub : found ⊆ revisions.listing d) (hn : (revisions.listing d).length < n + found.length)
    (hn' : (revisions.listing d).length < n' + found.length) :
    AnKla.ancestor_ids H d n id found = AnKla.ancestor_ids H d n' id found := by
  have hlen := (List.subperm_of_subset hnd hsub).length_le
  induction n generalizing n' id found with
  | zero => omega
  | succ n ih =>
    cases n' with
    | zero => omega
    | succ n' =>
      rw [AnKla.ancestor_ids, AnKla.ancestor_ids]
      split_ifs with hmem
      · rfl
      · refine bind_eq_of_ok fun m hm => ?_
        cases m.parent with
        | none => rfl
        | some parent =>
          have hlisted : id ∈ revisions.listing d := by
            rw [Dir.mem_listing, show revisions.path id = .revision id from rfl,
              (read_manifest_iff.1 hm).1]
            rfl
          have hsub' : id :: found ⊆ revisions.listing d := List.cons_subset.2 ⟨hlisted, hsub⟩
          have hnd' : (id :: found).Nodup := List.nodup_cons.2 ⟨hmem, hnd⟩
          refine ih hnd' hsub' ?_ ?_ (List.subperm_of_subset hnd' hsub').length_le
          all_goals
            rw [List.length_cons]
            omega

theorem observe (s : Snapshot) (evidence : Json) :
    AnKla.observe H e s evidence = AnKla.observe H d s evidence := by
  have hle (x : Disk) : (revisions.listing x).length ≤ x.keys.length := by
    rw [Dir.listing, List.length_insertionSort]
    exact List.length_filterMap_le _ _
  have hids : AnKla.ancestor_ids H e (e.keys.length + 1) s.revision_id [] =
      AnKla.ancestor_ids H d (d.keys.length + 1) s.revision_id [] := by
    rw [h.ancestor_ids_fuel]
    have := hle d
    have := h.beside.listing_revisions ▸ hle e
    refine ancestor_ids_enough List.nodup_nil (List.nil_subset _) ?_ ?_ <;>
      simp only [List.length_nil] <;> omega
  rw [AnKla.observe, AnKla.observe, hids]

theorem build_observations (s : Snapshot) (claim : Json) :
    AnKla.build_observations H e s claim = AnKla.build_observations H d s claim := by
  have hobs : AnKla.observe H e s = AnKla.observe H d s := funext (h.observe s)
  rw [AnKla.build_observations, AnKla.build_observations, hobs]

theorem validate_lifecycle (f : Digest → Except Failure Snapshot) (m : Manifest)
    (raw : PerStream (List Json)) :
    AnKla.validate_lifecycle H f e m raw = AnKla.validate_lifecycle H f d m raw := by
  simp only [AnKla.validate_lifecycle, validate_refutation_entry, validate_refutation_storage,
    h.beside.read_refutation, h.beside.read_authority_claim, h.beside.read_authority_attestation, h.build_observations]

/-- The watermarks of both disks bind nothing but valid chains, so a revision reads the
    same on both. -/
theorem snapshot_loop (hd : Sincere H (usable_watermark d) d)
    (he : Sincere H (usable_watermark e) e) (n : ℕ) (w : Bool) (id : Digest) :
    AnKla.snapshot_loop H e n w id = AnKla.snapshot_loop H d n w id := by
  induction n generalizing w id with
  | zero => rfl
  | succ n ih =>
    have hchain {m : Manifest} (hm : H.digest (.manifest m) = id) :
        AnKla.validate_revision_chain H .integrity (if w then usable_watermark e else none) e id m =
          AnKla.validate_revision_chain H .integrity (if w then usable_watermark d else none) d id
            m := by
      cases w with
      | false => exact h.beside.validate_revision_chain _ _ _ _
      | true =>
        rw [if_pos rfl, if_pos rfl, validate_of_sincere he hm, validate_of_sincere hd hm]
        exact h.beside.validate_revision_chain _ _ _ _
    have hloop : AnKla.snapshot_loop H e n true = AnKla.snapshot_loop H d n true :=
      funext (ih true)
    rw [AnKla.snapshot_loop, AnKla.snapshot_loop, snapshot_step, snapshot_step,
      h.read_manifest_or_archived]
    refine bind_eq_of_ok fun m hm => bind_eq_of_ok fun _ _ => ?_
    rw [hchain (digest_of_read_manifest (read_manifest_or_archived_ok.1 hm)), hloop]
    simp only [h.beside.verify_manifest_link, h.beside.read_checkpoint, h.read_records, h.validate_lifecycle]

theorem snapshot (hd : Sincere H (usable_watermark d) d) (he : Sincere H (usable_watermark e) e)
    (id : Digest) : AnKla.snapshot H e id = AnKla.snapshot H d id := by
  rw [AnKla.snapshot, AnKla.snapshot,
    ← snapshot_loop_enough (Nat.le_add_right _ (snapshot_depth d)), h.snapshot_loop hd he,
    snapshot_loop_enough (Nat.le_add_left _ (snapshot_depth e))]

end Alike

end AnKla
