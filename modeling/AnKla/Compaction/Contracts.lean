import AnKla.Policy.Fields

/-!
# Contracts of a compaction

* `policy_config`: the policy, part of the stage of every compaction.
* `validate_catalog`: the lists of a catalog are in order and its delete set is
  the one it is digested under.
* `validate_catalog_chain`: the catalogs that a catalog leads to, each read once,
  in the order of a breadth-first walk of at most 1024 catalogs.
-/

namespace AnKla

open PyJson Durable

/-! ## The policy -/

/-- `_HISTORICAL_POLICY_V1`, and `_POLICY_V1` so far. -/
def policy_config : Json := dict
  [("schema", .str "an-kla/compaction-policy-config-v1"),
    ("profile", .str "compaction-policy/v1"),
    ("platform", .str "posix"),
    ("export_profile", .str "export/v1"),
    ("revision_schema", .str "an-kla/revision-v3"),
    ("projection_precedence", str_list ["refuted", "superseded", "physical"]),
    ("segmenting", .str "one-canonical-jsonl-per-nonempty-stream"),
    ("result_states", str_list
      ["not_committed", "committed_cleanup_incomplete", "committed", "outcome_unknown"])]

/-- `validate_policy_config(stage.get("compaction_policy"))`. -/
def validate_policy_config (policy : Option PolicyMetadata) : Except Failure Json :=
  if policy = some (.compaction_policy policy_config) then .ok policy_config
  else .error (.compaction "compaction_policy_invalid")

theorem validate_policy_config_ok {policy : Option PolicyMetadata} {v : Json}
    (h : validate_policy_config policy = .ok v) :
    policy = some (.compaction_policy policy_config) ∧ v = policy_config := by
  rw [validate_policy_config] at h
  split_ifs at h with hp
  cases h
  exact ⟨hp, rfl⟩

variable (H : Crypto)

/-- `policy_fingerprint()` of the compaction policy. -/
def compaction_policy_fingerprint : Digest := H.digest_json policy_config

/-! ## A catalog -/

/-- The place of a stream among the streams. -/
def Stream.order : Stream → ℕ
  | .facts => 0
  | .events => 1
  | .episodes => 2

/-- The sort key of a record tombstone. -/
def RecordTombstone.key (t : RecordTombstone) : List ℕ := [t.stream.order, t.record_sha256]

/-- `validate_catalog(value)`: the formats are closed by their types. -/
def validate_catalog (c : Catalog) : Except Failure Catalog := do
  let invalid := Failure.compaction "compaction_catalog_invalid"
  ensure (decide ((c.archived_revisions.map (·.revision)).Pairwise (· < ·))) invalid
  ensure (decide ((c.record_tombstones.map (·.key)).Pairwise (· < ·))) invalid
  ensure (decide ((c.object_tombstones.map (·.path)).Pairwise (· < ·))) invalid
  ensure (decide ((c.previous_catalogs.map (·.epoch_id)).Pairwise (· < ·))) invalid
  ensure (decide (H.digest (.delete_set c.object_tombstones) = c.delete_set_sha256)) invalid
  return c

/-- A catalog that its own format accepts. -/
structure Catalog.Valid (c : Catalog) : Prop where
  archived : (c.archived_revisions.map (·.revision)).Pairwise (· < ·)
  records : (c.record_tombstones.map (·.key)).Pairwise (· < ·)
  objects : (c.object_tombstones.map (·.path)).Pairwise (· < ·)
  previous : (c.previous_catalogs.map (·.epoch_id)).Pairwise (· < ·)
  delete_set : H.digest (.delete_set c.object_tombstones) = c.delete_set_sha256

variable {H}

theorem validate_catalog_ok {c c' : Catalog} :
    validate_catalog H c = .ok c' ↔ c.Valid H ∧ c' = c := by
  simp only [validate_catalog, bind_ok, ensure_ok, decide_eq_true_eq, exists_const]
  constructor
  · rintro ⟨h1, h2, h3, h4, h5, h⟩
    cases h
    exact ⟨⟨h1, h2, h3, h4, h5⟩, rfl⟩
  · rintro ⟨h, rfl⟩
    exact ⟨h.archived, h.records, h.objects, h.previous, h.delete_set, rfl⟩

/-! ## The catalogs a catalog leads to -/

/-- One entry of the queue of the walk: a catalog to read, what the catalog that
    lists it says of it, and the catalogs on the way to it. -/
structure CatalogVisit where
  identifier : Digest
  expected : Option (Uuid × Digest)
  ancestors : List Digest

/-- The catalogs read so far, in order. -/
abbrev CatalogWalk := List (Digest × Catalog)

variable (H)

def chain_invalid : Failure := .compaction "compaction_catalog_chain_invalid"

/-- The catalog is what the entry that lists it says it is. -/
def CatalogVisit.agrees (v : CatalogVisit) (c : Catalog) : Bool :=
  match v.expected with
  | none => true
  | some (epoch, export_sha256) =>
    c.epoch_id = epoch && c.export_manifest_sha256 = export_sha256

/-- The entries a catalog adds to the queue. -/
def Catalog.visits (c : Catalog) (ancestors : List Digest) : List CatalogVisit :=
  c.previous_catalogs.map fun p =>
    ⟨p.catalog_sha256, some (p.epoch_id, p.export_manifest_sha256), ancestors⟩

/-- Drop the entries at the head of the queue whose catalogs have been read. -/
def skip_visited (seen : CatalogWalk) :
    List CatalogVisit → Except Failure (List CatalogVisit)
  | [] => .ok []
  | v :: queue =>
    if v.identifier ∈ v.ancestors then .error chain_invalid
    else match seen.lookup v.identifier with
      | some c => if v.agrees c then skip_visited seen queue else .error chain_invalid
      | none => .ok (v :: queue)

/-- One catalog read, and added to those read so far. -/
def visit_catalog (d : Disk) (v : CatalogVisit) (seen : CatalogWalk) :
    Except Failure Catalog :=
  match read_catalog H d v.identifier >>= validate_catalog H with
  | .error _ => .error chain_invalid
  | .ok c =>
    if v.agrees c && seen.all fun x => x.2.epoch_id ≠ c.epoch_id then .ok c
    else .error chain_invalid

variable {H} in
theorem visit_catalog_ok {d : Disk} {v : CatalogVisit} {seen : CatalogWalk} {c : Catalog} :
    visit_catalog H d v seen = .ok c ↔ read_catalog H d v.identifier = .ok c ∧ c.Valid H ∧
      v.agrees c = true ∧ ∀ x ∈ seen, x.2.epoch_id ≠ c.epoch_id := by
  rw [visit_catalog]
  cases hr : read_catalog H d v.identifier with
  | error e => simp [bind, Except.bind]
  | ok c' =>
    have hb : (Except.ok c' >>= validate_catalog H) = validate_catalog H c' := rfl
    rw [hb]
    cases hv : validate_catalog H c' with
    | error e =>
      have hno : ¬c'.Valid H := fun h => by
        rw [validate_catalog_ok.2 ⟨h, rfl⟩] at hv
        cases hv
      simp only [reduceCtorEq, Except.ok.injEq, false_iff, not_and]
      rintro rfl h
      exact absurd h hno
    | ok c'' =>
      obtain ⟨hvalid, rfl⟩ := validate_catalog_ok.1 hv
      simp only [Bool.and_eq_true, List.all_eq_true, decide_eq_true_eq]
      split_ifs with h
      · simp only [Except.ok.injEq]
        constructor
        · rintro rfl
          exact ⟨rfl, hvalid, h.1, h.2⟩
        · rintro ⟨rfl, -⟩
          rfl
      · refine iff_of_false (by simp) ?_
        rintro ⟨hc, -, h1, h2⟩
        cases hc
        exact h ⟨h1, h2⟩

/-- The loop of `validate_catalog_chain`; the counter is how many more catalogs
    it may read. -/
def walk_catalogs (d : Disk) : ℕ → List CatalogVisit → CatalogWalk → Except Failure CatalogWalk
  | _, [], seen => .ok seen
  | 0, _ :: _, _ => .error chain_invalid
  | n + 1, v :: queue, seen =>
    match skip_visited seen (v :: queue) with
    | .error e => .error e
    | .ok [] => .ok seen
    | .ok (v :: queue) =>
      match visit_catalog H d v seen with
      | .error e => .error e
      | .ok c =>
        walk_catalogs d n (queue ++ c.visits (v.identifier :: v.ancestors))
          (seen ++ [(v.identifier, c)])

/-- How many catalogs a chain may have, and one more. -/
def max_catalogs : ℕ := 1024

/-- `validate_catalog_chain(store, catalog_id)`. -/
def validate_catalog_chain (d : Disk) (catalog_id : Digest) : Except Failure CatalogWalk :=
  walk_catalogs H d max_catalogs [⟨catalog_id, none, []⟩] []

/-- The catalog of an epoch, among those of a chain. -/
def CatalogWalk.of_epoch (w : CatalogWalk) (epoch_id : Uuid) : Option (Digest × Catalog) :=
  w.find? fun x => x.2.epoch_id = epoch_id

end AnKla
