import AnKla.Policy.Fields

/-!
# Manifests

* `validate_manifest`: what a revision of each of the three schemas must hold.
* `Manifest.Valid`: the same, as a proposition with a field a rule.
* `build_child_manifest`: the manifest that a commit writes.
-/

namespace AnKla

open PyJson

/-! ## Validation -/

/-- The keys that a schema requires or refuses. -/
def manifest_shape_ok (m : Manifest) : Bool :=
  match m.schema with
  | .v1 => m.features.isNone && m.refutations_map.isNone && m.compaction_epoch.isNone
  | .v2 => m.store_identity.isSome && m.features.isSome && m.refutations_map.isSome &&
      m.compaction_epoch.isNone
  | .v3 => m.store_identity.isSome && m.features.isSome && m.refutations_map.isSome &&
      m.supersedes_map.isSome && m.compaction_epoch.isSome

/-- Only the first revision and a compaction root have no parent. -/
def manifest_parent_ok (m : Manifest) : Bool :=
  match m.schema with
  | .v3 => m.revision ≠ 0
  | _ => (m.revision = 0) = (m.parent = none)

/-- `validate_manifest(manifest, error)`: the formats of the fields are closed by
    their types. -/
def validate_manifest (error : String → Failure) (m : Manifest) : Except Failure Unit := do
  ensure (manifest_shape_ok m) (error "manifest_shape_invalid")
  ensure (m.parent.isSome || m.revision = 0 || m.schema = .v3) (error "manifest_identifier_missing")
  ensure (manifest_parent_ok m) (error "manifest_parent_invalid")
  ensure (m.canonicalization = "canonical-json/v1" &&
    m.integrity_claim = "content_identity_not_truth_or_authorship")
    (error "manifest_constants_invalid")
  ensure (m.transaction_id ≠ .root || m.revision = 0 && m.parent = none && m.schema = .v1)
    (error "manifest_transaction_id_invalid")
  ensure (STREAMS.all fun s => decide (m.segments.get s).Nodup) (error "manifest_segments_invalid")
  ensure (m.supersedes.all fun e => e.target_id ≠ "" && e.sustituida_por ≠ "")
    (error "manifest_supersedes_map_invalid")
  ensure (m.schema = .v1 ||
    m.features = some (if m.schema = .v2 then [.refutations_v1]
      else [.refutations_v1, .compaction_v1])) (error "manifest_features_invalid")
  ensure (m.schema ≠ .v2 || m.refutations ≠ []) (error "manifest_refutations_map_invalid")
  ensure (decide (m.refutations.map fun e => (e.stream, e.target_record_sha256)).Nodup)
    (error "manifest_refutations_map_invalid")

/-- A manifest that its schema accepts. -/
structure Manifest.Valid (m : Manifest) : Prop where
  shape : manifest_shape_ok m = true
  parent_present : m.parent.isSome = true ∨ m.revision = 0 ∨ m.schema = .v3
  parent : manifest_parent_ok m = true
  canonicalization : m.canonicalization = "canonical-json/v1"
  integrity_claim : m.integrity_claim = "content_identity_not_truth_or_authorship"
  transaction_id : m.transaction_id = .root → m.revision = 0 ∧ m.parent = none ∧ m.schema = .v1
  segments : ∀ s, (m.segments.get s).Nodup
  supersedes : ∀ e ∈ m.supersedes, e.target_id ≠ "" ∧ e.sustituida_por ≠ ""
  features : m.schema ≠ .v1 → m.features = some (if m.schema = .v2 then [.refutations_v1]
    else [.refutations_v1, .compaction_v1])
  refutations_present : m.schema = .v2 → m.refutations ≠ []
  refutations : (m.refutations.map fun e => (e.stream, e.target_record_sha256)).Nodup

theorem validate_manifest_ok {error : String → Failure} {m : Manifest} {u : Unit} :
    validate_manifest error m = .ok u ↔ m.Valid := by
  simp only [validate_manifest, bind_ok, ensure_ok, exists_const, Bool.and_eq_true,
    Bool.or_eq_true, decide_eq_true_eq, List.all_eq_true]
  constructor
  · rintro ⟨h1, h2, h3, h4, h5, h6, h7, h8, h9, h10⟩
    refine ⟨h1, by tauto, h3, h4.1, h4.2, by tauto, fun s => h6 s s.mem_STREAMS, h7, by tauto,
      by tauto, h10⟩
  · intro h
    refine ⟨h.shape, ?_, h.parent, ⟨h.canonicalization, h.integrity_claim⟩, ?_,
      fun s _ => h.segments s, h.supersedes, ?_, ?_, h.refutations⟩
    · have := h.parent_present
      tauto
    · have := h.transaction_id
      tauto
    · have := h.features
      tauto
    · have := h.refutations_present
      tauto

/-! ## Construction -/

/-- `build_child_manifest`. -/
def build_child_manifest (base : Manifest) (revision : ℕ) (parent : Digest)
    (segment_ids : PerStream (List Digest)) (checkpoint : Digest) (transaction_id : Uuid)
    (operation : Operation) (store_identity : Option Digest)
    (supersedes_map : List SupersedeEntry) (refutations_map : List RefutationEntry) :
    Except Failure Manifest := do
  let use_v3 := base.schema = .v3
  let use_v2 := ¬use_v3 ∧ (base.schema = .v2 ∨ operation = .refute)
  ensure (!(decide use_v2 || decide use_v3) ||
    store_identity.isSome && (!decide use_v2 || refutations_map ≠ []))
    (.transaction "revision_transition_invalid")
  return {
    schema := if use_v3 then .v3 else if use_v2 then .v2 else .v1
    revision := revision
    parent := some parent
    segments := segment_ids
    checkpoint := checkpoint
    transaction_id := .uuid transaction_id
    canonicalization := "canonical-json/v1"
    integrity_claim := "content_identity_not_truth_or_authorship"
    store_identity := store_identity
    supersedes_map := if supersedes_map ≠ [] ∨ use_v3 then some supersedes_map else none
    features := if use_v3 then some [.refutations_v1, .compaction_v1]
      else if use_v2 then some [.refutations_v1] else none
    refutations_map := if use_v2 ∨ use_v3 then some refutations_map else none
    compaction_epoch := if use_v3 then base.compaction_epoch else none }

end AnKla
