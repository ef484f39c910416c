import AnKla.Revisions.Walk
import AnKla.Sealed.Opens
import AnKla.Identity

/-!
# One walk for all checks

* `Walked`: a walk visits every manifest once, as its file has it.
* `lookup_add_points`: a point of the summary, by induction on the walk.
* `Remembers`, `remembers_walk`: what a context says, a file says.
* `manifest_candidates_remembers`: a context changes no candidates.
* `lineage_shared`: the summary and the context of one walk stand for walks of their own.
-/

namespace AnKla.Walk

open PyJson Durable Base64 Sealed

variable {P : Primitives}

/-! ## Walks -/

variable (P) in
/-- The manifests of a walk are distinct, new, and what their files say. -/
structure Walked (d : Files) (seen : List String) (walk : List (String × Json)) : Prop where
  nodup : (walk.map Prod.fst).Nodup
  fresh : ∀ x ∈ walk, x.1 ∉ seen
  read : ∀ x ∈ walk, read_json_object P d x.1 = .ok x.2

theorem walked_nil (d : Files) (seen : List String) : Walked P d seen [] :=
  ⟨List.nodup_nil, fun _ h => absurd h List.not_mem_nil, fun _ h => absurd h List.not_mem_nil⟩

theorem Walked.cons {d : Files} {seen : List String} {cursor : String} {manifest : Json}
    {walk : List (String × Json)} (h : Walked P d (cursor :: seen) walk) (hnew : cursor ∉ seen)
    (hread : read_json_object P d cursor = .ok manifest) :
    Walked P d seen ((cursor, manifest) :: walk) := by
  refine ⟨?_, ?_, ?_⟩
  · rw [List.map_cons, List.nodup_cons]
    refine ⟨fun hmem => ?_, h.nodup⟩
    obtain ⟨x, hx, he⟩ := List.mem_map.1 hmem
    exact h.fresh x hx (he ▸ List.mem_cons_self)
  · intro x hx
    obtain rfl | hx := List.mem_cons.1 hx
    · exact hnew
    · exact fun hmem => h.fresh x hx (List.mem_cons_of_mem _ hmem)
  · intro x hx
    obtain rfl | hx := List.mem_cons.1 hx
    · exact hread
    · exact h.read x hx

theorem walked_step {d : Files} {child_revision : Option ℕ} {cursor : String} {seen : List String}
    {rest : ℕ → String → List (String × Json) × Bool}
    (h : ∀ revision parent, Walked P d (cursor :: seen) (rest revision parent).1) :
    Walked P d seen (walk_step P d child_revision cursor seen rest).1 := by
  rw [walk_step]
  split_ifs with hseen
  · exact walked_nil d seen
  · cases hread : read_json_object P d cursor with
    | error e => exact walked_nil d seen
    | ok manifest =>
      simp only
      rcases visit child_revision manifest with _ | ⟨revision, _ | parent⟩
      · exact walked_nil d seen
      · exact (walked_nil d _).cons hseen hread
      · exact (h revision parent).cons hseen hread

theorem walked_below (d : Files) (child_revision : ℕ) (cursor : String) (seen : List String) :
    Walked P d seen (walk_below P d child_revision cursor seen).1 := by
  induction child_revision generalizing cursor seen with
  | zero => exact walked_nil d seen
  | succ n ih => exact walked_step fun _ parent => ih parent (cursor :: seen)

theorem walked_steps (d : Files) (current : String) : Walked P d [] (walk_steps P d current).1 :=
  walked_step fun revision parent => walked_below d revision parent [current]

/-! ## Points -/

/-- The points of other revisions stay. -/
theorem lookup_add_points_of_not_mem {identity id : String} {walk : List (String × Json)}
    (h : id ∉ walk.map Prod.fst) (prefix_ok : Bool) (points : List (String × Bool × Bool)) :
    (add_points identity prefix_ok points walk).lookup id = points.lookup id := by
  induction walk generalizing prefix_ok points with
  | nil => rfl
  | cons x walk ih =>
    rw [List.map_cons, List.mem_cons, not_or] at h
    rw [add_points, ih h.2, List.lookup_cons, beq_false_of_ne h.1]

/-- What a point says of a revision. -/
def bound_by (points : List (String × Bool × Bool)) (id : String) (allow_legacy : Bool) : Bool :=
  ((points.lookup id).getD (false, false)).1 ||
    (allow_legacy && ((points.lookup id).getD (false, false)).2)

/-- A revision is bound by its point exactly when the manifests above it are bound and the check
    of the revision accepts: the flag carries the manifests above. -/
theorem bound_by_add_points {identity id : String} {allow_legacy : Bool}
    {walk : List (String × Json)} (h : (walk.map Prod.fst).Nodup) (prefix_ok : Bool)
    {points : List (String × Bool × Bool)} (hnew : points.lookup id = none) :
    bound_by (add_points identity prefix_ok points walk) id allow_legacy = true ↔
      prefix_ok = true ∧ bound_descendants id identity allow_legacy walk = .ok () := by
  induction walk generalizing prefix_ok points with
  | nil => simp [add_points, bound_by, hnew, bound_descendants]
  | cons x walk ih =>
    obtain ⟨identifier, manifest⟩ := x
    rw [List.map_cons, List.nodup_cons] at h
    rw [add_points, bound_descendants]
    by_cases hid : identifier = id
    · subst hid
      rw [bound_by, lookup_add_points_of_not_mem h.1, List.lookup_cons_self, if_pos rfl]
      cases prefix_ok with
      | false => simp
      | true =>
        simp only [Option.getD_some, Bool.true_and, Bool.or_eq_true, Bool.and_eq_true,
          decide_eq_true_eq, true_and]
        split_ifs with hlink
        · exact iff_of_true hlink rfl
        · exact iff_of_false hlink (by simp)
    · have hlookup : ((identifier, prefix_ok && item manifest "store_identity" = .str identity,
          prefix_ok && item manifest "store_identity" = .null) :: points).lookup id = none := by
        rw [List.lookup_cons, beq_false_of_ne (Ne.symm hid)]
        exact hnew
      rw [ih h.2 _ hlookup, if_neg hid]
      by_cases hlink : item manifest "store_identity" = .str identity
      · simp [hlink]
      · simp [hlink]

/-! ## Contexts -/

variable (P) in
/-- What a context says of a revision, its file says. -/
def Remembers (d : Files) (context : OperationContext) : Prop :=
  ∀ id schema txid, context.candidate id = some (schema, txid) → ∃ manifest,
    read_json_object P d id = .ok manifest ∧ manifest.isObj = true ∧
      item manifest "schema" = .str schema ∧ item manifest "transaction_id" = .str txid

theorem remembers_new (d : Files) : Remembers P d {} := by
  intro id schema txid h
  cases h

/-- One more manifest is remembered as its file has it. -/
theorem Remembers.remember {d : Files} {context : OperationContext} (h : Remembers P d context)
    {identifier : String} {manifest : Json} (hread : read_json_object P d identifier = .ok manifest) :
    Remembers P d (context.remember identifier manifest) := by
  rw [OperationContext.remember]
  split
  · next schema txid hschema htxid =>
    split_ifs with hok
    · intro id schema' txid' hc
      rw [OperationContext.candidate, List.lookup_cons] at hc
      by_cases hid : id = identifier
      · subst hid
        rw [beq_self_eq_true] at hc
        cases hc
        exact ⟨manifest, hread, hok.1, hschema, htxid⟩
      · rw [beq_false_of_ne hid] at hc
        exact h id schema' txid' hc
    · exact h
  · exact h

/-- A walk is remembered as the files have it. -/
theorem remembers_walk {d : Files} {context : OperationContext} (h : Remembers P d context)
    {walk : List (String × Json)} (hread : ∀ x ∈ walk, read_json_object P d x.1 = .ok x.2) :
    Remembers P d (walk.foldl (fun c x => c.remember x.1 x.2) context) := by
  induction walk generalizing context with
  | nil => exact h
  | cons x walk ih =>
    exact ih (h.remember (hread x List.mem_cons_self)) fun y hy =>
      hread y (List.mem_cons_of_mem _ hy)

/-! ## Candidates -/

theorem bare_digest_identifier {identifier stem : String} (h : bare_digest identifier = some stem) :
    identifier = identifier_of stem := by
  rw [bare_digest] at h
  split_ifs at h with hok
  cases h
  obtain ⟨rest, hrest⟩ := List.isPrefixOf_iff_prefix.1 hok.1
  rw [identifier_of, String.toList_ofList, ← hrest, List.drop_left, hrest, String.ofList_toList]

/-- What is read of a revision is in its file. -/
theorem read_json_object_file {d : Files} {identifier : String} {value : Json}
    (h : read_json_object P d identifier = .ok value) : ∃ stem payload,
      identifier = identifier_of stem ∧ d.read stem = some (some payload) ∧
      digest_bytes P payload = identifier ∧ json_loads payload = some value ∧
      canonical_json value = payload := by
  rw [read_json_object] at h
  cases hstem : bare_digest identifier with
  | none => rw [hstem] at h; cases h
  | some stem =>
    rw [hstem] at h
    simp only at h
    rcases hfile : d.read stem with _ | _ | payload
    · rw [hfile] at h; cases h
    · rw [hfile] at h; cases h
    · rw [hfile] at h
      simp only [ne_eq, ite_not] at h
      split_ifs at h with hdigest
      cases hvalue : json_loads payload with
      | none => rw [hvalue] at h; cases h
      | some v =>
        rw [hvalue] at h
        simp only at h
        split_ifs at h with hcanonical
        cases h
        exact ⟨stem, payload, bare_digest_identifier hstem, hfile, hdigest, hvalue, hcanonical⟩

theorem identifier_of_injective : Function.Injective identifier_of := fun s t h => by
  have hlist := congrArg String.toList h
  rw [identifier_of, identifier_of, String.toList_ofList, String.toList_ofList,
    List.append_cancel_left_eq] at hlist
  exact String.toList_inj.1 hlist

variable (P) in
/-- No file has one content on one disk and another one of the same digest on the other. -/
def CollisionFree (d e : Files) : Prop := ∀ stem payload payload',
  d.read stem = some (some payload) → e.read stem = some (some payload') →
    digest_bytes P payload = digest_bytes P payload' → payload = payload'

theorem collisionFree_self (d : Files) : CollisionFree P d d := by
  intro stem payload payload' h h' _
  exact Option.some.inj (Option.some.inj (h.symm.trans h'))

/-- A file that a context knows is the file that was read. -/
theorem candidate_of_remembers {d e : Files} {context : OperationContext}
    (h : Remembers P d context) (hfree : CollisionFree P d e) (txid stem : String) :
    candidate_of P e txid (some context) stem = candidate_of P e txid none stem := by
  rw [candidate_of, candidate_of]
  rcases hfile : e.read stem with _ | _ | payload
  · rfl
  · rfl
  simp only
  split_ifs with hdigest
  · rfl
  rw [not_not] at hdigest
  cases hc : context.candidate (identifier_of stem) with
  | none => simp only [Option.bind_some, Option.bind_none, hc]
  | some known =>
    obtain ⟨schema, candidate_txid⟩ := known
    obtain ⟨manifest, hread, hobj, hschema, htxid⟩ := h _ _ _ hc
    obtain ⟨stem', payload', hid, hfile', hdigest', hvalue, hcanonical⟩ := read_json_object_file hread
    obtain rfl := identifier_of_injective hid
    obtain rfl := hfree _ _ _ hfile' hfile (hdigest'.trans hdigest.symm)
    simp only [Option.bind_some, Option.bind_none, hc, hvalue, hschema, htxid]
    rw [if_neg (by simp [hcanonical, hobj])]

/-- A context changes no candidates. -/
theorem manifest_candidates_remembers {d e : Files} {context : OperationContext}
    (h : Remembers P d context) (hfree : CollisionFree P d e) (txid : String) :
    manifest_candidates P e txid (some context) = manifest_candidates P e txid none := by
  rw [manifest_candidates, manifest_candidates]
  congr 2
  funext stem
  exact candidate_of_remembers h hfree txid stem

/-! ## One walk -/

theorem lineage_summary_ok {d : Files} {current identity : String}
    {context context' : Option OperationContext} {l : LineageSummary}
    (h : lineage_summary P d current identity context = .ok (l, context')) :
    (walk_steps P d current).2 = true ∧
      l.points = add_points identity true [] (walk_steps P d current).1 ∧
      context' = context.map fun c =>
        (walk_steps P d current).1.foldl (fun c x => c.remember x.1 x.2) c := by
  rw [lineage_summary] at h
  obtain ⟨walk, hwalk, h⟩ := bind_ok.1 h
  rw [walk_revisions] at hwalk
  split_ifs at hwalk with hfull
  cases hwalk
  cases h
  exact ⟨hfull, rfl, rfl⟩

/-- The summary of one walk answers as a walk for each captured revision does, and the context
    of the walk changes no candidates, on the same disk or on a later one. -/
theorem lineage_shared {d : Files} {current identity : String} {l : LineageSummary}
    {context : OperationContext}
    (h : lineage_summary P d current identity (some {}) = .ok (l, some context)) :
    (∀ captured allow_legacy, l.bound captured allow_legacy = true ↔
      validate_bound_descendants P d current captured identity allow_legacy = .ok ()) ∧
    (∀ txid, manifest_candidates P d txid (some context) = manifest_candidates P d txid none) ∧
    ∀ e, CollisionFree P d e → ∀ txid,
      manifest_candidates P e txid (some context) = manifest_candidates P e txid none := by
  obtain ⟨-, hpoints, hcontext⟩ := lineage_summary_ok h
  have hwalked := walked_steps (P := P) d current
  have hremembers : Remembers P d context := by
    rw [Option.map_some] at hcontext
    obtain rfl := Option.some.inj hcontext
    exact remembers_walk (remembers_new d) hwalked.read
  refine ⟨fun captured allow_legacy => ?_, ?_, fun e hfree => ?_⟩
  · rw [LineageSummary.bound, hpoints]
    exact (bound_by_add_points hwalked.nodup true rfl).trans (and_iff_right rfl)
  · exact manifest_candidates_remembers hremembers (collisionFree_self d)
  · exact manifest_candidates_remembers hremembers hfree

/-! ## Two revisions -/

namespace TwoRevisions

def root : Json := dict
  [("parent", .null), ("revision", .int 0), ("schema", .str "an-kla/revision-v1")]

def child : Json := dict
  [("parent", .str (digest_json plain root)), ("revision", .int 1),
    ("schema", .str "an-kla/revision-v1"), ("store_identity", .str "i")]

def stem (manifest : Json) : String :=
  String.ofList (hex (plain.sha256 (canonical_json manifest)))

/-- A revision that names the identity, above one that names none. -/
def files : Files :=
  ((∅ : Files).write (stem root) (some (canonical_json root))).write (stem child)
    (some (canonical_json child))

theorem walk_full : (walk_steps plain files (digest_json plain child)).2 = true := by
  decide +kernel

end TwoRevisions

theorem lineage_shared_two : ∃ l context,
    lineage_summary plain TwoRevisions.files (digest_json plain TwoRevisions.child) "i"
      (some {}) = .ok (l, some context) ∧
    (l.bound (digest_json plain TwoRevisions.root) true = true ↔
      validate_bound_descendants plain TwoRevisions.files (digest_json plain TwoRevisions.child)
        (digest_json plain TwoRevisions.root) "i" true = .ok ()) := by
  have hok : ∃ x, lineage_summary plain TwoRevisions.files (digest_json plain TwoRevisions.child)
      "i" (some {}) = .ok x := by
    rw [lineage_summary, walk_revisions, if_pos TwoRevisions.walk_full]
    exact ⟨_, rfl⟩
  obtain ⟨⟨l, _ | context⟩, h⟩ := hok
  · cases (lineage_summary_ok h).2.2
  · exact ⟨l, context, h, (lineage_shared h).1 _ _⟩

/-! ## Manifests that are read whole -/

/-- A manifest that was read whole has the identity that its file says. -/
def Reads (x : String × Json) (y : Digest × Manifest) : Prop :=
  x.1 = ident y.1 ∧
    item x.2 "store_identity" = y.2.store_identity.elim .null fun id => .str (ident id)

theorem Reads.linked {x : String × Json} {y : Digest × Manifest} (h : Reads x y) (id : Digest) :
    item x.2 "store_identity" = .str (ident id) ↔ y.2.store_identity = some id := by
  rw [h.2]
  cases y.2.store_identity with
  | none => simp
  | some id' => simp [ident_injective.eq_iff]

theorem Reads.unlinked {x : String × Json} {y : Digest × Manifest} (h : Reads x y) :
    item x.2 "store_identity" = .null ↔ y.2.store_identity = none := by
  rw [h.2]
  cases y.2.store_identity <;> simp

/-- The summary of manifests that are read whole answers as the check of their files. -/
theorem bound_lineage_points {identity id : Digest} {allow_legacy : Bool}
    {walk : List (String × Json)} {manifests : List (Digest × Manifest)}
    (h : List.Forall₂ Reads walk manifests) :
    Lineage.bound ⟨lineage_points identity true manifests, none⟩ id allow_legacy = true ↔
      bound_descendants (ident id) (ident identity) allow_legacy walk = .ok () := by
  have hrun (prefix_ok : Bool) :
      Lineage.bound ⟨lineage_points identity prefix_ok manifests, none⟩ id allow_legacy = true ↔
        prefix_ok = true ∧ bound_descendants (ident id) (ident identity) allow_legacy walk = .ok () := by
    induction h generalizing prefix_ok with
    | nil => simp [Lineage.bound, lineage_points, bound_descendants]
    | @cons x y walk manifests hxy h ih =>
      obtain ⟨identifier, manifest⟩ := x
      obtain ⟨y, m⟩ := y
      obtain rfl : identifier = ident y := hxy.1
      have hlinked : item manifest "store_identity" = .str (ident identity) ↔
        m.store_identity = some identity := hxy.linked identity
      have hunlinked : item manifest "store_identity" = .null ↔ m.store_identity = none :=
        hxy.unlinked
      rw [lineage_points, bound_descendants]
      simp only [hlinked, hunlinked, ident_injective.eq_iff]
      by_cases hid : y = id
      · rw [Lineage.bound, hid, List.lookup_cons_self, if_pos rfl]
        cases prefix_ok with
        | false => simp
        | true =>
          simp only [Bool.true_and, Bool.or_eq_true, Bool.and_eq_true, decide_eq_true_eq, true_and,
            Option.isNone_iff_eq_none]
          split_ifs with hlink
          · exact iff_of_true hlink rfl
          · exact iff_of_false hlink (by simp)
      · have hlookup := ih (prefix_ok && m.store_identity = some identity)
        rw [Lineage.bound] at hlookup ⊢
        rw [List.lookup_cons, beq_false_of_ne (Ne.symm hid), if_neg hid]
        rw [hlookup]
        by_cases hlink : m.store_identity = some identity
        · simp [hlink, hlinked.2 hlink]
        · simp [hlink, mt hlinked.1 hlink]
  exact (hrun true).trans (and_iff_right rfl)

end AnKla.Walk
