import AnKla.Snapshot
import AnKla.Storage

/-!
# The recursion of a snapshot

A snapshot reads the revisions that its refutations were made on.

* `Calls`: from a revision to one that a refutation of it was made on.
* `Calls.rank_lt`: a refutation mentions its revision, and is mentioned by the manifest that
  holds it: so every call is to a revision that was hashed earlier.
* `snapshot_loop_enough`: the bound on the calls is never reached.
* `snapshot_eq`: the equation of the source.
* `snapshot_unique`: no other function satisfies it.
-/

namespace AnKla

open PyJson Durable

variable {H : Crypto}

/-! ## The digests in a value -/

theorem mem_idents_list {xs : List Json} {d : Digest} :
    d ∈ identsList xs ↔ ∃ x ∈ xs, d ∈ idents x := by
  induction xs with
  | nil => simp [identsList]
  | cons x xs ih => simp [identsList, ih]

theorem mem_idents_items {kvs : List (String × Json)} {d : Digest} :
    d ∈ identsItems kvs ↔ ∃ kv ∈ kvs, d ∈ idents kv.2 := by
  induction kvs with
  | nil => simp [identsItems]
  | cons kv kvs ih => simp [identsItems, ih]

/-- A value mentions what its items mention. -/
theorem mem_idents_item {v : Json} {k : String} {d : Digest} (h : d ∈ idents (item v k)) :
    d ∈ idents v := by
  cases v with
  | obj kvs =>
    rw [item, Json.get?] at h
    cases hf : kvs.find? fun kv => kv.1 = k with
    | none =>
      rw [hf] at h
      simp [idents] at h
    | some kv =>
      rw [hf] at h
      rw [idents, mem_idents_items]
      exact ⟨kv, List.mem_of_find?_eq_some hf, h⟩
  | _ => simp [item, Json.get?, idents] at h

/-! ## Calls -/

variable (H) in
/-- A revision has a refutation that was made on another one. -/
def Calls (d : Disk) (revision target : Digest) : Prop :=
  ∃ m entry refutation, read_manifest H d revision = .ok m ∧ entry ∈ m.refutations ∧
    read_refutation H d entry.refutation_id = .ok refutation ∧
    refutation_digest refutation "target_revision" = .ok target

theorem item_of_refutation_digest {refutation : Json} {key : String} {d : Digest}
    (h : refutation_digest refutation key = .ok d) : item refutation key = .str (ident d) := by
  rw [refutation_digest] at h
  split at h
  · next d' hd =>
    cases h
    exact digest_of_eq.1 hd
  · cases h

theorem digest_of_read_refutation {d : Disk} {id : Digest} {v : Json}
    (h : read_refutation H d id = .ok v) : H.digest (.json v) = id := by
  obtain ⟨c, -, hd, hv⟩ := read_json_object_ok.1 h
  cases c <;> cases hv
  exact hd

/-- A call is to a revision that was hashed earlier. -/
theorem Calls.rank_lt {d : Disk} {revision target : Digest} (h : Calls H d revision target) :
    H.rank target < H.rank revision := by
  obtain ⟨m, entry, refutation, hm, hentry, hr, ht⟩ := h
  have hinner : H.rank target < H.rank entry.refutation_id := by
    rw [← digest_of_read_refutation hr]
    refine H.rank_lt (mem_idents_item (k := "target_revision") ?_)
    rw [item_of_refutation_digest ht, idents, bare_digest_ident]
    exact List.mem_singleton_self _
  have houter : H.rank entry.refutation_id < H.rank revision := by
    rw [← digest_of_read_manifest hm]
    refine H.rank_lt ?_
    simp only [Document.mentions, Manifest.mentions, List.mem_append, List.mem_map]
    exact .inl (.inr ⟨entry, hentry, rfl⟩)
  exact hinner.trans houter

/-- The calls are well founded, whatever the disk holds. -/
theorem calls_wellFounded (d : Disk) : WellFounded fun target revision => Calls H d revision target :=
  Subrelation.wf Calls.rank_lt (measure H.rank).wf

/-! ## What a step reads of a call -/

theorem read_manifest_or_archived_ok {d : Disk} {revision : Digest} {m : Manifest} :
    read_manifest_or_archived H d revision = .ok m ↔ read_manifest H d revision = .ok m := by
  rw [read_manifest_or_archived]
  cases h : read_manifest H d revision with
  | ok m' => simp
  | error e =>
    simp only [reduceCtorEq, iff_false]
    split <;> simp

theorem forM_congr {ε α : Type} {f g : α → Except ε Unit} {xs : List α} (h : ∀ x ∈ xs, f x = g x) :
    xs.forM f = xs.forM g := by
  induction xs with
  | nil => rfl
  | cons x xs ih =>
    have htail : xs.forM f = xs.forM g := ih fun y hy => h y (List.mem_cons_of_mem _ hy)
    show (f x >>= fun _ => xs.forM f) = (g x >>= fun _ => xs.forM g)
    rw [h x List.mem_cons_self, htail]

variable {d : Disk} {f g : Digest → Except Failure Snapshot}

theorem validate_refutation_storage_congr {refutation : Json} {entry : RefutationEntry}
    (h : ∀ target, refutation_digest refutation "target_revision" = .ok target →
      f target = g target) :
    validate_refutation_storage H f d refutation entry =
      validate_refutation_storage H g d refutation entry := by
  rw [validate_refutation_storage, validate_refutation_storage]
  refine bind_eq_of_ok fun _ _ => bind_eq_of_ok fun _ _ => bind_eq_of_ok fun _ _ =>
    bind_eq_of_ok fun claim_id _ => bind_eq_of_ok fun claim _ => bind_eq_of_ok fun _ _ =>
    bind_eq_of_ok fun _ _ => bind_eq_of_ok fun _ _ => bind_eq_of_ok fun target ht => ?_
  rw [h target ht]

theorem validate_lifecycle_congr {m : Manifest} {raw : PerStream (List Json)}
    (h : ∀ entry ∈ m.refutations, ∀ refutation,
      read_refutation H d entry.refutation_id = .ok refutation → ∀ target,
        refutation_digest refutation "target_revision" = .ok target → f target = g target) :
    validate_lifecycle H f d m raw = validate_lifecycle H g d m raw := by
  rw [validate_lifecycle, validate_lifecycle]
  refine bind_eq_of_ok fun _ _ => forM_congr fun entry hentry => ?_
  rw [validate_refutation_entry, validate_refutation_entry]
  split
  · refine bind_eq_of_ok fun _ _ => bind_eq_of_ok fun refutation hr => ?_
    exact validate_refutation_storage_congr (h entry hentry refutation hr)
  · rfl

/-- Steps that agree on the results of the calls agree. -/
theorem snapshot_step_congr {use_watermark : Bool} {revision : Digest}
    (h : ∀ target, Calls H d revision target → f target = g target) :
    snapshot_step H d f use_watermark revision = snapshot_step H d g use_watermark revision := by
  rw [snapshot_step, snapshot_step]
  refine bind_eq_of_ok fun m hm => bind_eq_of_ok fun _ _ => bind_eq_of_ok fun _ _ =>
    bind_eq_of_ok fun _ _ => bind_eq_of_ok fun checkpoint _ => bind_eq_of_ok fun _ _ =>
    bind_eq_of_ok fun raw _ => ?_
  rw [@validate_lifecycle_congr H d f g m raw fun entry hentry refutation hr target ht =>
    h target ⟨m, entry, refutation, read_manifest_or_archived_ok.1 hm, hentry, hr, ht⟩]

/-! ## The bound -/

variable (H) in
/-- The file is the manifest of a revision that was not hashed after another one. -/
def is_earlier (revision : Digest) : Path → Bool
  | .revision id => H.rank id ≤ H.rank revision
  | _ => false

variable (H d) in
/-- How many files the snapshots of a revision and of its targets can read as manifests. -/
def earlier (revision : Digest) : ℕ := d.keys.countP (is_earlier H revision)

theorem countP_lt_countP {α : Type} {p q : α → Bool} {xs : List α} {x : α} (hx : x ∈ xs)
    (himp : ∀ y, p y = true → q y = true) (hp : ¬p x = true) (hq : q x = true) :
    xs.countP p < xs.countP q := by
  obtain ⟨s, t, rfl⟩ := List.append_of_mem hx
  have hs : s.countP p ≤ s.countP q := List.countP_mono_left fun y _ => himp y
  have ht : t.countP p ≤ t.countP q := List.countP_mono_left fun y _ => himp y
  rw [List.countP_append, List.countP_append, List.countP_cons_of_neg hp,
    List.countP_cons_of_pos hq]
  omega

/-- A call leaves fewer files to read. -/
theorem Calls.earlier_lt {revision target : Digest} (h : Calls H d revision target) :
    earlier H d target < earlier H d revision := by
  have hrank := h.rank_lt
  obtain ⟨m, -, -, hm, -⟩ := h
  obtain ⟨c, hread, -⟩ := read_json_object_ok.1 hm
  have hkey : Path.revision revision ∈ d.keys := (d.mem_keys _).2 (by rw [hread]; rfl)
  refine countP_lt_countP hkey (fun p hp => ?_) ?_ (decide_eq_true le_rfl)
  · cases p <;> first | exact hp | skip
    exact decide_eq_true ((of_decide_eq_true hp).trans hrank.le)
  · exact fun hp => absurd (of_decide_eq_true hp) (not_le.2 hrank)

/-- More calls than there are files to read make no difference. -/
theorem snapshot_loop_earlier {n n' : ℕ} {use_watermark : Bool} {revision : Digest}
    (hn : earlier H d revision < n) (hn' : earlier H d revision < n') :
    snapshot_loop H d n use_watermark revision = snapshot_loop H d n' use_watermark revision := by
  induction n generalizing n' use_watermark revision with
  | zero => exact absurd hn (Nat.not_lt_zero _)
  | succ n ih =>
    obtain ⟨n', rfl⟩ := Nat.exists_eq_add_of_lt hn'
    rw [snapshot_loop, snapshot_loop]
    refine snapshot_step_congr fun target hc => ?_
    have hless := hc.earlier_lt
    exact ih (by omega) (by omega)

/-- The bound on the calls is never reached. -/
theorem snapshot_loop_enough {n : ℕ} (hn : snapshot_depth d ≤ n) (use_watermark : Bool)
    (revision : Digest) : snapshot_loop H d n use_watermark revision =
      snapshot_loop H d (snapshot_depth d) use_watermark revision := by
  have hle : earlier H d revision < snapshot_depth d := Nat.lt_succ_of_le List.countP_le_length
  exact snapshot_loop_earlier (hle.trans_le hn) hle

/-! ## The equation -/

/-- What a snapshot reads of its targets is a snapshot. -/
theorem snapshot_loop_eq (use_watermark : Bool) (revision : Digest) :
    snapshot_loop H d (snapshot_depth d) use_watermark revision =
      snapshot_step H d (snapshot H d) use_watermark revision := by
  rw [← snapshot_loop_enough (Nat.le_succ _), snapshot_loop]
  rfl

theorem snapshot_eq (revision : Digest) :
    snapshot H d revision = snapshot_step H d (snapshot H d) true revision :=
  snapshot_loop_eq true revision

theorem audit_eq (revision : Digest) :
    audit H d revision = snapshot_step H d (snapshot H d) false revision :=
  snapshot_loop_eq false revision

/-- The equation has one solution. -/
theorem snapshot_unique (hf : ∀ revision, f revision = snapshot_step H d f true revision) :
    f = snapshot H d := by
  funext revision
  induction revision using (calls_wellFounded (H := H) d).induction with
  | _ revision ih => rw [hf, snapshot_eq, snapshot_step_congr ih]

end AnKla
