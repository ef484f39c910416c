import AnKla.Snapshot.Reads
import AnKla.Compaction.Plan
import AnKla.Policy.Dict
import AnKla.Policy.Evaluate

/-!
# What readers make of a record

Four readers say of a record whether it is active: the overlay of a snapshot, by
which retrieval serves; the projection of a compaction; the context view; and the
inspection of a refutation. Each of them reads the maps of the manifest and the
record's own status in its own way.

* `Vigency`: what a record is, once and for all readers.
* `retrieval_bucket`, `view_item`, `project_subject`, `inspect_state`: the readers.
* `readers_agree`: they say the same, of every record of every revision.
-/

namespace AnKla

open PyJson Durable

variable (H : Crypto)

/-! ## Retrieval -/

/-- What retrieval does with a record, before it ranks it. -/
inductive Bucket
  | inactive
  | invalid_record
  | no_text
  | ranked
  deriving DecidableEq, Repr

/-- `not record.get("id")`. -/
def lacks_id (record : Json) : Bool :=
  match record.get? "id" with
  | none | some .null | some (.bool false) | some (.int 0) | some (.str "")
  | some (.arr []) | some (.obj []) => true
  | _ => false

/-- The first part of the loop of `retrieve`. -/
def retrieval_bucket (record : Json) : Bucket :=
  if !is_active record then .inactive
  else if lacks_id record then .invalid_record
  else if record_text record = "" then .no_text
  else .ranked

/-! ## The context view -/

/-- `_physical_state(raw)`: the state that a record gives itself, and the value it
    says so with. -/
def physical_state (raw : Json) : String × Json :=
  let physical := match raw.get? "status" with
    | some v => some v
    | none => raw.get? "nu"
  let active : Bool := match physical with
    | none => true
    | some v => v = .null || v = .str "vigente" || v = .str "active"
  (bif active then "active" else "inactive_untrusted", physical.getD .null)

/-- The state that the maps of the manifest give to a record in `_project_subject`. -/
def governed_state (m : Manifest) (stream : Stream) (raw : Json) : Option String :=
  if m.refutations.any fun e =>
      e.stream = stream && e.target_record_sha256 = H.digest_json raw then some "refuted"
  else if m.supersedes.any fun e => e.stream = stream && e.target_id = record_id raw then
    some "superseded"
  else none

/-- A record, as the context view shows it. -/
structure ViewItem where
  stream : Stream
  raw : Json
  record_sha256 : Digest
  state : String
  state_source : String
  physical_status : Json

/-- The part of `_project_record` that is about the state. -/
def view_item (m : Manifest) (stream : Stream) (raw : Json) : ViewItem where
  stream := stream
  raw := raw
  record_sha256 := H.digest_json raw
  state := (governed_state H m stream raw).getD (physical_state raw).1
  state_source := if (governed_state H m stream raw).isSome then "governed_overlay"
    else "physical_status_untrusted"
  physical_status := (physical_state raw).2

/-- The order of the items of a subject. -/
def ViewItem.key (x : ViewItem) : List ℕ := [x.stream.order, x.record_sha256]

/-- The order of the history: the last verified first. -/
def ViewItem.verified (x : ViewItem) : List String :=
  match item x.raw "verified_at" with
  | .str s => ["", s]
  | _ => []

/-- `_project_subject`: the active records of a subject, and the others. -/
def project_subject (m : Manifest) (records : List (Stream × Json)) :
    List ViewItem × List ViewItem :=
  let items := records.map fun x => view_item H m x.1 x.2
  ((items.filter fun x => x.state = "active").insertionSort fun a b => a.key ≤ b.key,
    ((items.filter fun x => x.state ≠ "active").insertionSort fun a b => a.key ≤ b.key).insertionSort
      fun a b => b.verified ≤ a.verified)

/-! ## The inspection of a refutation -/

/-- `_physical(row)`: where a row's own state comes from. -/
def physical_source (row : Json) : String :=
  if (row.get? "status").isSome ∨ (row.get? "nu").isSome then "physical_untrusted"
  else "default_active"

/-- `_state(row, stream, supersedes, refutations)`: state, source, successor and
    refutation. A later entry of a map replaces an earlier one. -/
def inspect_state (m : Manifest) (stream : Stream) (row : Json) :
    String × String × Option String × Option Digest :=
  let refutation := m.refutations.reverse.find? fun e =>
    e.stream = stream && e.target_record_sha256 = H.digest_json row
  let supersede := m.supersedes.reverse.find? fun e =>
    e.stream = stream && e.target_id = record_id row
  match refutation, supersede with
  | some e, _ => ("refuted", "refutations_overlay", none, some e.refutation_id)
  | none, some e => ("superseded", "supersedes_overlay", some e.sustituida_por, none)
  | none, none => (if is_active row then "active" else "inactive", physical_source row, none, none)

/-! ## What a record is -/

/-- The life of a record: the maps of its revision before its own status. -/
inductive Vigency
  | active
  | superseded
  | refuted
  | inactive
  deriving DecidableEq, Repr

/-- What a record of a revision is. -/
def vigency (m : Manifest) (stream : Stream) (row : Json) : Vigency :=
  if ∃ e ∈ m.refutations, e.stream = stream ∧ e.target_record_sha256 = H.digest_json row then
    .refuted
  else if ∃ e ∈ m.supersedes, e.stream = stream ∧ e.target_id = record_id row then .superseded
  else if is_active row then .active
  else .inactive

/-- How the context view writes it. -/
def Vigency.view : Vigency → String
  | .active => "active"
  | .superseded => "superseded"
  | .refuted => "refuted"
  | .inactive => "inactive_untrusted"

/-- How the inspection of a refutation writes it. -/
def Vigency.inspected : Vigency → String
  | .active => "active"
  | .superseded => "superseded"
  | .refuted => "refuted"
  | .inactive => "inactive"

/-- How a compaction writes it, of a record that it leaves out. -/
def Vigency.tombstone : Vigency → Option TombstoneState
  | .active => none
  | .superseded => some .superseded
  | .refuted => some .refuted
  | .inactive => some .inactive

/-- All readers take a record of a revision for the same. -/
structure ReadersAgree (m : Manifest) (stream : Stream) (row : Json) : Prop where
  overlay : is_active (overlay H m stream row) = decide (vigency H m stream row = .active)
  retrieval : retrieval_bucket (AnKla.overlay H m stream row) = .inactive ↔
    vigency H m stream row ≠ .active
  compaction : row_state H m stream row = (vigency H m stream row).tombstone
  view : (view_item H m stream row).state = (vigency H m stream row).view
  inspection : (inspect_state H m stream row).1 = (vigency H m stream row).inspected

variable {H}

/-! ## Objects -/

/-- A record with an id is an object. -/
theorem isObj_of_record_id {row : Json} (h : record_id row ≠ "") : row.isObj = true := by
  cases row with
  | obj kvs => rfl
  | _ => exact absurd rfl h

/-- A record whose status was set by the overlay is not active. -/
theorem not_active_of_status {v : Json} (hv : v.isObj = true) {s : String} (hs : s ≠ "vigente")
    (hs' : s ≠ "active") : is_active (v.set "status" (.str s)) = false := by
  rw [is_active, Json.get?_set hv]
  simp [one_of, hs, hs']

/-! ## The readers, one by one -/

theorem is_refuted_iff {m : Manifest} {stream : Stream} {row : Json} :
    is_refuted H m stream row = true ↔
      ∃ e ∈ m.refutations, e.stream = stream ∧ e.target_record_sha256 = H.digest_json row := by
  simp [is_refuted]

theorem is_superseded_iff {m : Manifest} {stream : Stream} {row : Json} :
    is_superseded m stream row = true ↔
      ∃ e ∈ m.supersedes, e.stream = stream ∧ e.target_id = record_id row := by
  simp [is_superseded]

/-- The life of a record, by the tests of the snapshot. -/
theorem vigency_eq (m : Manifest) (stream : Stream) (row : Json) :
    vigency H m stream row = if is_refuted H m stream row then .refuted
      else if is_superseded m stream row then .superseded
      else if is_active row then .active else .inactive := by
  simp only [vigency, ← is_refuted_iff, ← is_superseded_iff]

theorem is_active_overlay {m : Manifest} {stream : Stream} {row : Json} (h : row.isObj = true) :
    is_active (overlay H m stream row) = decide (vigency H m stream row = .active) := by
  rw [vigency_eq, overlay]
  by_cases hr : is_refuted H m stream row = true
  · rw [if_pos hr, if_pos hr, not_active_of_status _ (by decide) (by decide)]
    · rfl
    · split_ifs
      · exact (isObj_set _ _ _).trans h
      · exact h
  · rw [if_neg hr, if_neg hr]
    by_cases hs : is_superseded m stream row = true
    · rw [if_pos hs, if_pos hs, not_active_of_status h (by decide) (by decide)]
      rfl
    · rw [if_neg hs, if_neg hs]
      cases is_active row <;> rfl

theorem retrieval_bucket_inactive {record : Json} :
    retrieval_bucket record = .inactive ↔ is_active record = false := by
  rw [retrieval_bucket]
  cases is_active record with
  | false => simp
  | true =>
    simp only [Bool.not_true, Bool.false_eq_true, if_false, reduceCtorEq, iff_false]
    split_ifs <;> simp

theorem row_state_eq (m : Manifest) (stream : Stream) (row : Json) :
    row_state H m stream row = (vigency H m stream row).tombstone := by
  rw [vigency_eq, row_state]
  split_ifs <;> rfl

/-- The context view and `is_active` take the same values for active ones. -/
theorem physical_state_eq (raw : Json) :
    (physical_state raw).1 = if is_active raw then "active" else "inactive_untrusted" := by
  have hone (v : Json) : (v = .null || v = .str "vigente" || v = .str "active") =
      (v = .null || one_of v ["vigente", "active"]) := by
    cases v <;> simp [one_of]
  rw [physical_state, is_active]
  cases raw.get? "status" with
  | some v => simp only [hone, cond_eq_ite]
  | none =>
    cases raw.get? "nu" with
    | some v => simp only [hone, cond_eq_ite, Option.getD_some]
    | none => rfl

theorem view_state_eq (m : Manifest) (stream : Stream) (row : Json) :
    (view_item H m stream row).state = (vigency H m stream row).view := by
  have hg : governed_state H m stream row = if is_refuted H m stream row then some "refuted"
      else if is_superseded m stream row then some "superseded" else none := rfl
  rw [view_item, vigency_eq]
  simp only [hg, physical_state_eq]
  split_ifs <;> rfl

theorem inspect_state_eq (m : Manifest) (stream : Stream) (row : Json) :
    (inspect_state H m stream row).1 = (vigency H m stream row).inspected := by
  rw [vigency_eq, inspect_state]
  cases hr : m.refutations.reverse.find? fun e =>
      e.stream = stream && e.target_record_sha256 = H.digest_json row with
  | some e =>
    have he := List.find?_some hr
    have hmem := List.mem_reverse.1 (List.mem_of_find?_eq_some hr)
    have hyes : is_refuted H m stream row = true := List.any_eq_true.2 ⟨e, hmem, he⟩
    rw [if_pos hyes]
    rfl
  | none =>
    have hno : ¬is_refuted H m stream row = true := by
      rw [is_refuted, List.any_eq_true]
      rintro ⟨e, he, hp⟩
      exact List.find?_eq_none.1 hr e (List.mem_reverse.2 he) hp
    rw [if_neg hno]
    cases hs : m.supersedes.reverse.find? fun e =>
        e.stream = stream && e.target_id = record_id row with
    | some e =>
      have he := List.find?_some hs
      have hmem := List.mem_reverse.1 (List.mem_of_find?_eq_some hs)
      have hyes : is_superseded m stream row = true := List.any_eq_true.2 ⟨e, hmem, he⟩
      rw [if_pos hyes]
      rfl
    | none =>
      have hno' : ¬is_superseded m stream row = true := by
        rw [is_superseded, List.any_eq_true]
        rintro ⟨e, he, hp⟩
        exact List.find?_eq_none.1 hs e (List.mem_reverse.2 he) hp
      rw [if_neg hno']
      cases is_active row <;> rfl

/-- All readers agree on a record that is an object. -/
theorem ReadersAgree.of_isObj {m : Manifest} {stream : Stream} {row : Json}
    (h : row.isObj = true) : ReadersAgree H m stream row where
  overlay := is_active_overlay h
  retrieval := by
    rw [retrieval_bucket_inactive, is_active_overlay h, decide_eq_false_iff_not]
  compaction := row_state_eq m stream row
  view := view_state_eq m stream row
  inspection := inspect_state_eq m stream row

/-! ## Whole revisions -/

/-- A record of a snapshot has an id. -/
theorem record_id_of_snapshot {d : Disk} {revision : Digest} {s : Snapshot}
    (h : snapshot H d revision = .ok s) {stream : Stream} :
    ((s.raw_records.get stream).map record_id).Nodup ∧
      ∀ row ∈ s.raw_records.get stream, record_id row ≠ "" :=
  nodup_of_read_segments (read_records_ok.1 (snapshot_reads h).raw stream)
    ⟨List.nodup_nil, fun _ hrow => absurd hrow List.not_mem_nil⟩

variable (H) in
/-- In a stream of a snapshot, what retrieval serves, what a compaction keeps and
    what the context view counts are the same records in the same order; and of every
    record all readers say the same. -/
structure SameVigency (s : Snapshot) (stream : Stream) : Prop where
  records : ∀ row ∈ s.raw_records.get stream, ReadersAgree H s.manifest stream row
  served : (s.records.get stream).filter is_active = active_rows H s stream
  counted : (s.raw_records.get stream).filter (fun row => (view_item H s.manifest stream row).state = "active") =
    active_rows H s stream
  alternatives : ∀ rows : List (Stream × Json), ∀ x : ViewItem,
    x ∈ (project_subject H s.manifest rows).1 ↔ ∃ row, (x.stream, row) ∈ rows ∧
      x = view_item H s.manifest x.stream row ∧ vigency H s.manifest x.stream row = .active

theorem Vigency.tombstone_isNone (v : Vigency) : v.tombstone.isNone = decide (v = .active) := by
  cases v <;> rfl

theorem Vigency.view_active (v : Vigency) : v.view = "active" ↔ v = .active := by
  cases v <;> simp [view]

/-- The overlay leaves an active record as it is. -/
theorem overlay_of_active {m : Manifest} {stream : Stream} {row : Json}
    (h : vigency H m stream row = .active) : overlay H m stream row = row := by
  rw [vigency_eq] at h
  rw [overlay]
  split_ifs at h with h1 h2 h3
  rw [if_neg h1, if_neg h2]

/-- Of every record of every revision that can be read, all readers say the same. -/
theorem readers_agree (d : Disk) (revision : Digest) :
    Yields (snapshot H d revision) fun s => ∀ stream, SameVigency H s stream := by
  refine yields_iff.2 fun s h stream => ?_
  have hobj (row : Json) (hrow : row ∈ s.raw_records.get stream) : row.isObj = true :=
    isObj_of_record_id ((record_id_of_snapshot h).2 row hrow)
  refine ⟨fun row hrow => .of_isObj (hobj row hrow), ?_, ?_, fun rows x => ?_⟩
  · rw [(snapshot_reads h).records, PerStream.get_ofFn, List.filter_map, active_rows]
    have hcongr : (s.raw_records.get stream).filter (is_active ∘ overlay H s.manifest stream) =
        (s.raw_records.get stream).filter fun row => (row_state H s.manifest stream row).isNone := by
      refine List.filter_congr fun row hrow => ?_
      rw [Function.comp_apply, is_active_overlay (hobj row hrow), row_state_eq,
        Vigency.tombstone_isNone]
    rw [hcongr]
    refine (List.map_congr_left fun row hrow => ?_).trans (List.map_id _)
    have hstate := (List.mem_filter.1 hrow).2
    rw [row_state_eq, Vigency.tombstone_isNone, decide_eq_true_eq] at hstate
    exact overlay_of_active hstate
  · refine List.filter_congr fun row _ => ?_
    rw [view_state_eq, row_state_eq, Vigency.tombstone_isNone, decide_eq_decide,
      Vigency.view_active]
  · rw [project_subject, List.mem_insertionSort, List.mem_filter, List.mem_map]
    constructor
    · rintro ⟨⟨⟨t, row⟩, hmem, rfl⟩, hstate⟩
      rw [decide_eq_true_eq, view_state_eq, Vigency.view_active] at hstate
      exact ⟨row, hmem, rfl, hstate⟩
    · rintro ⟨row, hmem, hx, hstate⟩
      refine ⟨⟨(x.stream, row), hmem, hx.symm⟩, ?_⟩
      rw [hx, decide_eq_true_eq, view_state_eq, Vigency.view_active]
      exact hstate

end AnKla
