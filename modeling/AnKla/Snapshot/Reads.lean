import AnKla.Snapshot.Recursion

/-!
# What a snapshot has read

* `SnapshotReads`: the parts of a revision, as a snapshot finds them on a disk.
* `snapshot_step_ok`, `snapshot_ok`: a snapshot succeeds exactly when all parts are there.
* `read_records_ok`: the raw records, segment by segment, under distinct ids.
-/

namespace AnKla

open PyJson Durable

variable (H : Crypto)

/-- The parts of a revision, as a snapshot finds them. -/
structure SnapshotReads (d : Disk) (snapshot : Digest → Except Failure Snapshot)
    (use_watermark : Bool) (revision : Digest) (s : Snapshot) : Prop where
  id : s.revision_id = revision
  manifest : read_manifest H d revision = .ok s.manifest
  valid : s.manifest.Valid
  chain : validate_revision_chain H .integrity
    (if use_watermark then usable_watermark d else none) d revision s.manifest = .ok ()
  link : verify_manifest_link H d s.manifest = .ok ()
  checkpoint : read_checkpoint H d s.manifest.checkpoint = .ok s.checkpoint
  checkpoint_ok : validate_checkpoint_v2 s.checkpoint s.manifest.revision = .ok ()
  raw : read_records H d s.manifest = .ok s.raw_records
  records : s.records = .ofFn fun t => (s.raw_records.get t).map (overlay H s.manifest t)
  lifecycle : validate_lifecycle H snapshot d s.manifest s.raw_records = .ok ()

variable {H}

/-- A snapshot succeeds exactly when all parts of the revision are there. -/
theorem snapshot_step_ok {d : Disk} {snapshot : Digest → Except Failure Snapshot}
    {use_watermark : Bool} {revision : Digest} {s : Snapshot} :
    snapshot_step H d snapshot use_watermark revision = .ok s ↔
      SnapshotReads H d snapshot use_watermark revision s := by
  rw [snapshot_step]
  simp only [bind_ok, pure_ok, read_manifest_or_archived_ok]
  constructor
  · rintro ⟨m, hm, _, hv, ⟨⟩, hc, ⟨⟩, hl, checkpoint, hcp, ⟨⟩, hck, raw, hr, ⟨⟩, hlc, rfl⟩
    exact ⟨rfl, hm, validate_manifest_ok.1 hv, hc, hl, hcp, hck, hr, rfl, hlc⟩
  · rintro ⟨hid, hm, hv, hc, hl, hcp, hck, hr, hrec, hlc⟩
    refine ⟨s.manifest, hm, (), validate_manifest_ok.2 hv, (), hc, (), hl, s.checkpoint, hcp, (),
      hck, s.raw_records, hr, (), hlc, ?_⟩
    obtain ⟨id, m, cp, records, raw⟩ := s
    simp only at hid hrec
    rw [hid, hrec]

theorem snapshot_ok {d : Disk} {revision : Digest} {s : Snapshot} :
    snapshot H d revision = .ok s ↔ SnapshotReads H d (snapshot H d) true revision s := by
  rw [snapshot_eq, snapshot_step_ok]

/-- A snapshot has read all parts of the revision. -/
theorem snapshot_reads {d : Disk} {revision : Digest} {s : Snapshot}
    (h : snapshot H d revision = .ok s) : SnapshotReads H d (snapshot H d) true revision s :=
  snapshot_ok.1 h

/-! ## Records -/

theorem add_rows_ok {stream : Stream} {rows new all : List Json} :
    add_rows stream rows new = .ok all ↔ all = rows ++ new ∧
      (∀ row ∈ new, record_id row ≠ "") ∧
      (new.map record_id).Nodup ∧ ∀ row ∈ new, record_id row ∉ rows.map record_id := by
  induction new generalizing rows with
  | nil =>
    rw [add_rows, List.append_nil, Except.ok.injEq]
    refine ⟨fun h => ⟨h.symm, ?_, List.nodup_nil, ?_⟩, fun h => h.1.symm⟩ <;>
      exact fun row hrow => absurd hrow List.not_mem_nil
  | cons row new ih =>
    rw [add_rows, bind_ok]
    simp only [ensure_ok, Bool.and_eq_true, decide_eq_true_eq, exists_const, ih]
    simp only [List.mem_cons, forall_eq_or_imp, List.map_cons, List.nodup_cons, List.map_append,
      List.mem_append, List.append_assoc, List.cons_append, List.nil_append, List.map_nil,
      List.not_mem_nil, or_false, not_or]
    constructor
    · rintro ⟨⟨h1, h2⟩, rfl, h3, h4, h5⟩
      refine ⟨rfl, ⟨h1, h3⟩, ⟨fun h => ?_, h4⟩, h2, fun r hr => (h5 r hr).1⟩
      obtain ⟨r, hr, he⟩ := List.mem_map.1 h
      exact (h5 r hr).2 he
    · rintro ⟨rfl, ⟨h1, h3⟩, ⟨h6, h4⟩, h2, h5⟩
      exact ⟨⟨h1, h2⟩, rfl, h3, h4, fun r hr =>
        ⟨h5 r hr, fun he => h6 (List.mem_map.2 ⟨r, hr, he⟩)⟩⟩

/-- Segments read one after the other. -/
theorem read_segments_append {d : Disk} {stream : Stream} {ids ids' : List Digest}
    {rows all : List Json} :
    read_segments H d stream rows (ids ++ ids') = .ok all ↔
      ∃ mid, read_segments H d stream rows ids = .ok mid ∧
        read_segments H d stream mid ids' = .ok all := by
  induction ids generalizing rows with
  | nil => simp [read_segments]
  | cons id ids ih =>
    simp only [List.cons_append, read_segments, bind_ok, ih]
    constructor
    · rintro ⟨new, hn, more, hm, mid, h1, h2⟩
      exact ⟨mid, ⟨new, hn, more, hm, h1⟩, h2⟩
    · rintro ⟨mid, ⟨new, hn, more, hm, h1⟩, h2⟩
      exact ⟨new, hn, more, hm, mid, h1, h2⟩

/-- Every segment that was read is there. -/
theorem read_segment_of_read_segments {d : Disk} {stream : Stream} {ids : List Digest}
    {rows all : List Json} (h : read_segments H d stream rows ids = .ok all) :
    ∀ id ∈ ids, ∃ new, read_segment H d stream id = .ok new := by
  induction ids generalizing rows with
  | nil => exact fun id hid => absurd hid List.not_mem_nil
  | cons id ids ih =>
    simp only [read_segments, bind_ok] at h
    obtain ⟨new, hn, mid, -, h⟩ := h
    intro id' hid
    obtain rfl | hid := List.mem_cons.1 hid
    · exact ⟨new, hn⟩
    · exact ih h id' hid

/-- The ids in a stream are distinct. -/
theorem nodup_of_read_segments {d : Disk} {stream : Stream} {ids : List Digest}
    {rows all : List Json} (h : read_segments H d stream rows ids = .ok all)
    (hr : (rows.map record_id).Nodup ∧ ∀ row ∈ rows, record_id row ≠ "") :
    (all.map record_id).Nodup ∧ ∀ row ∈ all, record_id row ≠ "" := by
  induction ids generalizing rows with
  | nil =>
    rw [read_segments] at h
    cases h
    exact hr
  | cons id ids ih =>
    simp only [read_segments, bind_ok] at h
    obtain ⟨new, -, mid, hm, h⟩ := h
    obtain ⟨rfl, hne, hnd, hnew⟩ := add_rows_ok.1 hm
    refine ih h ⟨?_, fun row hrow => ?_⟩
    · rw [List.map_append, List.nodup_append]
      refine ⟨hr.1, hnd, fun a ha b hb => ?_⟩
      obtain ⟨row, hrow, rfl⟩ := List.mem_map.1 hb
      rintro rfl
      exact hnew row hrow ha
    · obtain hrow | hrow := List.mem_append.1 hrow
      · exact hr.2 row hrow
      · exact hne row hrow

/-- The raw records of a manifest, stream by stream. -/
theorem read_records_ok {d : Disk} {m : Manifest} {raw : PerStream (List Json)} :
    read_records H d m = .ok raw ↔
      ∀ s, read_segments H d s [] (m.segments.get s) = .ok (raw.get s) :=
  PerStream.tryFn_ok

end AnKla
