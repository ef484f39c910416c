import AnKla.Snapshot.Reads
import AnKla.Crypto.Table

/-!
# Segments that can be read

A segment is canonical text, a record a line, and canonical text leaves three
characters as they are at which the reader splits too. Records that hold one of
them in a string are written, but never read.

* `Appends`: a segment adds its rows to those of the segments before it.
* `segment_read_back_iff`: rows are read back exactly when no string of theirs
  holds a raw line break; a revision with such a segment has no snapshot.
-/

namespace AnKla

open PyJson Durable

variable (H : Crypto)

/-- New rows under new ids are read after the rows of any segments before. -/
def Appends (d : Disk) (stream : Stream) (rows : List Json) : Prop :=
  ∀ ids old, read_segments H d stream [] ids = .ok old →
    (∀ row ∈ rows, record_id row ≠ "") → (rows.map record_id).Nodup →
    (∀ row ∈ rows, record_id row ∉ old.map record_id) →
    read_segments H d stream [] (ids ++ [segment_id H rows]) = .ok (old ++ rows)

variable {H}

/-- A segment that is read adds its rows. -/
theorem appends_of_read_segment {d : Disk} {stream : Stream} {rows : List Json}
    (h : read_segment H d stream (segment_id H rows) = .ok rows) : Appends H d stream rows := by
  intro ids old hold hne hnd hnew
  refine read_segments_append.2 ⟨old, hold, ?_⟩
  simp only [read_segments, bind_ok]
  exact ⟨rows, h, old ++ rows, add_rows_ok.2 ⟨rfl, hne, hnd, hnew⟩, rfl⟩

/-- A revision that can be read has no segment with a raw line break. -/
theorem breakFree_of_snapshot {d : Disk} {revision : Digest} {s : Snapshot} {stream : Stream}
    {rows : List Json} (h : snapshot H d revision = .ok s)
    (hmem : segment_id H rows ∈ s.manifest.segments.get stream) :
    ∀ row ∈ rows, row.BreakFree := by
  have hseg := read_records_ok.1 (snapshot_reads h).raw stream
  obtain ⟨new, hnew⟩ := read_segment_of_read_segments hseg _ hmem
  exact read_segment_of_break hnew

/-- Rows that the store writes are read back, and can be part of a revision, exactly
    when no string of theirs holds a raw line break. Where one does, no revision
    with the segment has a snapshot, on any disk. -/
theorem segment_read_back_iff {d d' : Disk} {stream : Stream} {rows : List Json}
    (hne : rows ≠ []) (hacc : ∀ row ∈ rows, record_accepted row)
    (hw : (write_segment H stream rows).exec (storage H) d = .ok d') :
    (read_segment H d' stream (segment_id H rows) = .ok rows ∧ Appends H d' stream rows ↔
      ∀ row ∈ rows, row.BreakFree) ∧
    ((∃ row ∈ rows, ¬row.BreakFree) → ∀ e revision s, snapshot H e revision = .ok s →
      segment_id H rows ∉ s.manifest.segments.get stream) := by
  refine ⟨⟨fun h => read_segment_of_break h.1, fun hb => ?_⟩, ?_⟩
  · have hread := read_segment_of_lines (read_write_segment hw) hne
      (fun row hrow => (hacc row hrow).storable) hb
    exact ⟨hread, appends_of_read_segment hread⟩
  · rintro ⟨row, hrow, hbreak⟩ e revision s hs hmem
    exact hbreak (breakFree_of_snapshot hs hmem row hrow)

/-! ## A record with a line separator -/

/-- A fact whose text holds U+2028. -/
def separatorFact : Json := .obj
  [("id", .str "f-1"), ("text", .str (String.ofList ['a', '\u2028', 'b']))]

/-- A host that digests no content by a table. -/
noncomputable def plainHost : Crypto := Crypto.ofTable [] (by decide)

theorem segment_read_back_separator :
    (∀ row ∈ [separatorFact], record_accepted row) ∧
      ∃ d', (write_segment plainHost .facts [separatorFact]).exec (storage plainHost) ∅ = .ok d' ∧
        read_segment plainHost d' .facts (segment_id plainHost [separatorFact]) ≠
          .ok [separatorFact] := by
  refine ⟨by decide +kernel, _, rfl, fun h => ?_⟩
  have hb := read_segment_of_break h separatorFact (List.mem_singleton.2 rfl)
  simp only [separatorFact, Json.BreakFree, Json.BreakFreeItems, String.toList_ofList] at hb
  exact absurd (hb.2.2.2.1 '\u2028' (by decide)) (by decide)

theorem segment_read_back_iff_plain : ∃ d',
    (write_segment plainHost .facts [.obj [("id", .str "f-2")]]).exec (storage plainHost) ∅ = .ok d' ∧
      (read_segment plainHost d' .facts (segment_id plainHost [.obj [("id", .str "f-2")]]) =
          .ok [.obj [("id", .str "f-2")]] ∧
        Appends plainHost d' .facts [.obj [("id", .str "f-2")]] ↔
      ∀ row ∈ [Json.obj [("id", .str "f-2")]], row.BreakFree) := by
  refine ⟨_, rfl, ?_⟩
  exact (segment_read_back_iff (d := ∅) (by decide) (by decide +kernel) rfl).1

end AnKla
