import AnKla.Storage
import AnKla.Policy.Fields

/-!
# Segments

A segment is the records of one plan in one stream: a canonical text a line. It
is filed under the digest of its bytes, and read back by splitting it into lines.

* `write_segment`, `read_segment`.
* `read_segment_of_lines`: records that hold no raw line break are read back.
* `read_segment_of_break`: records that hold one are not, whatever the disk.
-/

namespace AnKla

open PyJson Durable

variable (H : Crypto)

/-- The identifier of the segment of some rows. -/
def segment_id (rows : List Json) : Digest := H.digest (.segment (writeLines rows))

/-- `_write_segment(stream, rows)`. -/
def write_segment (stream : Stream) (rows : List Json) : Write Path Document Failure :=
  .create (.segment stream (segment_id H rows)) (.segment (writeLines rows))

/-- `_read_segment(stream, identifier)`. -/
def read_segment (d : Disk) (stream : Stream) (identifier : Digest) :
    Except Failure (List Json) :=
  match d.read (.segment stream identifier) with
  | none => .error (.integrity ("segment_missing:" ++ stream.name))
  | some c =>
    if H.digest c ≠ identifier then
      .error (.integrity ("segment_hash_or_framing_invalid:" ++ stream.name))
    else match c with
      | .segment text =>
        if text.getLast? ≠ some '\n' then
          .error (.integrity ("segment_hash_or_framing_invalid:" ++ stream.name))
        else match readLines text with
          -- a line that is no JSON text
          | none => .error (.value "json_decode_error")
          | some rows => .ok rows
      | _ => .error (.integrity ("segment_hash_or_framing_invalid:" ++ stream.name))

/-- A record that the write validation accepts: an object with a canonical text,
    within the limits of size and depth. -/
def record_accepted (row : Json) : Prop :=
  row.isObj = true ∧ node_count row ≤ max_json_nodes ∧ json_depth row ≤ max_json_depth ∧
    row.intsFit = true ∧ row.Wf

theorem record_accepted.storable {row : Json} (h : record_accepted row) : Storable row :=
  ⟨h.2.2.2.2, h.2.2.2.1⟩

instance (row : Json) : Decidable (record_accepted row) :=
  inferInstanceAs (Decidable (_ ∧ _ ∧ _ ∧ _ ∧ _))

theorem getLast?_writeLines {rows : List Json} (h : rows ≠ []) :
    (writeLines rows).getLast? = some '\n' := by
  obtain ⟨init, row, rfl⟩ := (List.eq_nil_or_concat' rows).resolve_left h
  rw [writeLines, List.flatMap_append, List.flatMap_singleton, ← List.append_assoc,
    List.getLast?_concat]

variable {H}

/-- What a segment reads as, by its text. -/
theorem read_segment_eq {d : Disk} {stream : Stream} {text : List Char}
    (h : d.read (.segment stream (H.digest (.segment text))) = some (.segment text))
    (hl : text.getLast? = some '\n') :
    read_segment H d stream (H.digest (.segment text)) =
      match readLines text with
      | none => .error (.value "json_decode_error")
      | some rows => .ok rows := by
  rw [read_segment, h]
  simp only [ne_eq, not_true_eq_false, if_false, hl]

/-- A segment that is read back is one whose text is filed under its digest. -/
theorem read_segment_ok {d : Disk} {stream : Stream} {id : Digest} {rows : List Json}
    (h : read_segment H d stream id = .ok rows) :
    ∃ text, d.read (.segment stream id) = some (.segment text) ∧
      H.digest (.segment text) = id ∧ readLines text = some rows := by
  rw [read_segment] at h
  split at h
  · cases h
  · next c hc =>
    split_ifs at h with hd
    rw [not_not] at hd
    cases c with
    | segment text =>
      simp only at h
      split_ifs at h
      split at h
      · cases h
      · next rows' hr =>
        cases h
        exact ⟨text, hc, hd, hr⟩
    | _ => cases h

/-- The segment that a write leaves holds the rows' lines. -/
theorem read_write_segment {d d' : Disk} {stream : Stream} {rows : List Json}
    (h : (write_segment H stream rows).exec (storage H) d = .ok d') :
    d'.read (.segment stream (segment_id H rows)) = some (.segment (writeLines rows)) :=
  Write.exec_target (.inr rfl) h

/-- A segment of rows without raw line breaks reads as those rows. -/
theorem read_segment_of_lines {d : Disk} {stream : Stream} {rows : List Json}
    (h : d.read (.segment stream (segment_id H rows)) = some (.segment (writeLines rows)))
    (hne : rows ≠ []) (hr : ∀ row ∈ rows, Storable row) (hb : ∀ row ∈ rows, row.BreakFree) :
    read_segment H d stream (segment_id H rows) = .ok rows := by
  rw [segment_id] at h ⊢
  rw [read_segment_eq h (getLast?_writeLines hne),
    readLines_writeLines (fun row hrow => (hr row hrow).1) (fun row hrow => (hr row hrow).2) hb]

/-- Whatever is filed under the digest of rows, it reads as nothing but the rows. -/
theorem eq_of_read_segment {d : Disk} {stream : Stream} {rows ws : List Json}
    (h : read_segment H d stream (segment_id H rows) = .ok ws)
    (hr : ∀ row ∈ rows, Storable row) : ws = rows := by
  obtain ⟨text, -, hd, ht⟩ := read_segment_ok h
  have hk : (Document.segment text).kind = (Document.segment (writeLines rows)).kind := rfl
  have := H.injective hk hd
  cases this
  exact readLines_writeLines_eq (fun row hrow => (hr row hrow).1)
    (fun row hrow => (hr row hrow).2) ht

/-- Rows of which one holds a raw line break are read from no disk. -/
theorem read_segment_of_break {d : Disk} {stream : Stream} {rows ws : List Json}
    (h : read_segment H d stream (segment_id H rows) = .ok ws) :
    ∀ row ∈ rows, row.BreakFree := by
  obtain ⟨text, -, hd, ht⟩ := read_segment_ok h
  have hk : (Document.segment text).kind = (Document.segment (writeLines rows)).kind := rfl
  have := H.injective hk hd
  cases this
  exact breakFree_of_readLines ht

end AnKla
