import AnKla.Readers.Payload
import AnKla.Readers.Subjects
import AnKla.Sealed.Bundle

/-!
# Pages of a context view

A page serves subjects from a cursor on, while they fit in its byte budget; its own cursor
names the next subject. The budget and the limit may change from page to page, the rest may
not: the cursor carries a digest of it.

* `encode_cursor`, `decode_cursor`: a cursor as hexadecimal text.
* `base_payload`: a page, with its own size and budget.
* `minimum_budget`: the least budget that would have been enough.
* `context_page`, `context_view`.
-/

namespace AnKla

open PyJson Budget

variable (H : Crypto)

/-! ## Cursors -/

def MAX_CURSOR_CHARS : ℕ := 16384

/-- The part of a cursor that its digest is of. -/
def cursor_core (v r ih n : Json) : Json := dict [("v", v), ("r", r), ("ih", ih), ("n", n)]

/-- The document of a cursor. -/
def cursor_document (revision identity_digest : Digest) (next_subject : String) : Json :=
  let core := cursor_core (.str CONTRACT_VERSION) (.str (ident revision))
    (.str (ident identity_digest)) (.str next_subject)
  dict [("v", .str CONTRACT_VERSION), ("r", .str (ident revision)),
    ("ih", .str (ident identity_digest)), ("n", .str next_subject), ("d", H.json_ident core)]

/-- `canonical_json(document).hex()`. -/
def hex_json (document : Json) : String :=
  String.ofList (Base64.hex (Sealed.canonical_json document))

/-- `_encode_cursor(revision, identity_digest, next_subject)`. -/
def encode_cursor (revision identity_digest : Digest) (next_subject : String) : String :=
  hex_json (cursor_document H revision identity_digest next_subject)

/-- `bytes.fromhex(text)`: pairs of digits, and white space between them. -/
def fromhex : List Char → Option Base64.Bytes
  | [] => some []
  | [c] => if Sealed.blank c then some [] else none
  | c :: e :: s =>
    if Sealed.blank c then fromhex (e :: s)
    else do
      let high ← hexVal c
      let low ← hexVal e
      let raw ← fromhex s
      return UInt8.ofNat (16 * high + low) :: raw

/-- The subject that a document names, if it is a cursor of this view. -/
def cursor_subject (revision identity_digest : Digest) (text : String) (document : Json) :
    Option String :=
  let core := cursor_core (item document "v") (item document "r") (item document "ih")
    (item document "n")
  if exact_keys document ["v", "r", "ih", "n", "d"] = true ∧ hex_json document = text ∧
      item document "d" = H.json_ident core ∧ item document "v" = .str CONTRACT_VERSION ∧
      item document "r" = .str (ident revision) ∧
      item document "ih" = .str (ident identity_digest) then
    match item document "n" with
    | .str next_subject => some next_subject
    | _ => none
  else none

/-- The subject that a text names, if it is a cursor of this view. -/
def read_cursor (revision identity_digest : Digest) (text : String) : Option String :=
  if text = "" ∨ MAX_CURSOR_CHARS < text.length then none
  else (fromhex text.toList).bind fun raw =>
    (Sealed.json_loads raw).bind (cursor_subject H revision identity_digest text)

/-- `_decode_cursor(cursor, revision, identity_digest, subjects)`. -/
def decode_cursor (cursor : Option String) (revision identity_digest : Digest)
    (subjects : List String) : Except ViewError ℕ :=
  match cursor with
  | none => .ok 0
  | some text =>
    match read_cursor H revision identity_digest text with
    | some next_subject =>
      if next_subject ∈ subjects then .ok (subjects.idxOf next_subject) else .error .cursor_invalid
    | none => .error .cursor_invalid

/-! ## Pages -/

/-- `freshness` in `_base_payload`. -/
def view_freshness (v : ViewIdentity) : Json :=
  match v.now with
  | none => .null
  | some now => dict [("semantics", .str FRESHNESS_SEMANTICS),
      ("source_field", .str FRESHNESS_SOURCE_FIELD), ("computed_at", .str (format_utc now)),
      ("stale_after_days", nullable (fun n : ℕ => Json.int n) v.stale_after_days)]

/-- `inputs` in `_base_payload`. -/
def public_inputs (v : ViewIdentity) (limit budget_bytes : ℕ) : Json :=
  dict (v.items ++ ("limit", .int limit) :: ("budget_bytes", .int budget_bytes) :: [])

/-- `pagination` in `_base_payload`. -/
def pagination (next_cursor : Option String) (served total truncated limit budget_bytes used : ℕ) :
    Json :=
  dict ([("complete", .bool next_cursor.isNone), ("next_cursor", nullable .str next_cursor),
    ("served_subjects", .int served), ("total_subjects", .int total),
    ("truncated_subjects", .int truncated)] ++
    ("budget_used_bytes", .int used) :: ("budget_bytes", .int budget_bytes) ::
    [("limit", .int limit)])

/-- The items of `_base_payload`. -/
def base_items (v : ViewIdentity) (u : Universe) (limit budget_bytes : ℕ) (subjects : List Json)
    (next_cursor : Option String) (truncated used : ℕ) : List (String × Json) :=
  [("schema", .str "an-kla/context-view-v1"), ("contract_version", .str CONTRACT_VERSION),
    ("serialization", .str "canonical-json/v1"), ("canonicality", .str "non-authoritative"),
    ("untrusted_memory_data", .bool true), ("host_framing_unmeasured", .bool true),
    ("live_revalidation_performed", .bool false),
    ("consumer_action_required",
      .str "revalidate_against_canonical_sources_before_action"),
    ("revision", .str (ident v.revision))] ++
  ("inputs", public_inputs v limit budget_bytes) ::
  ([("freshness", view_freshness v),
    ("subjects_without_subject_ref",
      dict (v.streams.map fun stream => (stream.name, .int (u.missing stream)))),
    ("subjects", .arr subjects),
    ("warnings", .arr ((u.warnings v.streams).map .str))] ++
  ("pagination", pagination next_cursor subjects.length u.refs.length truncated limit
    budget_bytes used) :: [])

/-- `_base_payload`. -/
def base_payload (v : ViewIdentity) (u : Universe) (limit budget_bytes : ℕ) (subjects : List Json)
    (next_cursor : Option String) (truncated used : ℕ) : Json :=
  dict (base_items v u limit budget_bytes subjects next_cursor truncated used)

/-- The cursor of the subject at an index, `None` behind the last one. -/
def next_cursor (v : ViewIdentity) (u : Universe) (next_index : ℕ) : Option String :=
  u.refs[next_index]?.map fun ref => encode_cursor H v.revision (H.digest_json v.json) ref

/-- `build(selected, next_index, budget, used)` in `_context_view`. -/
def build_page (v : ViewIdentity) (u : Universe) (limit : ℕ) (selected : List Json)
    (next_index budget used : ℕ) : Json :=
  base_payload v u limit budget selected (next_cursor H v u next_index)
    (u.refs.length - next_index) used

/-- `_fixed(payload_builder)`; the caller returns an internal error if it raises. -/
def fixed (build : ℕ → Json) : Except ViewError Json :=
  match exact_sized_payload build with
  | .ok (payload, _) => .ok payload
  | .error _ => .error .internal_error

/-- The loop of `_minimum_budget`, from a lower bound on; each turn has one digit more. -/
def minimum_budget_loop (build : ℕ → ℕ → Json) : ℕ → ℕ → Option ℕ
  | 0, _ => none
  | bands + 1, lower =>
    if MAX_BUDGET_BYTES < lower then none
    else
      let band_end := min MAX_BUDGET_BYTES (10 ^ width lower - 1)
      match exact_sized_payload (build lower) with
      | .error _ => none
      | .ok (witness, _) =>
        let candidate := max lower witness.size
        if candidate ≤ band_end then
          match exact_sized_payload (build candidate) with
          | .error _ => none
          | .ok (checked, _) =>
            if checked.size ≤ candidate then some candidate
            else minimum_budget_loop build bands (band_end + 1)
        else minimum_budget_loop build bands (band_end + 1)

/-- `_minimum_budget(build, provided)`. The largest budget has ten digits. -/
def minimum_budget (build : ℕ → ℕ → Json) (provided : ℕ) : Option ℕ :=
  minimum_budget_loop build (width MAX_BUDGET_BYTES) (provided + 1)

/-- The loop over the subjects that are left, in `_context_view`. -/
def page_loop (build : List Json → ℕ → ℕ → Json) (projected : String → Json) (limit budget : ℕ) :
    List String → List Json → ℕ → Except ViewError (List Json × ℕ)
  | [], selected, index => .ok (selected, index)
  | ref :: refs, selected, index =>
    if selected.length < limit then do
      let candidate := selected ++ [projected ref]
      let measured ← fixed (build candidate (index + 1))
      if budget < measured.size then .ok (selected, index)
      else page_loop build projected limit budget refs candidate (index + 1)
    else .ok (selected, index)

/-- `projected(index)`, of the subject. -/
def projected (s : Snapshot) (v : ViewIdentity) (u : Universe) (ref : String) : Json :=
  view_subject H s.manifest v ref (u.records ref)

/-- The error for a lack of budget, with the minimum if there is one. -/
def budget_error (report : ℕ → ViewError) (budget : ℕ) (cursor : Option String) :
    Option ℕ → ViewError
  | some minimum => report minimum
  | none => .budget_measurement_unavailable budget cursor

/-- What `_context_view` returns from an index on. -/
def page_from (s : Snapshot) (v : ViewIdentity) (u : Universe) (page : ViewPage)
    (cursor : Option String) (start : ℕ) : Except ViewError Json := do
  let budget := page.budget_bytes
  let build := fun selected next_index => build_page H v u page.limit selected next_index
  let empty ← fixed (build [] start budget)
  if budget < empty.size then
    .error (budget_error (.envelope_exceeds_budget · budget cursor) budget cursor
      (minimum_budget (build [] start) budget))
  else
    let (selected, index) ← page_loop (fun selected next_index => build selected next_index budget)
      (projected H s v u) page.limit budget (u.refs.drop start) [] start
    match selected, u.refs[start]? with
    | [], some first =>
      .error (budget_error (.subject_exceeds_budget first · budget cursor) budget cursor
        (minimum_budget (build [projected H s v u first] (start + 1)) budget))
    | _, _ => fixed (build selected index budget)

/-- `_context_view`, of a snapshot. -/
def context_page (s : Snapshot) (v : ViewIdentity) (page : ViewPage) (cursor : Option String) :
    Except ViewError Json := do
  let u ← derive_universe H s v
  let start ← decode_cursor H cursor v.revision (H.digest_json v.json) u.refs
  page_from H s v u page cursor start

/-- How the view reports that a snapshot cannot be read. -/
def snapshot_error : Failure → ViewError
  | .integrity "object_missing:revisions" => .revision_not_available
  | .integrity "revision_archived_by_compaction" => .revision_not_available
  | _ => .internal_error

/-- `context_view(store, ...)`. -/
def context_view (d : Disk) (args : ViewArgs) : Except ViewError Json := do
  let (v, page) ← normalize_inputs args
  let s ← (snapshot H d v.revision).mapError snapshot_error
  context_page H s v page args.cursor

end AnKla
