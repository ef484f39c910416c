import AnKla.Readers.Temporal
import AnKla.Readers.Vigency

/-!
# The subjects of a context view

A context view shows the records of one revision by their subject. What it is asked for is
checked before anything is read; then one light pass over the records finds the subjects and
counts the records without one.

* `normalize_inputs`: the arguments, and the identity of the view that pages belong to.
* `derive_universe`: the subjects, each with its records.
* `view_subject`: a subject as it is shown.
-/

namespace AnKla

open PyJson

/-! ## Errors -/

/-- The closed union of errors of the view. -/
inductive ViewError
  | invalid_inputs (detail : String)
  | revision_not_available
  | internal_error
  | invalid_subject_ref_in_revision (stream : Stream) (record_sha256 : Digest)
  | cursor_invalid
  | budget_measurement_unavailable (provided_budget_bytes : ℕ) (resume_cursor : Option String)
  | envelope_exceeds_budget (minimum_budget_bytes provided_budget_bytes : ℕ)
      (resume_cursor : Option String)
  | subject_exceeds_budget (subject_ref : String)
      (minimum_budget_bytes provided_budget_bytes : ℕ) (resume_cursor : Option String)
  deriving DecidableEq, Repr

/-- The value of something that may be missing, `None` if it is. -/
def nullable {α : Type} (f : α → Json) (o : Option α) : Json := (o.map f).getD .null

/-- `_error(code, retryable=..., **fields)`. -/
def view_error (code : String) (retryable : Bool) (fields : List (String × Json)) : Json :=
  dict ([("schema", .str "an-kla/view-error-v1"), ("ok", .bool false), ("code", .str code),
    ("retryable", .bool retryable), ("untrusted_memory_data", .bool true)] ++ fields)

/-- An error as it is returned. -/
def ViewError.json : ViewError → Json
  | .invalid_inputs detail => view_error "view_invalid_inputs" false [("detail", .str detail)]
  | .revision_not_available => view_error "view_revision_not_available" false []
  | .internal_error => view_error "view_internal_error" false []
  | .invalid_subject_ref_in_revision stream record_sha256 =>
    view_error "view_invalid_subject_ref_in_revision" false
      [("detail", dict [("stream", .str stream.name),
        ("record_sha256", .str (ident record_sha256))])]
  | .cursor_invalid => view_error "view_cursor_invalid" false []
  | .budget_measurement_unavailable provided cursor =>
    view_error "view_budget_measurement_unavailable" false
      [("provided_budget_bytes", .int provided), ("resume_cursor", nullable .str cursor)]
  | .envelope_exceeds_budget minimum provided cursor =>
    view_error "view_envelope_exceeds_budget" true
      [("subject_ref", .null), ("minimum_budget_bytes", .int minimum),
        ("provided_budget_bytes", .int provided), ("resume_cursor", nullable .str cursor)]
  | .subject_exceeds_budget subject_ref minimum provided cursor =>
    view_error "view_subject_exceeds_budget" true
      [("subject_ref", .str subject_ref), ("minimum_budget_bytes", .int minimum),
        ("provided_budget_bytes", .int provided), ("resume_cursor", nullable .str cursor)]

/-- `if not test: raise ContextViewError(detail)`. -/
def expect (test : Bool) (detail : String) : Except ViewError Unit :=
  if test then .ok () else .error (.invalid_inputs detail)

@[simp] theorem expect_ok {test : Bool} {detail : String} {u : Unit} :
    expect test detail = .ok u ↔ test = true := by
  rw [expect]
  split_ifs with h <;> simp [h]

/-- The value that an argument must give. -/
def given {α : Type} (value : Option α) (detail : String) : Except ViewError α :=
  match value with
  | some x => .ok x
  | none => .error (.invalid_inputs detail)

@[simp] theorem given_ok {α : Type} {value : Option α} {detail : String} {x : α} :
    given value detail = .ok x ↔ value = some x := by
  cases value <;> simp [given]

/-! ## Inputs -/

/-- `PROJECTIONS`. -/
inductive Projection
  | metadata
  | text
  | full
  deriving DecidableEq, Repr

def Projection.name : Projection → String
  | .metadata => "metadata"
  | .text => "text"
  | .full => "full"

/-- The projection that a text names. -/
def Projection.ofName (s : String) : Option Projection :=
  [Projection.metadata, .text, .full].find? fun p => p.name = s

def DEFAULT_LIMIT : ℤ := 50

def DEFAULT_BUDGET_BYTES : ℤ := 65536

def MAX_BUDGET_BYTES : ℕ := 1000000000

/-- The arguments of `context_view`. -/
structure ViewArgs where
  revision : String
  streams : Option (List String) := none
  subject_filter : Option String := none
  projection : String := "text"
  limit : ℤ := DEFAULT_LIMIT
  budget_bytes : ℤ := DEFAULT_BUDGET_BYTES
  cursor : Option String := none
  now : Option String := none
  stale_after_days : Option ℤ := none

/-- What identifies the view that a page belongs to: `identity` without the version of the
    contract, and `parsed_now`. -/
structure ViewIdentity where
  revision : Digest
  streams : List Stream
  subject_filter : Option String
  projection : Projection
  now : Option Instant
  stale_after_days : Option ℕ

/-- What may change from page to page. -/
structure ViewPage where
  limit : ℕ
  budget_bytes : ℕ
  limit_pos : 0 < limit
  budget_le : budget_bytes ≤ MAX_BUDGET_BYTES

/-- The same page under another budget. -/
def ViewPage.retry (page : ViewPage) (budget : ℕ) (h : budget ≤ MAX_BUDGET_BYTES) : ViewPage :=
  ⟨page.limit, budget, page.limit_pos, h⟩

/-- `_normalize_streams(streams)`. -/
def normalize_streams : Option (List String) → Option (List Stream)
  | none => some STREAMS
  | some requested =>
    if 1 ≤ requested.length ∧ requested.length ≤ STREAMS.length ∧
        requested.all (fun value => (Stream.ofName value).isSome) then
      some (STREAMS.filter fun stream => stream.name ∈ requested)
    else none

/-- The clock of the arguments: `parse_freshness_now(now)`. -/
def normalize_now : Option String → Option (Option Instant)
  | none => some none
  | some text => (parse_verified_at text).toOption.map some

/-- The limit and the budget of the arguments. -/
def normalize_page (limit budget_bytes : ℤ) : Except ViewError ViewPage :=
  if hl : 0 < limit then
    if hb : 1 ≤ budget_bytes ∧ budget_bytes ≤ MAX_BUDGET_BYTES then
      .ok ⟨limit.toNat, budget_bytes.toNat, by omega, by omega⟩
    else .error (.invalid_inputs "budget_bytes")
  else .error (.invalid_inputs "limit")

/-- `_normalize_inputs`. -/
def normalize_inputs (args : ViewArgs) : Except ViewError (ViewIdentity × ViewPage) := do
  let revision ← given (bare_digest args.revision) "revision"
  let streams ← given (normalize_streams args.streams) "streams"
  expect (args.subject_filter.all fun ref => (parse_subject_ref (.str ref)).isSome)
    "subject_filter"
  let projection ← given (Projection.ofName args.projection) "projection"
  expect (projection ≠ .full || args.subject_filter.isSome) "subject_filter"
  let page ← normalize_page args.limit args.budget_bytes
  let now ← given (normalize_now args.now) "now"
  let threshold ← given (validate_stale_after_days args.stale_after_days).toOption
    "stale_after_days"
  expect (threshold.isNone || now.isSome) "stale_after_days"
  return (⟨revision, streams, args.subject_filter, projection, now, threshold⟩, page)

/-- The items of `identity` that are public inputs. -/
def ViewIdentity.items (v : ViewIdentity) : List (String × Json) :=
  [("revision", .str (ident v.revision)),
    ("streams", .arr (v.streams.map fun stream => .str stream.name)),
    ("subject_filter", nullable .str v.subject_filter),
    ("projection", .str v.projection.name),
    ("now", nullable (fun t : Instant => .str (format_utc t)) v.now),
    ("stale_after_days", nullable (fun n : ℕ => Json.int n) v.stale_after_days)]

def CONTRACT_VERSION : String := "g-view/v1"

/-- `identity`. -/
def ViewIdentity.json (v : ViewIdentity) : Json :=
  dict (v.items ++ [("contract_version", .str CONTRACT_VERSION)])

/-! ## The universe -/

/-- What the light pass over the records finds. -/
structure Universe where
  /-- The subjects with their records, as they come. -/
  grouped : List (String × List (Stream × Json))
  /-- How many records of a stream have no subject. -/
  missing : Stream → ℕ
  namespaces : List String

/-- `grouped.setdefault(ref, []).append(x)`. -/
def append_grouped {α : Type} (ref : String) (x : α) : List (String × List α) →
    List (String × List α)
  | [] => [(ref, [x])]
  | (other, xs) :: grouped =>
    if other = ref then (other, xs ++ [x]) :: grouped
    else (other, xs) :: append_grouped ref x grouped

variable (H : Crypto)

/-- The body of the loop over the records in `_derive_universe`. -/
def universe_step (subject_filter : Option String) (u : Universe) (x : Stream × Json) :
    Except ViewError Universe :=
  match x.2.get? "subject_ref" with
  | none => .ok { u with missing := Function.update u.missing x.1 (u.missing x.1 + 1) }
  | some subject =>
    match parse_subject_ref subject with
    | none => .error (.invalid_subject_ref_in_revision x.1 (H.digest_json x.2))
    | some parsed =>
      if subject_filter.any fun ref => subject ≠ .str ref then .ok u
      else .ok { u with
        namespaces := u.namespaces.insert parsed.subject_namespace
        grouped := append_grouped (py_str subject) x u.grouped }

/-- The records of the streams that are asked for. -/
def view_rows (s : Snapshot) (streams : List Stream) : List (Stream × Json) :=
  streams.flatMap fun stream => (s.raw_records.get stream).map fun raw => (stream, raw)

/-- `_derive_universe(snapshot, streams, subject_filter)`. -/
def derive_universe (s : Snapshot) (v : ViewIdentity) : Except ViewError Universe :=
  (view_rows s v.streams).foldlM (universe_step H v.subject_filter) ⟨[], fun _ => 0, []⟩

/-- `sorted(grouped)`. -/
def Universe.refs (u : Universe) : List String :=
  (u.grouped.map Prod.fst).insertionSort fun a b => a ≤ b

/-- `grouped[ref]`. -/
def Universe.records (u : Universe) (ref : String) : List (Stream × Json) :=
  ((u.grouped.find? fun x => x.1 = ref).map Prod.snd).getD []

/-- The warnings about the records and the namespaces. -/
def Universe.warnings (u : Universe) (streams : List Stream) : List String :=
  (if streams.any (fun stream => u.missing stream ≠ 0) then
    ["legacy_records_without_subject_ref"] else []) ++
  (if 1 < u.namespaces.length then ["multiple_namespaces_observed"] else [])

/-! ## Projection -/

/-- `_supersede_links(snapshot)`: the links of a record, from both of its ends. -/
def supersede_links (m : Manifest) (stream : Stream) (record_id : String) : List SupersedeEntry :=
  (m.supersedes.flatMap fun e =>
    ([e.target_id, e.sustituida_por].filter fun end_id => e.stream = stream && end_id = record_id).map
      fun _ => e).insertionSort
    fun a b => [a.target_id, a.sustituida_por] ≤ [b.target_id, b.sustituida_por]

def SupersedeEntry.link (e : SupersedeEntry) : Json :=
  dict [("stream", .str e.stream.name), ("target_id", .str e.target_id),
    ("sustituida_por", .str e.sustituida_por)]

/-- The `lineage_refs` of a record. -/
def lineage_refs (raw : Json) : Json :=
  match item (item raw "lineage") "refs" with
  | .arr refs => .arr refs
  | _ => .arr []

/-- `_project_record`, of a record whose state is known. -/
def project_record (m : Manifest) (v : ViewIdentity) (x : ViewItem) : Json :=
  dict ([("subject_ref", .str (py_str (item x.raw "subject_ref"))), ("stream", .str x.stream.name),
    ("id", .str (record_id x.raw)), ("record_sha256", .str (ident x.record_sha256)),
    ("state", .str x.state), ("state_source", .str x.state_source),
    ("physical_status_untrusted", x.physical_status), ("lineage_refs", lineage_refs x.raw),
    ("supersede_links",
      .arr ((supersede_links m x.stream (record_id x.raw)).map SupersedeEntry.link)),
    ("untrusted_memory_data", .bool true)] ++
  (match item x.raw "verified_at" with
    | .str text => [("verified_at", .str text), ("self_asserted_timestamp", .bool true)]
    | _ => []) ++
  (match v.now with
    | none => []
    | some now =>
      let freshness := dict (compute_freshness (item x.raw "verified_at") now v.stale_after_days)
      ["days_since_verified", "stale", "freshness_error"].map fun key => (key, item freshness key)) ++
  (if v.projection ≠ .metadata then [("record_text", .str (record_text x.raw))] else []) ++
  if v.projection = .full then [("record_raw", x.raw)] else [])

/-- `_project_subject`. -/
def view_subject (m : Manifest) (v : ViewIdentity) (ref : String) (records : List (Stream × Json)) :
    Json :=
  let (alternatives, history) := project_subject H m records
  let texts := (records.map fun x => record_text x.2).dedup
  let raw_digests := (records.map fun x => H.digest_json x.2).dedup
  dict ([("subject_ref", .str ref), ("data_conflict", .bool (2 ≤ alternatives.length)),
    ("alternatives", .arr (alternatives.map (project_record m v))),
    ("history", .arr (history.map (project_record m v)))] ++
  if v.projection = .text ∧ texts.length < raw_digests.length then
    [("content_differs_beyond_text", .bool true)] else [])

end AnKla
