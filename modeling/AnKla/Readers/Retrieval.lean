import AnKla.Readers.Payload
import AnKla.Readers.Temporal
import AnKla.Readers.Vigency
import AnKla.Sealed.Bundle
import Mathlib.Data.Finset.Card

/-!
# Retrieval

Records that share terms with a query, under a budget of bytes. Retrieval scans the
records of the streams, ranks them by how many terms they share, and selects them in
this order while they fit. A text index may confirm which records share a term; where
it does not name all of them, the scan goes on alone.

* `Lexicon`, `Index`: the host's words and its SQLite files, which may hold anything.
* `scan`, `account_zero_score`, `select`: the three loops, each with its exclusions.
* `retrieve`.
-/

namespace AnKla

open PyJson Durable

/-- `SCAN_PROFILE`. -/
def SCAN_PROFILE : String := "scan-fallback/v1"

/-- `INDEX_PROFILE`. -/
def INDEX_PROFILE : String := "sqlite-fts5/v1"

/-- `EXCLUDED_DETAIL_CAP`. -/
def EXCLUDED_DETAIL_CAP : ℕ := 50

/-! ## Terms -/

/-- What the host takes for a word, and how it folds case. -/
structure Lexicon where
  is_word : Char → Bool
  casefold : List Char → List Char

variable (L : Lexicon)

/-- `TOKEN.findall(text)`: the longest runs of word characters. -/
def tokens (text : String) : List (List Char) :=
  (text.toList.splitOnP fun c => !L.is_word c).filter (· ≠ [])

/-- `_terms(text)`. -/
def terms (text : String) : Finset (List Char) := ((tokens L text).map L.casefold).toFinset

/-- `_match_clause(query)`. -/
def match_clause (query : String) : Option String :=
  if tokens L query = [] then none
  else some (String.intercalate " OR "
    ((tokens L query).map fun token => String.ofList ('"' :: (token ++ ['"']))))

/-! ## Exclusions -/

/-- Why a record is not selected. -/
inductive Reason
  | inactive
  | zero_score
  | budget
  | invalid_record
  | no_text
  deriving DecidableEq, Repr

/-- The reasons, in the order of `excluded`. -/
def REASONS : List Reason := [.inactive, .zero_score, .budget, .invalid_record, .no_text]

def Reason.name : Reason → String
  | .inactive => "inactive"
  | .zero_score => "zero_score"
  | .budget => "budget"
  | .invalid_record => "invalid_record"
  | .no_text => "no_text"

/-- `excluded` and `excluded_detail`. -/
structure Exclusions where
  count : Reason → ℕ
  detail : Reason → List String

namespace Exclusions

/-- None so far. -/
def none : Exclusions := ⟨fun _ => 0, fun _ => []⟩

/-- One more record, whose id is kept below the cap. -/
def add (x : Exclusions) (reason : Reason) (identifier : String) : Exclusions where
  count := Function.update x.count reason (x.count reason + 1)
  detail :=
    if (x.detail reason).length < EXCLUDED_DETAIL_CAP then
      Function.update x.detail reason (x.detail reason ++ [identifier])
    else x.detail

/-- One more record that is only counted. -/
def bump (x : Exclusions) (reason : Reason) : Exclusions where
  count := Function.update x.count reason (x.count reason + 1)
  detail := x.detail

/-- `excluded_summary`: the counts that are not zero. -/
def summary (x : Exclusions) : List (Reason × ℕ) :=
  (REASONS.map fun reason => (reason, x.count reason)).filter fun e => e.2 ≠ 0

/-- `visible_detail`. -/
def visible_detail (x : Exclusions) : List (Reason × List String) :=
  (REASONS.map fun reason => (reason, x.detail reason)).filter fun e => e.2 ≠ []

/-- `truncated`, of the reasons with a visible detail. -/
def truncated (x : Exclusions) : List (Reason × Bool) :=
  x.visible_detail.map fun e => (e.1, e.2.length < x.count e.1)

end Exclusions

/-! ## The loops -/

/-- A record as it is ranked. -/
structure Ranked where
  score : ℕ
  identifier : String
  record : Json
  rendered : String
  stream : Stream

/-- The order of the ranking: `(-score, identifier)`. -/
def Ranked.before (a b : Ranked) : Prop :=
  b.score < a.score ∨ a.score = b.score ∧ a.identifier ≤ b.identifier

instance : DecidableRel Ranked.before := fun _ _ =>
  inferInstanceAs (Decidable (_ ∨ _ ∧ _))

/-- One record of the scan. -/
def scan_record (query_terms : Finset (List Char)) (acc : List Ranked × Exclusions)
    (entry : Stream × Json) : List Ranked × Exclusions :=
  let record := entry.2
  match retrieval_bucket record with
  | .inactive => (acc.1, acc.2.add .inactive (record_id record))
  | .invalid_record => (acc.1, acc.2.bump .invalid_record)
  | .no_text => (acc.1, acc.2.add .no_text (record_id record))
  | .ranked =>
    let rendered := record_text record
    (acc.1 ++ [{
      score := (query_terms ∩ terms L rendered).card
      identifier := record_id record
      record := record
      rendered := rendered
      stream := entry.1 }], acc.2)

/-- The records of the searched streams, in the order of the streams. -/
def searched (s : Snapshot) (streams : List Stream) : List (Stream × Json) :=
  streams.flatMap fun stream => (s.records.get stream).map fun record => (stream, record)

/-- The scan of the searched streams. -/
def scan (s : Snapshot) (query : String) (streams : List Stream) : List Ranked × Exclusions :=
  (searched s streams).foldl (scan_record L (terms L query)) ([], Exclusions.none)

/-- One ranked record in the accounting of zero scores. -/
def account_zero_score (acc : List Ranked × Exclusions) (x : Ranked) : List Ranked × Exclusions :=
  if x.score = 0 then (acc.1, acc.2.add .zero_score x.identifier) else (acc.1 ++ [x], acc.2)

/-- The scored records in their order, and the exclusions so far. -/
def scored (s : Snapshot) (query : String) (streams : List Stream) : List Ranked × Exclusions :=
  let scanned := scan L s query streams
  (scanned.1.insertionSort Ranked.before).foldl account_zero_score ([], scanned.2)

/-- An item of `selected`. -/
structure Selected where
  id : String
  stream : Stream
  score : ℕ
  render : String
  cost_bytes : ℤ
  /-- What `project_record_freshness` adds, if freshness is asked for. -/
  freshness : List (String × Json)

/-- `len(rendered.encode("utf-8"))`. -/
def utf8_length (text : String) : ℕ := textSize text.toList

/-- The loop of the budget: what is selected, the bytes used, and the exclusions. -/
structure Selection where
  selected : List Selected
  used : ℤ
  excluded : Exclusions

/-- The instant and the threshold of freshness, if it is asked for. -/
abbrev FreshnessAt := Option (Instant × Option ℕ)

/-- `cost`: the bytes of the rendered record and its overhead. -/
def Ranked.cost (x : Ranked) (per_record : ℤ) : ℤ := utf8_length x.rendered + per_record

/-- The item of a ranked record that is selected. -/
def Ranked.chosen (x : Ranked) (per_record : ℤ) (freshness : FreshnessAt) : Selected where
  id := x.identifier
  stream := x.stream
  score := x.score
  render := x.rendered
  cost_bytes := x.cost per_record
  freshness := match freshness with
    | some (now, threshold) => project_record_freshness x.record now threshold
    | none => []

/-- One ranked record in the loop of the budget. -/
def select (budget per_record : ℤ) (freshness : FreshnessAt) (acc : Selection) (x : Ranked) :
    Selection :=
  if budget < acc.used + x.cost per_record then
    { acc with excluded := acc.excluded.add .budget x.identifier }
  else {
    selected := acc.selected ++ [x.chosen per_record freshness]
    used := acc.used + x.cost per_record
    excluded := acc.excluded }

/-! ## The index -/

/-- A file that may be an SQLite index. -/
structure IndexFile where
  /-- The SHA-256 of its bytes in hexadecimal, unless they cannot be read. -/
  content : Option String
  /-- The value of a key of `metadata`; none if there is no row, or no database. -/
  metadata : String → Option String
  /-- The ids that a stream's table matches to a clause; none on a database error. -/
  ids : Stream → String → Option (List String)

/-- What a read of the reference of a revision finds. -/
inductive Reference
  | missing
  | unreadable
  | bytes (raw : Base64.Bytes)

/-- The index directory of the host. -/
structure Index where
  detect_fts5 : Bool
  /-- The file `CURRENT` of a revision. -/
  reference : Digest → Reference
  /-- The file that is named by a digest, if it is a file. -/
  target : Digest → Digest → Option IndexFile

/-- `INDEX_VERSION`. -/
def INDEX_VERSION : String := "2"

/-- `_index_resolution_under_gate`: the file with the digest it is named by, and the
    status. -/
def index_resolution (I : Index) (revision : Digest) : Option (Digest × IndexFile) × String :=
  match I.reference revision with
  | .missing => (none, "index_unavailable")
  | .unreadable => (none, "index_unresolvable")
  | .bytes raw =>
    let text := if raw.getLast? = some 10 then Sealed.decode_ascii raw.dropLast else some []
    match text.bind fun t => bare_digest (String.ofList t) with
    | none => (none, "index_unresolvable")
    | some name =>
      match I.target revision name with
      | none => (none, "index_unresolvable")
      | some file =>
        if file.metadata "index_version" = some INDEX_VERSION then (some (name, file), "none")
        else (none, "index_obsolete")

/-- `index_integrity_status(path)`. -/
def index_integrity_status (name : Digest) (file : IndexFile) : String :=
  match file.content with
  | none => "index_unresolvable"
  | some actual =>
    if actual = String.ofList (hexDigits 64 name) then "none" else "index_hash_mismatch"

/-- `_narrow_with_index`. -/
def narrow_with_index (file : IndexFile) (revision : Digest) (clause : String)
    (streams : List Stream) : Option (List String) :=
  if file.metadata "revision" = some (ident revision) then
    some (streams.flatMap fun stream => (file.ids stream clause).getD [])
  else none

/-- Narrowing: the ranked records, the profile and the degradation. -/
def narrow (I : Index) (revision : Digest) (query : String) (profile : String)
    (streams : List Stream) (ranked : List Ranked) : List Ranked × String × String :=
  match match_clause L query with
  | none => (ranked, SCAN_PROFILE, "none")
  | some clause =>
    if profile ≠ INDEX_PROFILE ∨ terms L query = ∅ then (ranked, SCAN_PROFILE, "none")
    else if !I.detect_fts5 then (ranked, SCAN_PROFILE, "fts5_unavailable")
    else match index_resolution I revision with
      | (none, status) => (ranked, SCAN_PROFILE, status)
      | (some (name, file), _) =>
        if index_integrity_status name file ≠ "none" then
          (ranked, SCAN_PROFILE, index_integrity_status name file)
        else match narrow_with_index file revision clause streams with
          | none => (ranked, SCAN_PROFILE, "index_unresolvable")
          | some narrowed =>
            if ranked.any fun x => 0 < x.score && x.identifier ∉ narrowed then
              (ranked, SCAN_PROFILE, "index_candidate_mismatch")
            else (ranked.filter (·.identifier ∈ narrowed), INDEX_PROFILE, "none")

/-! ## Retrieval -/

/-- The arguments of `retrieve`, and the host's clock. -/
structure RetrieveArgs where
  query : String
  budget : ℤ
  fixed_overhead_bytes : ℤ := 0
  per_record_overhead_bytes : ℤ := 0
  profile : String := SCAN_PROFILE
  streams : Option (List String) := none
  freshness_profile : Option String := none
  now : Option Instant := none
  stale_after_days : Option ℤ := none
  revision_id : Option Digest := none
  clock : Instant := 0

/-- The result of `retrieve`. -/
structure RetrievalResult where
  schema : String
  revision : Digest
  requested_profile : String
  profile : String
  degradation : String
  streams_searched : List Stream
  budget_bytes : ℤ
  used_bytes : ℤ
  fixed_overhead_bytes : ℤ
  per_record_overhead_bytes : ℤ
  excluded : Exclusions
  selected : List Selected
  /-- The item `freshness`, if freshness is asked for. -/
  freshness : Option (List (String × Json))
  empty_reason : Option String

/-- `empty_reason_for(result, transport_budget_excluded)`. -/
def empty_reason_for (selected : List Selected) (excluded : Exclusions)
    (transport_budget_excluded : ℕ) : Option String :=
  if selected ≠ [] then none
  else if transport_budget_excluded ≠ 0 then none
  else if excluded.count .budget ≠ 0 then none
  else if excluded.count .zero_score < 1 then none
  else some "no_lexical_overlap"

/-- Streams without those seen before. -/
def dedupe_streams : List Stream → List Stream → List Stream
  | _, [] => []
  | seen, s :: streams =>
    if s ∈ seen then dedupe_streams seen streams else s :: dedupe_streams (s :: seen) streams

/-- The streams that are asked for. -/
def selected_streams (streams : Option (List String)) : Except Failure (List Stream) :=
  let requested := streams.getD ["facts"]
  let found := requested.filterMap Stream.ofName
  if requested = [] ∨ found.length ≠ requested.length then
    .error (.value "unsupported_retrieval_stream")
  else .ok (dedupe_streams [] found)

/-- The freshness that is asked for. -/
def requested_freshness (args : RetrieveArgs) : Except Failure FreshnessAt :=
  match args.freshness_profile with
  | none =>
    if args.now.isSome ∨ args.stale_after_days.isSome then
      .error (.value "freshness_profile_required")
    else .ok none
  | some profile =>
    if profile ≠ FRESHNESS_PROFILE then .error (.value "unsupported_freshness_profile")
    else (validate_stale_after_days args.stale_after_days).map fun threshold =>
      some (args.now.getD args.clock, threshold)

/-- `selected` as `summarize_freshness` reads it. -/
def Selected.shown (x : Selected) : Json := dict x.freshness

/-- What `retrieve` makes of a snapshot, once its arguments are checked. -/
def retrieve_from (I : Index) (s : Snapshot) (args : RetrieveArgs) (streams : List Stream)
    (freshness : FreshnessAt) : RetrievalResult :=
  let candidates := scored L s args.query streams
  let narrowed := narrow L I s.revision_id args.query args.profile streams candidates.1
  let selection := narrowed.1.foldl
    (select args.budget args.per_record_overhead_bytes freshness)
    ⟨[], args.fixed_overhead_bytes, candidates.2⟩
  let reason := empty_reason_for selection.selected selection.excluded 0
  { schema := if reason.isSome then "an-kla/retrieval-result-v3"
      else if freshness.isSome then "an-kla/retrieval-result-v2"
      else "an-kla/retrieval-result-v1"
    revision := s.revision_id
    requested_profile := args.profile
    profile := narrowed.2.1
    degradation := narrowed.2.2
    streams_searched := streams
    budget_bytes := args.budget
    used_bytes := selection.used
    fixed_overhead_bytes := args.fixed_overhead_bytes
    per_record_overhead_bytes := args.per_record_overhead_bytes
    excluded := selection.excluded
    selected := selection.selected
    freshness := freshness.map fun x =>
      [("semantics", .str FRESHNESS_SEMANTICS),
        ("source_field", .str FRESHNESS_SOURCE_FIELD),
        ("computed_at", .str (format_utc x.1)),
        ("stale_after_days", (x.2.map fun n : ℕ => Json.int n).getD .null)] ++
      summarize_freshness (selection.selected.map Selected.shown)
    empty_reason := reason }

/-- `_retrieve_under_gate`, over what `store.snapshot` returns. -/
def retrieve_under_gate (I : Index) (store_snapshot : Option Digest → Except Failure Snapshot)
    (args : RetrieveArgs) : Except Failure RetrievalResult := do
  ensure (0 ≤ args.budget) (.value "negative_budget")
  ensure (0 ≤ args.fixed_overhead_bytes && 0 ≤ args.per_record_overhead_bytes)
    (.value "negative_overhead")
  ensure (args.fixed_overhead_bytes ≤ args.budget) (.value "fixed_overhead_exceeds_budget")
  ensure (args.profile = SCAN_PROFILE || args.profile = INDEX_PROFILE)
    (.value "unsupported_retrieval_profile")
  let freshness ← requested_freshness args
  let streams ← selected_streams args.streams
  let s ← store_snapshot args.revision_id
  return retrieve_from L I s args streams freshness

variable (H : Crypto)

/-- `store.snapshot(revision_id)`, of CURRENT where there is no revision. -/
def store_snapshot (d : Disk) : Option Digest → Except Failure Snapshot
  | none => read_current d >>= snapshot H d
  | some revision => snapshot H d revision

/-- `retrieve(store, query, budget, ...)`. -/
def retrieve (I : Index) (d : Disk) (args : RetrieveArgs) : Except Failure RetrievalResult :=
  retrieve_under_gate L I (store_snapshot H d) args

end AnKla
