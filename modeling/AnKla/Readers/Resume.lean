import AnKla.Budget.Climb
import AnKla.Readers.Assembly
import AnKla.Readers.Subjects

/-!
# Resuming from a checkpoint

A resume shows the checkpoint of CURRENT and, if a query is given, the records that match it
as evidence, in one payload that is measured as a whole. Evidence that does not fit is counted;
a checkpoint that does not fit is an error that reports the least budget.

* `resume_snapshot`: the checkpoint as it is shown.
* `project`: the payload under a limit, and its size.
* `resume`, `resume_under_gate`.
-/

namespace AnKla

open PyJson Budget

/-! ## The snapshot -/

/-- `CheckpointPolicyError("invalid_working_state", detail)`. -/
def invalid_checkpoint (detail : String) : Failure :=
  .checkpoint_policy "invalid_working_state" detail

/-- `_snapshot(snapshot)`: the checkpoint as it is shown, and the warnings about it. -/
def resume_snapshot (s : Snapshot) : Except Failure (Json × List String) :=
  let checkpoint := s.checkpoint
  let digest := Json.str (ident s.manifest.checkpoint)
  if item checkpoint "schema" = .str "an-kla/checkpoint-v2" then do
    ensure (exact_keys checkpoint ["schema", "revision", "working_state"])
      (invalid_checkpoint "checkpoint:keys")
    match item checkpoint "revision" with
    | .int revision =>
      ensure (1 ≤ revision && revision ≤ s.manifest.revision)
        (invalid_checkpoint "checkpoint.revision:out_of_range")
      validate_working_state (item checkpoint "working_state")
      return (dict [("schema", .str "an-kla/resume-snapshot-v1"), ("checkpoint_digest", digest),
        ("checkpoint_schema", .str "an-kla/checkpoint-v2"), ("checkpoint", checkpoint)], [])
    | _ => .error (invalid_checkpoint "checkpoint.revision")
  else do
    ensure (item checkpoint "schema" = .str "an-kla/checkpoint-v1")
      (invalid_checkpoint "checkpoint.schema")
    return (dict [("schema", .str "an-kla/resume-snapshot-v1"), ("checkpoint_digest", digest),
      ("checkpoint_schema", .str "an-kla/checkpoint-v1"),
      ("legacy_checkpoint_json", .str (String.ofList (dumps checkpoint)))],
      ["legacy_checkpoint_v1"])

/-! ## The payload -/

/-- What the payloads under all limits show. -/
structure Resumed where
  revision : Digest
  snapshot : Json
  warnings : List String
  query : Option String
  profile : String

/-- An item of `retrieved_evidence`. -/
def resume_evidence (revision : Digest) (x : Selected) : Json :=
  dict [("schema", .str "an-kla/resume-evidence-v1"), ("source", .str "retrieval-result-v1"),
    ("revision", .str (ident revision)), ("id", .str x.id), ("stream", .str x.stream.name),
    ("score", .int x.score), ("render", .str x.render), ("cost_bytes", .int x.cost_bytes)]

/-- `excluded_summary`, with what the loops add to the count of the budget. -/
def resume_exclusions (retrieval : Option RetrievalResult) (budget_excluded : ℕ) : Json :=
  dict (REASONS.map fun reason => (reason.name, Json.int
    (if reason = .budget then budget_excluded
      else (retrieval.map fun r => r.excluded.count reason).getD 0 : ℕ)))

/-- `provenance`. -/
def resume_provenance (revision : Digest) (retrieval : Option RetrievalResult) : Json :=
  dict [("memory", dict [("source", .str "revision_snapshot"), ("revision", .str (ident revision))]),
    ("retrieval", dict
      [("source", .str ((retrieval.map (·.profile)).getD "disabled")),
        ("revision", (retrieval.map fun _ => Json.str (ident revision)).getD .null),
        ("query", .str (if retrieval.isSome then "caller_asserted" else "disabled"))]),
    ("live_delta", dict [("source", .str "unavailable")])]

/-- `sorted(set(warnings))`. -/
def resume_warnings (c : Resumed) (retrieval : Option RetrievalResult) : List String :=
  sorted_set (c.warnings ++
    if retrieval.any fun r => r.degradation ≠ "none" then ["retrieval_degraded_to_scan"] else [])

/-- The items of `result`. -/
def resume_items (c : Resumed) (retrieval : Option RetrievalResult) (limit : ℕ)
    (evidence : List Json) (budget_excluded used : ℕ) : List (String × Json) :=
  [("schema", .str "an-kla/resume-v1"), ("untrusted_memory_data", .bool true),
    ("revision", .str (ident c.revision)), ("budget_bytes", .int limit)] ++
  ("used_bytes", .int used) ::
  [("snapshot", c.snapshot), ("live_delta", .null), ("retrieved_evidence", .arr evidence),
    ("warnings", .arr ((resume_warnings c retrieval).map .str)),
    ("provenance", resume_provenance c.revision retrieval),
    ("excluded_summary", resume_exclusions retrieval budget_excluded)]

/-- `result`, with the bytes that it states. -/
def resume_value (c : Resumed) (retrieval : Option RetrievalResult) (limit : ℕ)
    (evidence : List Json) (budget_excluded used : ℕ) : Json :=
  dict (resume_items c retrieval limit evidence budget_excluded used)

/-! ## Measuring -/

/-- The loop of `_size_at_fixed_point`. -/
def fixed_point_loop (build : ℕ → Json) : ℕ → Option ℕ → Except Failure ℕ
  | 0, _ => .error (.value "resume_size_not_convergent")
  | iterations + 1, observed =>
    let actual := canonical_length (build (observed.getD 0))
    if some actual = observed then .ok actual else fixed_point_loop build iterations (some actual)

/-- `_size_at_fixed_point(value)`: the size of the value that states it. -/
def size_at_fixed_point (build : ℕ → Json) : Except Failure ℕ := fixed_point_loop build 32 none

/-- The loop over the selected records. -/
def evidence_loop (build : List Json → ℕ → ℕ → Json) (limit : ℕ) :
    List Json → List Json → ℕ → Except Failure (List Json × ℕ)
  | [], evidence, budget_excluded => .ok (evidence, budget_excluded)
  | x :: selected, evidence, budget_excluded => do
    let size ← size_at_fixed_point (build (evidence ++ [x]) budget_excluded)
    if size ≤ limit then evidence_loop build limit selected (evidence ++ [x]) budget_excluded
    else evidence_loop build limit selected evidence (budget_excluded + 1)

/-- The loop that takes evidence back, of no more turns than there is evidence. -/
def take_back (build : List Json → ℕ → ℕ → Json) (limit : ℕ) :
    ℕ → List Json → ℕ → Except Failure (Json × ℕ)
  | turns, evidence, budget_excluded => do
    let size ← size_at_fixed_point (build evidence budget_excluded)
    match turns with
    | turns + 1 =>
      if limit < size ∧ evidence ≠ [] then
        take_back build limit turns evidence.dropLast (budget_excluded + 1)
      else return (build evidence budget_excluded size, size)
    | 0 => return (build evidence budget_excluded size, size)

variable (L : Lexicon) (I : Index) (store_snapshot : Option Digest → Except Failure Snapshot)

/-- The retrieval under a limit, if there is a query. -/
def resume_retrieval (c : Resumed) (limit : ℕ) : Except Failure (Option RetrievalResult) :=
  match c.query with
  | none => .ok none
  | some query =>
    (retrieve_under_gate L I store_snapshot
      { query := query, budget := limit, profile := c.profile
        streams := some ["facts", "events", "episodes"], revision_id := some c.revision }).map some

/-- `project(limit)`. -/
def project (c : Resumed) (limit : ℕ) : Except Failure (Json × ℕ) := do
  let retrieval ← resume_retrieval L I store_snapshot c limit
  let build := resume_value c retrieval limit
  let counted := (retrieval.map fun r => r.excluded.count .budget).getD 0
  let base ← size_at_fixed_point (build [] counted)
  if limit < base then return (build [] counted base, base)
  else
    let selected := (retrieval.map fun r => r.selected.map (resume_evidence c.revision)).getD []
    let (evidence, budget_excluded) ← evidence_loop build limit selected [] counted
    take_back build limit evidence.length evidence budget_excluded

/-! ## The minimum -/

/-- The candidates of one band in `_minimum_budget`. -/
def candidates_loop (size : ℕ → Except Failure ℕ) (band_end : ℕ) :
    ℕ → ℕ → Except Failure Climb
  | 0, _ => .ok .unsettled
  | n + 1, candidate => do
    let measured ← size candidate
    if measured ≤ candidate then return .found candidate
    else if band_end < measured then return .beyond
    else candidates_loop size band_end n measured

/-- The loop of `_minimum_budget`, from a lower bound on; each turn has one digit more. -/
def resume_minimum_loop (size : ℕ → Except Failure ℕ) : ℕ → ℕ → Except Failure (Option ℕ)
  | 0, _ => .ok none
  | bands + 1, lower =>
    if MAX_BUDGET_BYTES < lower then .ok none
    else do
      let band_end := min MAX_BUDGET_BYTES (10 ^ width lower - 1)
      match ← candidates_loop size band_end 64 lower with
      | .found candidate => return some candidate
      | .beyond => resume_minimum_loop size bands (band_end + 1)
      | .unsettled => return none

/-- `_minimum_budget(project, provided)`. The largest budget has ten digits. -/
def resume_minimum (size : ℕ → Except Failure ℕ) (provided : ℕ) : Except Failure (Option ℕ) :=
  resume_minimum_loop size 10 (provided + 1)

/-! ## Resume -/

/-- How a resume fails. -/
inductive ResumeFailure
  | failure (f : Failure)
  /-- `ResumeBudgetError`. -/
  | budget (provided_budget_bytes : ℕ) (minimum_budget_bytes : Option ℕ)

structure ResumeArgs where
  budget : ℤ
  query : Option String := none
  profile : String := SCAN_PROFILE

/-- What is resumed, once the arguments are checked. -/
def resumed (current : Except Failure Digest) (args : ResumeArgs) : Except Failure Resumed := do
  ensure (0 ≤ args.budget) (.value "invalid_resume_budget")
  ensure (args.query ≠ some "") (.value "invalid_resume_query")
  let revision ← current
  let frozen ← store_snapshot (some revision)
  let (snapshot_value, snapshot_warnings) ← resume_snapshot frozen
  return ⟨revision, snapshot_value, snapshot_warnings, args.query, args.profile⟩

/-- The projection under the budget, or the error with the minimum. -/
def resume_within (c : Resumed) (budget : ℕ) : Except ResumeFailure Json := do
  let (result, size) ← (project L I store_snapshot c budget).mapError .failure
  if budget < size then
    let minimum ← (resume_minimum
      (fun limit => (project L I store_snapshot c limit).map Prod.snd) budget).mapError .failure
    .error (.budget budget minimum)
  else return result

/-- `_resume_under_gate`, over what the store reads. -/
def resume_under_gate (current : Except Failure Digest) (args : ResumeArgs) :
    Except ResumeFailure Json := do
  let c ← (resumed store_snapshot current args).mapError .failure
  resume_within L I store_snapshot c args.budget.toNat

/-- `resume(store, budget, ...)`. -/
def resume (H : Crypto) (d : Disk) (args : ResumeArgs) : Except ResumeFailure Json :=
  resume_under_gate L I (AnKla.store_snapshot H d) (read_current d) args

end AnKla
