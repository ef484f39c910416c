import AnKla.Readers.Retrieval
import Mathlib.Data.Rat.Defs

/-!
# Evaluation of retrieval

A query with the records that are relevant to it is retrieved twice over: once under a budget that
has room for every record, which gives the ranking; and once under each budget that is asked for.

* `EvalQuery`, `validate_queries_v2`, `integer_list`: the arguments that are accepted.
* `eligible`, `ranking_budget`: the room that the ranking needs.
* `ranking_metrics`, `budget_metrics`: what is counted.
* `profile_run`: the calls for one query under one profile.

A ratio is kept as its two integers and the rational number that they are; the float of the report
is that number, rounded. Of the calls, only their results are kept, not how long they took.
-/

namespace AnKla.Evaluation

open PyJson Durable

/-! ## Arguments -/

def CATEGORIES : List String := ["synthetic", "kairos_sanitized", "handoff_exact"]

/-- `ValueError("invalid_evaluation_query")`. -/
def invalid_query : Failure := .value "invalid_evaluation_query"

/-- A query as `_validate_queries_v2` accepts it. -/
structure EvalQuery where
  id : String
  category : String
  query : String
  relevant : List String
  streams : List Stream
  id_ne : id ≠ ""
  category_mem : category ∈ CATEGORIES
  query_ne : query ≠ ""
  relevant_ne : relevant ≠ []
  relevant_texts : ∀ r ∈ relevant, r ≠ ""
  relevant_sorted : relevant.insertionSort (· ≤ ·) = relevant
  relevant_nodup : relevant.Nodup
  streams_ne : streams ≠ []
  streams_sorted : STREAMS.filter (· ∈ streams) = streams

/-- A non-empty string. -/
def text_field (raw : Json) (key : String) : Except Failure String :=
  match item raw key with
  | .str s => if s = "" then .error invalid_query else .ok s
  | _ => .error invalid_query

/-- A list of strings. -/
def texts_field (raw : Json) (key : String) : Except Failure (List String) :=
  match item raw key with
  | .arr xs => xs.mapM fun
    | .str s => .ok s
    | _ => .error invalid_query
  | _ => .error invalid_query

/-- A list of names of streams. -/
def streams_field (raw : Json) (key : String) : Except Failure (List Stream) := do
  let names ← texts_field raw key
  names.mapM fun name => match Stream.ofName name with
    | some s => .ok s
    | none => .error invalid_query

/-- One turn of the loop of `_validate_queries_v2`, after the ids seen so far. -/
def validate_query (seen : List String) (raw : Json) : Except Failure EvalQuery := do
  ensure (exact_keys raw ["schema", "id", "category", "query", "relevant", "streams"]) invalid_query
  ensure (item raw "schema" = .str "an-kla/retrieval-eval-query-v2") invalid_query
  let id ← text_field raw "id"
  ensure (id ∉ seen) (.value "duplicate_evaluation_query_id")
  let category ← text_field raw "category"
  let query ← text_field raw "query"
  let relevant ← texts_field raw "relevant"
  let streams ← streams_field raw "streams"
  if h : id ≠ "" ∧ category ∈ CATEGORIES ∧ query ≠ "" ∧ relevant ≠ [] ∧ (∀ r ∈ relevant, r ≠ "") ∧
      relevant.insertionSort (· ≤ ·) = relevant ∧ relevant.Nodup ∧ streams ≠ [] ∧
      STREAMS.filter (· ∈ streams) = streams then
    .ok ⟨id, category, query, relevant, streams, h.1, h.2.1, h.2.2.1, h.2.2.2.1, h.2.2.2.2.1,
      h.2.2.2.2.2.1, h.2.2.2.2.2.2.1, h.2.2.2.2.2.2.2.1, h.2.2.2.2.2.2.2.2⟩
  else .error invalid_query

/-- The loop of `_validate_queries_v2`. -/
def validate_queries : List String → List Json → Except Failure (List EvalQuery)
  | _, [] => .ok []
  | seen, raw :: rest => do
    let query ← validate_query seen raw
    let queries ← validate_queries (query.id :: seen) rest
    return query :: queries

/-- `_validate_queries_v2(raw_queries)`. -/
def validate_queries_v2 (raw_queries : List Json) : Except Failure (List EvalQuery) := do
  ensure (raw_queries ≠ []) invalid_query
  let queries ← validate_queries [] raw_queries
  return queries.insertionSort fun a b => a.id ≤ b.id

/-- `_integer_list(value, code)`: positive integers, each greater than the one before. -/
def integer_list (values : List Json) (code : String) : Except Failure (List ℤ) := do
  ensure (values ≠ []) (.value code)
  let found ← values.mapM fun
    | .int i => if 0 < i then .ok i else .error (.value code)
    | _ => .error (.value code)
  ensure (decide (found.Pairwise (· < ·))) (.value code)
  return found

/-! ## The room that the ranking needs -/

/-- `record.get("id")`, if it is a string that is not empty. -/
def text_id (record : Json) : Option String :=
  match record.get? "id" with
  | some (.str s) => if s = "" then none else some s
  | _ => none

/-- The loop of `_eligible`, after the ids seen so far. -/
def eligible_loop : List String → List (Stream × Json) →
    Except Failure (List (Stream × Json × String))
  | _, [] => .ok []
  | seen, (stream, record) :: rest =>
    match text_id record with
    | none => eligible_loop seen rest
    | some identifier =>
      if identifier ∈ seen then .error (.value "ambiguous_evaluation_record_id")
      else if is_active record && record_text record ≠ "" then do
        let result ← eligible_loop (identifier :: seen) rest
        return (stream, record, record_text record) :: result
      else eligible_loop (identifier :: seen) rest

/-- `_eligible(snapshot, streams)`. -/
def eligible (s : Snapshot) (streams : List Stream) :
    Except Failure (List (Stream × Json × String)) :=
  eligible_loop [] (searched s streams)

/-- `ranking_budget(snapshot, streams)`. -/
def ranking_budget (s : Snapshot) (streams : List Stream) : Except Failure ℕ := do
  let found ← eligible s streams
  return (found.map fun x => utf8_length x.2.2).sum

/-! ## Metrics -/

/-- What `_ratio` returns. -/
structure Ratio where
  numerator : ℕ
  denominator : ℤ
  value : ℚ

/-- `_ratio(numerator, denominator)`. -/
def ratio (numerator : ℕ) (denominator : ℤ) : Except Failure Ratio :=
  if denominator ≤ 0 then .error (.value "invalid_evaluation_denominator")
  else .ok ⟨numerator, denominator, numerator / denominator⟩

/-- An entry of `precision_at_k` or `recall_at_k`. -/
structure AtK where
  k : ℤ
  metric : Ratio

/-- `sum(identifier in wanted for identifier in ids)`. -/
def hits (ids relevant : List String) : ℕ := ids.countP (· ∈ relevant)

/-- What `_ranking_metrics` returns. -/
structure RankingMetrics where
  precision_at_k : List AtK
  recall_at_k : List AtK
  first_relevant_rank : Option ℕ
  mrr : Ratio
  unretrieved_relevant : List String

/-- The rank of the first relevant record, from 1. -/
def first_relevant (ranked relevant : List String) : Option ℕ :=
  (ranked.findIdx? (· ∈ relevant)).map (· + 1)

/-- `mrr`, by the rank of the first relevant record. -/
def reciprocal_rank : Option ℕ → Except Failure Ratio
  | none => ratio 0 1
  | some rank => ratio 1 rank

/-- `_ranking_metrics(ranked, relevant, k_values)`. -/
def ranking_metrics (ranked relevant : List String) (k_values : List ℤ) :
    Except Failure RankingMetrics := do
  let precision ← k_values.mapM fun k => do
    let metric ← ratio (hits (ranked.take k.toNat) relevant) k
    return (⟨k, metric⟩ : AtK)
  let recall_at_k ← k_values.mapM fun k => do
    let metric ← ratio (hits (ranked.take k.toNat) relevant) relevant.length
    return (⟨k, metric⟩ : AtK)
  let mrr ← reciprocal_rank (first_relevant ranked relevant)
  return {
    precision_at_k := precision
    recall_at_k := recall_at_k
    first_relevant_rank := first_relevant ranked relevant
    mrr := mrr
    unretrieved_relevant := relevant.filter (· ∉ ranked) }

/-- What `_budget_metrics` returns. -/
structure BudgetMetrics where
  precision_at_budget : Ratio
  budget_recall : Ratio
  excluded_relevant_by_budget : List String

/-- `_budget_metrics(selected, ranked, relevant)`. -/
def budget_metrics (selected ranked relevant : List String) : Except Failure BudgetMetrics := do
  let precision ← ratio (hits selected relevant) (max selected.length 1 : ℕ)
  let budget_recall ← ratio (hits selected relevant) relevant.length
  return {
    precision_at_budget := precision
    budget_recall := budget_recall
    excluded_relevant_by_budget := ranked.filter fun id => id ∈ relevant && id ∉ selected }

/-! ## A run -/

/-- `_scores(items)`. -/
def scores (items : List Selected) : List (String × ℕ) := items.map fun x => (x.id, x.score)

/-- `ranking`, of a run. -/
structure Ranking where
  ranking_budget : ℕ
  ranked_ids : List String
  ranked_scores : List (String × ℕ)
  excluded_summary : List (Reason × ℕ)
  metrics : RankingMetrics

/-- A row of `budgets`, of a run. -/
structure BudgetRow where
  budget_bytes : ℤ
  actual_profile : String
  degradation : String
  selected_ids : List String
  selected_scores : List (String × ℕ)
  metrics : BudgetMetrics
  used_bytes : ℤ
  excluded_summary : List (Reason × ℕ)

/-- What `_profile_run` returns. -/
structure ProfileRun where
  requested_profile : String
  index_fixture_state : String
  actual_profile : String
  degradation : String
  ranking : Ranking
  budgets : List BudgetRow

section

variable (L : Lexicon) (H : Crypto)

/-- The arguments of a call of `retrieve`. -/
def call_args (revision : Digest) (query : EvalQuery) (profile : String) (budget : ℤ) :
    RetrieveArgs where
  query := query.query
  budget := budget
  profile := profile
  streams := some (query.streams.map Stream.name)
  revision_id := some revision

/-- A row of `budgets`, from the result of its call. -/
def budget_row (query : EvalQuery) (ranked : List String) (budget : ℤ) (result : RetrievalResult) :
    Except Failure BudgetRow := do
  let selected := result.selected.map (·.id)
  let metrics ← budget_metrics selected ranked query.relevant
  return {
    budget_bytes := budget
    actual_profile := result.profile
    degradation := result.degradation
    selected_ids := selected
    selected_scores := scores result.selected
    metrics := metrics
    used_bytes := result.used_bytes
    excluded_summary := result.excluded.summary }

/-- One turn of the loop over the budgets, from a budget and its place. -/
def run_budget (index : ℕ → Index) (d : Disk) (revision : Digest) (query : EvalQuery)
    (requested_profile : String) (ranked : List String) (x : ℤ × ℕ) : Except Failure BudgetRow := do
  let result ← retrieve L H (index (x.2 + 1)) d (call_args revision query requested_profile x.1)
  budget_row query ranked x.1 result

/-- `_profile_run(store, revision, query, budgets, k_values, requested_profile, state, ...)`. What
the index directory holds may differ from call to call: `index n` is what call `n` finds. -/
def profile_run (index : ℕ → Index) (d : Disk) (revision : Digest) (query : EvalQuery)
    (budgets k_values : List ℤ) (requested_profile state : String) : Except Failure ProfileRun := do
  let frozen ← snapshot H d revision
  let ceiling ← ranking_budget frozen query.streams
  let baseline ← retrieve L H (index 0) d (call_args revision query requested_profile ceiling)
  ensure (baseline.excluded.count .budget = 0 && baseline.used_bytes ≤ ceiling)
    (.value "evaluation_ranking_budget_incomplete")
  let ranked := baseline.selected.map (·.id)
  let metrics ← ranking_metrics ranked query.relevant k_values
  let rows ← budgets.zipIdx.mapM (run_budget L H index d revision query requested_profile ranked)
  return {
    requested_profile := requested_profile
    index_fixture_state := state
    actual_profile := baseline.profile
    degradation := baseline.degradation
    ranking := {
      ranking_budget := ceiling
      ranked_ids := ranked
      ranked_scores := scores baseline.selected
      excluded_summary := baseline.excluded.summary
      metrics := metrics }
    budgets := rows }

end

end AnKla.Evaluation
