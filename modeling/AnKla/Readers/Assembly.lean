import AnKla.Budget.Greedy
import AnKla.Readers.Retrieval

/-!
# Payloads of records under one budget

Two callers of `retrieve` put its records into a payload that is measured as a whole.
Both take the records in their order while the payload fits, and count the others under
the exclusion `budget`.

* `assemble_context`: sections that are required, with room for the largest count.
* `retrieve_payload`: the payload of the MCP tool.
-/

namespace AnKla

open PyJson Budget

/-- The budget that asks `retrieve` for all candidates: `2**63 - 1`. -/
def no_budget : ℤ := 2 ^ 63 - 1

/-- The record of a candidate. -/
def shown_record (freshness_enabled : Bool) (x : Selected) : Json := dict
  ([("id", .str x.id), ("text", .str x.render), ("score", .int x.score)] ++
    if freshness_enabled then FRESHNESS_PROJECTION_KEYS.filterMap fun key =>
      (x.shown.get? key).map fun v => (key, v)
    else [])

/-- `dict(source["excluded_summary"])`. -/
def excluded_json (summary : List (Reason × ℕ)) : Json :=
  dict (summary.map fun e => (e.1.name, .int e.2))

/-- The items of freshness, over the records that are shown. -/
def freshness_items (source : RetrievalResult) (records : List Json) : List (String × Json) :=
  match source.freshness with
  | none => []
  | some freshness =>
    [("freshness_profile", .str FRESHNESS_PROFILE),
      ("freshness", dict (freshness ++ summarize_freshness records))]

/-! ## Context assembly -/

/-- What `assemble_context` reads besides the candidates. -/
structure Required where
  working_state : Json
  new_information : Option String

/-- `exclusions` in `assemble_context`: the count is added to the source's own. -/
def context_exclusions (source : RetrievalResult) (budget_excluded : ℕ) : Json :=
  let exclusions := excluded_json source.excluded.summary
  if budget_excluded = 0 then exclusions
  else exclusions.set "budget" (.int (source.excluded.count .budget + budget_excluded : ℕ))

/-- The items of `build(used)` in `assemble_context`. -/
def context_items (source : RetrievalResult) (required : Required) (budget : ℤ)
    (records : List Json) (budget_excluded used : ℕ) : List (String × Json) :=
  [("schema", .str (if source.freshness.isSome then "an-kla/context-assembly-v2"
      else "an-kla/context-assembly-v1")),
    ("profile", .str (if source.freshness.isSome then "context-assembly/v2"
      else "context-assembly/v1")),
    ("canonicalization", .str "canonical-json/v1"),
    ("untrusted_memory_data", .bool true),
    ("host_framing_unmeasured", .bool true),
    ("revision", .str (ident source.revision)),
    ("budget_bytes", .int budget)] ++
  ("used_bytes", .int used) ::
  ([("section_provenance", dict
      [("working_state", .str "memory_store"), ("new_information", .str "caller"),
        ("retrieved_records", .str "memory_store")]),
    ("sections", dict
      [("working_state", required.working_state),
        ("new_information", (required.new_information.map Json.str).getD .null),
        ("retrieved_records", .arr records)]),
    ("excluded_summary", context_exclusions source budget_excluded)] ++
  freshness_items source records)

/-- `build(used)` in `assemble_context`. -/
def build_context (source : RetrievalResult) (required : Required) (budget : ℤ)
    (records : List Json) (budget_excluded used : ℕ) : Json :=
  dict (context_items source required budget records budget_excluded used)

/-- The loop over the candidates in `assemble_context`. -/
def context_loop (build : List Json → ℕ → ℕ → Json) (budget : ℤ) :
    List Json → List Json → ℕ → Except Failure (List Json × ℕ)
  | [], records, budget_excluded => .ok (records, budget_excluded)
  | record :: candidates, records, budget_excluded => do
    let (_, measured) ← exact_sized_payload (build (records ++ [record]) (budget_excluded - 1))
    if budget < measured then context_loop build budget candidates records budget_excluded
    else context_loop build budget candidates (records ++ [record]) (budget_excluded - 1)

/-- `assemble_context`, of what `retrieve` returns and what is required. -/
def assemble_source (source : RetrievalResult) (required : Required) (budget : ℤ) :
    Except Failure Json := do
  let build := build_context source required budget
  let (_, required_size) ← exact_sized_payload (build [] source.selected.length)
  ensure (decide ((required_size : ℤ) ≤ budget)) (.value "budget_too_small_for_required_context")
  let (records, budget_excluded) ← context_loop build budget
    (source.selected.map (shown_record source.freshness.isSome)) [] source.selected.length
  let (payload, measured) ← exact_sized_payload (build records budget_excluded)
  ensure (decide ((measured : ℤ) ≤ budget)) (.value "budget_too_small_for_required_context")
  return payload

/-- `assemble_context(store, query, budget, ...)`. -/
def assemble_context (L : Lexicon) (H : Crypto) (I : Index) (d : Disk) (args : RetrieveArgs)
    (new_information : Option String) : Except Failure Json := do
  ensure (decide (0 ≤ args.budget)) (.value "negative_budget")
  let source ← retrieve L H I d
    { query := args.query, budget := no_budget, freshness_profile := args.freshness_profile
      now := args.now, stale_after_days := args.stale_after_days, clock := args.clock }
  let s ← snapshot H d source.revision
  assemble_source source ⟨s.checkpoint, new_information⟩ args.budget

/-! ## The payload of the MCP tool -/

/-- `exclusions` in `_retrieve_payload`: the count replaces the source's own. -/
def payload_exclusions (source : RetrievalResult) (budget_excluded : ℕ) : Json :=
  let exclusions := excluded_json source.excluded.summary
  if budget_excluded = 0 then exclusions else exclusions.set "budget" (.int budget_excluded)

/-- The items of `build(used)` in `_retrieve_payload`. -/
def payload_items (source : RetrievalResult) (budget : ℤ) (selected : List Json)
    (budget_excluded used : ℕ) : List (String × Json) :=
  let reason := empty_reason_for source.selected source.excluded budget_excluded
  [("schema", .str (if reason.isSome then "an-kla/mcp-retrieve-v3"
      else if source.freshness.isSome then "an-kla/mcp-retrieve-v2"
      else "an-kla/mcp-retrieve-v1")),
    ("untrusted_memory_data", .bool true),
    ("host_framing_unmeasured", .bool true),
    ("revision", .str (ident source.revision)),
    ("budget_bytes", .int budget)] ++
  ("used_bytes", .int used) ::
  ([("excluded_summary", payload_exclusions source budget_excluded),
    ("records", .arr selected)] ++
  ((reason.map fun r => ("empty_reason", Json.str r)).toList ++ freshness_items source selected))

/-- `build(used)` in `_retrieve_payload`. -/
def build_payload (source : RetrievalResult) (budget : ℤ) (selected : List Json)
    (budget_excluded used : ℕ) : Json :=
  dict (payload_items source budget selected budget_excluded used)

/-- The loop over the candidates in `_retrieve_payload`. -/
def payload_loop (build : List Json → ℕ → ℕ → Json) (budget : ℤ) :
    List Json → List Json → ℕ → Except Failure (List Json × ℕ)
  | [], selected, budget_excluded => .ok (selected, budget_excluded)
  | record :: candidates, selected, budget_excluded => do
    let (_, measured) ← exact_sized_payload (build (selected ++ [record]) budget_excluded)
    if budget < measured then payload_loop build budget candidates selected (budget_excluded + 1)
    else payload_loop build budget candidates (selected ++ [record]) budget_excluded

/-- `_retrieve_payload`, of what `retrieve` returns. -/
def payload_of_source (source : RetrievalResult) (budget : ℤ) : Except Failure Json := do
  let build := build_payload source budget
  let (selected, budget_excluded) ← payload_loop build budget
    (source.selected.map (shown_record source.freshness.isSome)) [] 0
  let (payload, measured) ← exact_sized_payload (build selected budget_excluded)
  ensure (decide ((measured : ℤ) ≤ budget)) (.value "budget_too_small_for_envelope")
  return payload

/-- `_retrieve_payload(query, budget, ...)`. -/
def retrieve_payload (L : Lexicon) (H : Crypto) (I : Index) (d : Disk) (args : RetrieveArgs) :
    Except Failure Json := do
  ensure (decide (0 ≤ args.budget)) (.value "negative_budget")
  let source ← retrieve L H I d
    { query := args.query, budget := no_budget, freshness_profile := args.freshness_profile
      now := args.now, stale_after_days := args.stale_after_days, clock := args.clock }
  payload_of_source source args.budget

end AnKla
