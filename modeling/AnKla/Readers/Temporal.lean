import AnKla.Policy.Formats

/-!
# Freshness

How old a record is, by the timestamp it asserts of itself. Freshness is shown with
a record; it neither ranks nor excludes it.

* `compute_freshness`: the items that are shown of a timestamp.
* `summarize_freshness`: how many of the shown records are evaluated, not evaluable
  or unparseable, and how many are stale.
-/

namespace AnKla

open PyJson

/-- `FRESHNESS_PROFILE`. -/
def FRESHNESS_PROFILE : String := "computed-age/v1"

/-- `FRESHNESS_SEMANTICS`. -/
def FRESHNESS_SEMANTICS : String := "self_asserted_timestamp"

/-- `FRESHNESS_SOURCE_FIELD`. -/
def FRESHNESS_SOURCE_FIELD : String := "record.verified_at"

/-- `FRESHNESS_PROJECTION_KEYS`. -/
def FRESHNESS_PROJECTION_KEYS : List String :=
  ["verified_at", "days_since_verified", "stale", "freshness_error"]

def TemporalError.code : TemporalError → String
  | .unparseable_verified_at => "unparseable_verified_at"
  | .unrepresentable_verified_at => "unrepresentable_verified_at"

/-- `validate_stale_after_days(value)`. -/
def validate_stale_after_days : Option ℤ → Except Failure (Option ℕ)
  | none => .ok none
  | some value => if value < 0 then .error (.value "invalid_stale_after_days")
    else .ok (some value.toNat)

/-- The complete days from one instant to another, rounded towards zero. -/
def days_between (verified now : Instant) : ℤ :=
  ((now : ℤ) - verified).sign * (((now : ℤ) - verified).natAbs / micros_per_day : ℕ)

/-- `compute_freshness(verified_at, now, stale_after_days)`: the items of the projection. -/
def compute_freshness (verified_at : Json) (now : Instant) (stale_after_days : Option ℕ) :
    List (String × Json) :=
  match verified_at with
  | .str text =>
    match parse_verified_at text with
    | .error e => [("verified_at", .str text), ("freshness_error", .str e.code)]
    | .ok verified =>
      let days := days_between verified now
      [("verified_at", .str text), ("days_since_verified", .int days)] ++
        match stale_after_days with
        | some threshold => if (threshold : ℤ) < days then [("stale", .bool true)] else []
        | none => []
  | _ => []

/-- `project_record_freshness(record, now, stale_after_days)`. -/
def project_record_freshness (record : Json) (now : Instant) (stale_after_days : Option ℕ) :
    List (String × Json) :=
  compute_freshness (item record "verified_at") now stale_after_days

/-- A record that is shown, in `summarize_freshness`. -/
inductive FreshnessState
  | unparseable
  | evaluated (stale : Bool)
  | not_evaluable
  deriving DecidableEq

/-- The body of the loop of `summarize_freshness`. -/
def freshness_state (shown : Json) : FreshnessState :=
  if item shown "freshness_error" ≠ .null then .unparseable
  else if (shown.get? "days_since_verified").isSome then
    .evaluated (item shown "stale" = .bool true)
  else .not_evaluable

/-- `summarize_freshness(items)`. -/
def summarize_freshness (items : List Json) : List (String × Json) :=
  let states := items.map freshness_state
  [("evaluated", .int (states.count (.evaluated true) + states.count (.evaluated false) : ℕ)),
    ("not_evaluable", .int (states.count .not_evaluable)),
    ("unparseable", .int (states.count .unparseable)),
    ("stale", .int (states.count (.evaluated true)))]

end AnKla
