import AnKla.Policy.Evaluate
import AnKla.Snapshot

/-!
# The guard of the planner

* `guard_single`, `guard_batch`: the checks of a proposal against the records of its base.
* `guard_plan_against_snapshot`: the guard.
* `plan_write`: a decision, the guard, and a plan.
-/

namespace AnKla

open PyJson Durable

variable (H : Crypto)

/-! ## The guard -/

/-- `records.get(proposal["stream"], ())`. -/
def guarded_records (base : Snapshot) (proposal : Json) : List Json :=
  match Stream.ofName (py_str (item proposal "stream")) with
  | some s => base.records.get s
  | none => []

/-- What a record supersedes is there, and active. -/
def guard_target : Option Json → Except Failure Unit
  | none => .error (.write_policy "plan_supersede_target_missing" "")
  | some target =>
    ensure (is_active target) (.write_policy "plan_supersede_target_not_vigente" "")

/-- `guard_plan_against_snapshot`, of a proposal of one record. -/
def guard_single (base : Snapshot) (proposal : Json) : Except Failure Unit := do
  let rows := guarded_records base proposal
  let id := record_id (item proposal "record")
  ensure (!rows.any fun row => record_id row = id) (.write_policy "plan_duplicate_id" "")
  if item proposal "operation" = .str "supersede" then
    guard_target (rows.find? fun row => item proposal "supersedes" = .str (record_id row))

/-- One record of a batch, against the last row of each id. -/
def guard_record (by_id : Json → Option Json) (proposal record : Json) : Except Failure Unit := do
  ensure (by_id (.str (record_id record))).isNone (.write_policy "plan_duplicate_id" "")
  if item proposal "operation" = .str "supersede" then
    guard_target (by_id (item (item proposal "supersedes") (py_str (item record "id"))))

/-- `_guard_batch_against_snapshot`. -/
def guard_batch (base : Snapshot) (proposal : Json) : Except Failure Unit :=
  let by_id := fun id : Json =>
    (guarded_records base proposal).reverse.find? fun row => id = .str (record_id row)
  (elems (item proposal "records")).forM (guard_record by_id proposal)

/-- `guard_plan_against_snapshot(records, proposal)`. -/
def guard_plan_against_snapshot (base : Snapshot) (proposal : Json) : Except Failure Unit :=
  if is_batch proposal then guard_batch base proposal else guard_single base proposal

/-! ## Planning -/

/-- `plan_write(proposal, authority)`: CURRENT, the decision and the plan. -/
def plan_write (d : Disk) (proposal authority : Json) : Except Failure (Digest × Json × Json) := do
  let observed ← read_current d
  let decision ← evaluate_write H proposal authority
  ensure (item proposal "base_revision" = .str (ident observed))
    (.write_policy "write_plan_base_changed" "")
  if item decision "decision" ≠ .str "skip" then do
    let base ← snapshot H d observed
    guard_plan_against_snapshot base proposal
  let plan ← build_write_plan H proposal authority (some decision)
  return (observed, decision, plan)

end AnKla
