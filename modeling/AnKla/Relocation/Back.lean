import AnKla.Relocation.Forward

/-!
# Relocation back to the project

The root of the project exists already, with its pointer and its journals. So the staged
copy is published one subtree after the other, and the commit point is the removal of the
pointer. Only then are the planned files deleted from the external vault.

* `planned_back`: the plan of a relocation back.
* `commit_back`, `reconcile_back`: the two calls, past the entry points that they share.
* `finish_back`: the commit point, and what follows it.
-/

namespace AnKla.Relocation

open PyJson Durable Sealed Base64

/-! ## Subtrees -/

/-- The subtree of a planned file: its first directory, or its second one below `memory`. -/
def unit_of (path : String) : String :=
  let parts := (path.toList.drop 7).splitOn '/'
  let first := String.ofList (parts.headD [])
  match parts.drop 1 with
  | second :: _ => if first = "memory" then first ++ "/" ++ String.ofList second else first
  | [] => first

/-- `_units(entries)`. -/
def units (entries : List Entry) : List String :=
  (entries.map (fun e => unit_of e.path) ++ ["relocation-receipts"]).dedup.insertionSort (· ≤ ·)

/-- A file of a subtree. -/
def in_unit (unit path : String) : Bool :=
  path = "anchor/" ++ unit || under ("anchor/" ++ unit ++ "/") path

/-- `os.path.lexists(anchor / unit)`. -/
def has_unit (v : Vault) (unit : String) : Bool := v.keys.any (in_unit unit)

/-- `_occupied(anchor, units)`. -/
def occupied (v : Vault) (units : List String) : List String := units.filter (has_unit v)

/-- `_staging(project_root, txid)`: inside the project, outside its root. -/
def Core.back_staging (c : Core) : String := c.project_root ++ "/.an-kla.staging-" ++ c.transaction_id

/-- The files of a subtree, moved from one root to another. -/
def move_unit (source target unit : String) (s : Site) : Site :=
  let files := (s.vault source).entries.filter fun f => in_unit unit f.1
  (s.set_dir source (some (files.foldl (fun v f => v.remove f.1) (s.vault source)))).set_dir target
    (some (files.foldl (fun v f => v.write f.1 f.2) (s.vault target)))

/-- One turn of `_publish_units`. -/
def publish_unit (staging target unit : String) : Run Unit := do
  let there ← Proc.reads fun s => has_unit (s.vault staging) unit
  if there then do
    Proc.whole (refused "relocate_destination_occupied") fun s =>
      if has_unit (s.vault target) unit then .error (refused "relocate_destination_occupied")
      else .ok (move_unit staging target unit s)
    Proc.sync os_error
  else
    -- published before a crash
    Proc.load fun s => ensure (has_unit (s.vault target) unit) (refused "relocate_staging_incomplete")

/-- `_publish_units(staging, anchor, units)`. -/
def publish_units (staging target : String) (units : List String) : Run Unit := do
  -- the directory `memory`
  Proc.sync os_error
  Proc.sweep (publish_unit staging target) units

variable (P : Primitives) (R : Readers) (project : String)

/-- `_unit_is_planned_copy(core, unit, receipt)`. -/
def unit_is_planned_copy (c : Core) (receipt : Option String) (v : Vault) (unit : String) : Bool :=
  v.entries.all fun f => !in_unit unit f.1 ||
    (c.entries.any fun e => e.path = f.1 && digest_bytes P f.2 = e.content_sha256) ||
    receipt.any fun r => f.1 = receipt_path r && digest_bytes P f.2 = r

/-- `_remove_units(core, units, receipt)`. -/
def remove_units (c : Core) (units : List String) (receipt : Option String) : Run Unit := do
  let present ← Proc.reads fun s =>
    units.filter (has_unit (s.vault c.destination_store_root))
  let good ← Proc.reads fun s =>
    present.all (unit_is_planned_copy P c receipt (s.vault c.destination_store_root))
  Proc.require good (refused "relocate_destination_unrecognized")
  Proc.sweep (fun unit => do
    Proc.step os_error
      (fun s => .ok (s.set_dir c.destination_store_root ((s.dirs c.destination_store_root).map fun v =>
        v.keys.foldl (fun v path => if in_unit unit path then v.remove path else v) v)))
      fun k s => s.set_dir c.destination_store_root
        ((s.dirs c.destination_store_root).map fun v => v.thinned (in_unit unit) k)
    Proc.sync os_error) present

/-- `_published_matches(core, receipt)`. -/
def published_matches (c : Core) (receipt : Option String) (v : Vault) : Bool :=
  (c.entries.all fun e => matches_entry P v e) &&
    receipt.any fun r => (v.read (receipt_path r)).isSome

/-! ## Planning -/

/-- The plan of `plan_back(store)`, on a site. -/
def planned_back (store_root uuid : String) (s : Site) : Except Failure Plan := do
  ensure (store_root ≠ default_store_root project) (refused "relocate_source_not_external")
  let v := s.vault store_root
  let binding ← mutation_preflight P R project store_root v s
  let pointer ← read_pointer s
  ensure pointer.isSome (refused "relocate_pointer_required")
  let verified ← (R.verify v).mapError of_seal
  ensure (verified.identity_status = "complete") (refused "relocate_source_identity_incomplete")
  let current ← read_current R v
  let rows ← move_set R v
  let entries := rows.map fun f => entry_of P f.1 f.2
  ensure (occupied (s.vault (default_store_root project)) (units entries)).isEmpty
    (refused "relocate_destination_occupied")
  let core : Core := {
    direction := .external_to_project_local
    transaction_id := uuid
    project_root := project
    source_store_root := store_root
    destination_store_root := default_store_root project
    base_revision := current
    custody_fingerprint := custody_fingerprint P binding
    store_identity := binding.store_identity
    entries }
  return ⟨core, digest_json P core.json⟩

/-! ## The commit point -/

/-- `_remove_pointer(core)`. -/
def remove_pointer (c : Core) : Run Unit := do
  let pointer ← Proc.load read_pointer
  match pointer with
  | none => pure ()
  | some p => do
    Proc.require (p.custody_fingerprint = c.custody_fingerprint) (refused "store_root_divergence")
    Proc.require (p.store_root = c.source_store_root) (refused "relocate_pointer_unrecognized")
    Proc.atomic os_error fun s => s.set_pointer .absent
    Proc.sync os_error

/-- The first half of `_finish(core, journal, source)`: the removal of the pointer. -/
def commit_point (j : Journal) : Run Unit := do
  let c := j.plan.core
  let good ← Proc.reads fun s =>
    published_matches P c j.relocation_receipt (s.vault c.destination_store_root)
  Proc.require good (refused "relocate_destination_unrecognized")
  -- the intent first
  write_journal { j with pointer_removal_started := true } .published
  remove_pointer c
  write_journal { j with pointer_removal_started := true } .pointer_removed

/-- The rest of it: the vault of the project is verified, and the external one emptied. -/
def clean_up_back (j : Journal) (committed_before : Bool) : Run Result := do
  let c := j.plan.core
  let unrecognized := refused "relocate_destination_unrecognized"
  let checked ← Proc.load fun s =>
    (R.verify (s.vault (default_store_root project))).mapError of_seal
  let binding ← Proc.load fun s => R.read_binding (s.vault (default_store_root project))
  Proc.require (custody_fingerprint P binding = c.custody_fingerprint) unrecognized
  Proc.require (committed_before || checked.revision = c.base_revision) unrecognized
  finish P j

/-- `_finish(core, journal, source)`. -/
def finish_back (j : Journal) : Run Result :=
  if j.stage = .published then do
    commit_point P j
    clean_up_back P R project
      { j with stage := .pointer_removed, pointer_removal_started := true } false
  else clean_up_back P R project j (decide (j.stage = .pointer_removed))

/-! ## The commit -/

/-- `_discard_staging` and the end of the journal. -/
def give_up_back (j : Journal) : Run Unit := do
  discard_staging j.plan.core.back_staging
  write_journal j .aborted

/-- The staged copy of `commit_back`: the identifier of its receipt. -/
def stage_back (c : Core) (b : Bound) : Run String := do
  copy_to_staging P c.source_store_root c.back_staging c.entries
  Proc.require (store_root_valid project c.back_staging) (refused "store_root_invalid")
  let receipt ← Proc.load fun s => write_relocation_receipt P (s.vault c.back_staging) "store_root"
    b.store_identity c.base_revision c.source_store_root c.destination_store_root
  write_immutable c.back_staging (receipt_path receipt.1) receipt.2 receipt_invalid
  return receipt.1

/-- The staged copy is verified, and the journal told its receipt. -/
def verify_back (j : Journal) : Run Unit := do
  let c := j.plan.core
  let checked ← Proc.load fun s => (R.verify (s.vault c.back_staging)).mapError of_seal
  Proc.require (checked.revision = c.base_revision) (refused "relocate_staging_verify_failed")
  write_journal j .staging

/-- The checks of `commit_back` under the locks. -/
def check_back (store_root : String) (c : Core) (s : Site) :
    Except Failure (Bound × List String) := do
  ensure (store_root ≠ default_store_root project && store_root = c.source_store_root)
    (refused "relocate_plan_root_mismatch")
  let v := s.vault store_root
  let binding ← mutation_preflight P R project store_root v s
  let pointer ← read_pointer s
  ensure pointer.isSome (refused "relocate_pointer_required")
  ensure (custody_fingerprint P binding = c.custody_fingerprint &&
    binding.store_identity = c.store_identity) (refused "relocate_identity_changed")
  let current ← read_current R v
  ensure (current = c.base_revision) (refused "relocate_base_changed")
  ensure (occupied (s.vault c.destination_store_root) (units c.entries)).isEmpty
    (refused "relocate_destination_occupied")
  let extra ← check_source_set R c v
  ensure (s.dirs c.back_staging).isNone (refused "relocate_staging_exists")
  return (binding, extra)

/-- `commit_back`, under the locks and past its checks. -/
def move_back (plan : Plan) (b : Bound) (extra : List String) : Run Result := do
  let c := plan.core
  let j : Journal := {
    plan
    stage := .staging
    relocation_receipt := none
    lock_free_residue := extra
    cleanup := none }
  write_journal j .staging
  let receipt ← Proc.onError (stage_back P project c b) (give_up_back j)
  let j := { j with relocation_receipt := some receipt }
  Proc.onError (verify_back R j) (give_up_back j)
  publish_units c.back_staging c.destination_store_root (units c.entries)
  remove_tree c.back_staging
  write_journal j .published
  finish_back P R project { j with stage := .published }

/-- `commit_back(store, plan)`, for a store opened at a root. -/
def commit_back (store_root : String) (plan : Plan) : Run Result := do
  -- the locks
  Proc.sync (refused "store_lock_busy")
  let replayed ← Proc.load (replay P plan)
  match replayed with
  | some r => return r
  | none => do
    let checked ← Proc.load (check_back P R project store_root plan.core)
    move_back P R project plan checked.1 checked.2

/-! ## Reconciliation -/

/-- `reconcile_back`, once the copy is published. -/
def reconcile_back_published (j : Journal) (abort : Bool) : Run Result := do
  let c := j.plan.core
  let pointer ← Proc.load read_pointer
  if pointer.isNone then do
    Proc.require j.pointer_removal_started (refused "relocate_pointer_unrecognized")
    write_journal j .pointer_removed
    Proc.require (!abort) (refused "relocate_abort_too_late")
    finish_back P R project { j with stage := .pointer_removed }
  else if abort then do
    let good ← Proc.reads fun s =>
      published_matches P c j.relocation_receipt (s.vault c.destination_store_root)
    Proc.require good (refused "relocate_destination_unrecognized")
    remove_units P c (units c.entries) j.relocation_receipt
    write_journal j .aborted
    return ⟨{ j with stage := .aborted }, false⟩
  else do
    let current ← Proc.reads fun s => raw_current (s.vault c.source_store_root)
    Proc.require (current = some c.base_revision) (refused "relocate_source_advanced")
    finish_back P R project j

/-- `reconcile_back`, while the copy is staged or half published. -/
def reconcile_back_staging (j : Journal) (abort : Bool) : Run Result := do
  let c := j.plan.core
  let published ← Proc.reads fun s => (units c.entries).filter fun unit =>
    has_unit (s.vault c.destination_store_root) unit && !has_unit (s.vault c.back_staging) unit
  if j.relocation_receipt.isNone || abort || published.isEmpty then do
    remove_units P c published j.relocation_receipt
    discard_staging c.back_staging
    write_journal j .aborted
    return ⟨{ j with stage := .aborted }, false⟩
  else do
    publish_units c.back_staging c.destination_store_root (units c.entries)
    discard_staging c.back_staging
    write_journal j .published
    reconcile_back_published P R project { j with stage := .published } abort

/-- `reconcile_back(journal, abort)`. -/
def reconcile_back (j : Journal) (abort : Bool) : Run Result := do
  -- the locks
  Proc.sync (refused "store_lock_busy")
  match j.stage with
  | .staging => reconcile_back_staging P R project j abort
  | .published => reconcile_back_published P R project j abort
  | _ => do
    Proc.require (!abort) (refused "relocate_abort_too_late")
    finish_back P R project j

/-- The program with both directions. -/
def host : Host where
  readers := R
  commit_back := commit_back P R project
  reconcile_back := reconcile_back P R project

end AnKla.Relocation
