import AnKla.Relocation.Receipts

/-!
# Relocation to an external vault

The planned files are copied to a staging directory, verified there and published by one
rename. The pointer is the commit point. Only then are the planned files deleted from the
project. A journal tells how far a relocation has come, so that another call can finish it
or, before the pointer is there, take it back.

* `planned`: the plan of a relocation.
* `commit_relocation`, `reconcile_relocation`: the calls that carry it out.
* `cleanup`: what is deleted from the project.
* `destination_receipt`: whether the destination is the planned copy.
-/

namespace AnKla.Relocation

open PyJson Durable Sealed Base64

/-- A call of the relocation, on a site. -/
abbrev Run (α : Type) := Proc Site Failure α

/-- `an-kla/relocate-result-v1`, which is read off the journal. -/
structure Result where
  journal : Journal
  replayed : Bool

/-- The parts of the program that a relocation rests on. -/
structure Host where
  readers : Readers
  /-- `commit_back(store, plan)`, for a store opened at a root. -/
  commit_back : String → Plan → Run Result
  /-- `reconcile_back(journal, abort)`. -/
  reconcile_back : Journal → Bool → Run Result

/-! ## Steps -/

/-- The files below a root: none, if the root does not exist. -/
def Site.vault (s : Site) (dir : String) : Vault := (s.dirs dir).getD ∅

/-- The site with a file that was not there. -/
def Site.placed (s : Site) (dir path : String) (payload : Bytes) : Site :=
  if ((s.vault dir).read path).isSome then s
  else s.set_dir dir (some ((s.vault dir).write path payload))

/-- `_write_journal(project_root, journal, stage)`. -/
def write_journal (j : Journal) (stage : Stage) : Run Unit :=
  Proc.atomic os_error fun s => s.set_journal { j with stage }

/-- `staging.mkdir()`. -/
def make_dir (dir : String) : Run Unit := Proc.whole os_error fun s =>
  if (s.dirs dir).isSome then .error os_error else .ok (s.set_dir dir (some ∅))

/-- How much of a file a stopped write leaves: no file, or so many bytes. -/
def part_placed (dir path : String) (payload : Bytes) (k : ℕ) (s : Site) : Site :=
  if k = 0 then s else s.placed dir path (payload.take (k - 1))

/-- `os.open(path, O_CREAT | O_EXCL)`, and the payload. -/
def create_file (dir path : String) (payload : Bytes) : Run Unit := Proc.step os_error
  (fun s => if ((s.vault dir).read path).isSome then .error os_error
    else .ok (s.placed dir path payload))
  (part_placed dir path payload)

/-- `write_immutable(path, payload, conflict=...)`. -/
def write_immutable (dir path : String) (payload : Bytes) (conflict : Failure) : Run Unit :=
  Proc.step os_error
    (fun s => if (s.vault dir).read path = some payload ∨ (s.vault dir).read path = none then
        .ok (s.placed dir path payload)
      else .error conflict)
    (part_placed dir path payload)

/-- A vault without some of its files, as an interrupted removal leaves it. -/
def Vault.thinned (v : Vault) (gone : String → Bool) (k : ℕ) : Vault :=
  (v.keys.zipIdx.filter fun x => gone x.1 && k.testBit x.2).foldl (fun v x => v.remove x.1) v

/-- `shutil.rmtree(dir)`. -/
def remove_tree (dir : String) : Run Unit := Proc.step os_error (fun s => .ok (s.set_dir dir none))
  fun k s => s.set_dir dir ((s.dirs dir).map fun v => v.thinned (fun _ => true) k)

/-- The files below a directory of the root. -/
def under (sub path : String) : Bool := sub.toList.isPrefixOf path.toList

/-- `shutil.rmtree` of a directory below a root. -/
def remove_below (dir sub : String) : Run Unit := Proc.step os_error
  (fun s => .ok (s.set_dir dir ((s.dirs dir).map fun v =>
    v.keys.foldl (fun v path => if under sub path then v.remove path else v) v)))
  fun k s => s.set_dir dir ((s.dirs dir).map fun v => v.thinned (under sub) k)

/-- `_discard_staging(staging)`. -/
def discard_staging (staging : String) : Run Unit := do
  let there ← Proc.reads fun s => (s.dirs staging).isSome
  if there then do
    remove_tree staging
    Proc.sync os_error
  else pure ()

/-- `rename_noreplace(staging, target)`, as `_publish` reports it. -/
def publish (staging target : String) : Run Unit :=
  Proc.whole (refused "relocate_publish_failed") fun s =>
    if (s.dirs target).isSome then .error (refused "relocate_destination_exists")
    else match s.dirs staging with
      | none => .error (refused "relocate_publish_failed")
      | some v => .ok ((s.set_dir staging none).set_dir target (some v))

/-- The creation of the pointer. -/
def create_pointer (p : Pointer) : Run Unit := Proc.step os_error
  (fun s => if s.pointer = .absent then .ok (s.set_pointer (.names p))
    else .error (refused "store_root_divergence"))
  fun k s => if k = 0 ∨ s.pointer ≠ .absent then s
    else s.set_pointer (if k = 1 then .invalid else .names p)

variable (P : Primitives) (H : Host) (project : String)

/-! ## The copy -/

/-- `_copy_to_staging(anchor, staging, entries)`. -/
def copy_to_staging (anchor staging : String) (entries : List Entry) : Run Unit := do
  make_dir staging
  Proc.sweep (fun e => do
    let payload ← Proc.load fun s => read_file (s.vault anchor) e.path
    Proc.require (digest_bytes P payload = e.content_sha256 && payload.length = e.size)
      (refused "relocate_source_changed")
    create_file staging e.path payload) entries
  Proc.sync os_error

/-- `_stage_and_verify`: the identifier of the receipt. -/
def stage_and_verify (c : Core) (b : Bound) : Run String := do
  copy_to_staging P c.source_store_root c.staging c.entries
  Proc.require (store_root_valid project c.staging) (refused "store_root_invalid")
  let receipt ← Proc.load fun s => write_relocation_receipt P (s.vault c.staging) "store_root"
    b.store_identity c.base_revision c.source_store_root c.destination_store_root
  write_immutable c.staging (receipt_path receipt.1) receipt.2 receipt_invalid
  let checked ← Proc.load fun s => (H.readers.verify (s.vault c.staging)).mapError of_seal
  Proc.require (checked.revision = c.base_revision && checked.identity_status = "complete")
    (refused "relocate_staging_verify_failed")
  return receipt.1

/-- `_publish_pointer(core, binding)`. -/
def publish_pointer (c : Core) (b : Bound) : Run Unit := do
  Proc.require (store_root_valid project c.destination_store_root) (refused "store_root_invalid")
  Proc.require (c.destination_store_root ≠ default_store_root project)
    (refused "store_root_pointer_not_external")
  let existing ← Proc.load read_pointer
  match existing with
  | none => create_pointer ⟨c.destination_store_root, custody_fingerprint P b⟩
  | some p =>
    Proc.require (p.custody_fingerprint = custody_fingerprint P b) (refused "store_root_divergence")

/-! ## The cleanup -/

/-- The planned file is there, with the bytes of the plan. -/
def matches_entry (v : Vault) (e : Entry) : Bool :=
  (v.read e.path).any fun payload => digest_bytes P payload = e.content_sha256

/-- `path.unlink()` of a planned file whose bytes still match. -/
def unlink_planned (dir : String) (e : Entry) : Run Unit := Proc.atomic os_error fun s =>
  s.set_dir dir ((s.dirs dir).map fun v => if matches_entry P v e then v.remove e.path else v)

/-- The files that stay in the project: `_KEPT` and `_KEPT_PREFIXES`. -/
def kept_in_project (path : String) : Bool :=
  ["anchor/.identity.lock", "anchor/store-root.txt", "anchor/store-root.intent",
    "anchor/host-hooks.json", "anchor/memory/.write.lock", "anchor/memory/.reader-gate"].contains
      path || under "anchor/context/" path || under "anchor/relocations/" path

/-- `project_anchor_residue(anchor)`. -/
def project_anchor_residue (v : Vault) : List String :=
  (v.keys.insertionSort (· ≤ ·)).filter fun path => !kept_in_project path

/-- `_cleanup(source, core)`. -/
def cleanup (c : Core) : Run Cleanup := do
  -- the gate that waits for the readers
  Proc.sync (refused "relocate_cleanup_readers_active")
  let changed ← Proc.reads fun s => (c.entries.filter fun e =>
    let v := s.vault c.source_store_root
    (v.read e.path).isSome && !matches_entry P v e).map Entry.path
  Proc.sweep (unlink_planned P c.source_store_root) c.entries
  Proc.sync os_error
  remove_below c.source_store_root "anchor/memory/indexes/"
  remove_below c.source_store_root "anchor/memory/watermarks/"
  Proc.sync os_error
  let residue ← Proc.reads fun s => project_anchor_residue (s.vault c.source_store_root)
  return ⟨changed, residue⟩

/-! ## Planning -/

/-- `_require_source(store)`. -/
def require_source (store_root : String) (s : Site) : Except Failure Unit := do
  ensure (store_root = default_store_root project) (refused "relocate_source_external_unsupported")
  let pointer ← read_pointer s
  ensure pointer.isNone (refused "store_root_divergence")

/-- `_validate_destination(store, destination)`. -/
def validate_destination (destination : String) (s : Site) : Except Failure Unit := do
  let invalid := refused "relocate_destination_invalid"
  ensure (under "/" destination) invalid
  ensure (store_root_valid project destination) invalid
  ensure (s.dirs destination).isNone (refused "relocate_destination_exists")

/-- The plan of `plan_relocation(store, destination)`, on a site. -/
def planned (store_root destination uuid : String) (s : Site) : Except Failure Plan := do
  require_source project store_root s
  validate_destination project destination s
  let v := s.vault store_root
  let binding ← mutation_preflight P H.readers project store_root v s
  let verified ← (H.readers.verify v).mapError of_seal
  ensure (verified.identity_status = "complete") (refused "relocate_source_identity_incomplete")
  let current ← read_current H.readers v
  let rows ← move_set H.readers v
  let core : Core := {
    direction := .project_local_to_external
    transaction_id := uuid
    project_root := project
    source_store_root := store_root
    destination_store_root := destination
    base_revision := current
    custody_fingerprint := custody_fingerprint P binding
    store_identity := binding.store_identity
    entries := rows.map fun f => entry_of P f.1 f.2 }
  return ⟨core, digest_json P core.json⟩

/-! ## The commit -/

/-- `_read_journal(project_root, txid)`. -/
def read_journal (txid : String) (s : Site) : Except Failure (Option Journal) := do
  ensure (is_txid txid) (refused "relocate_transaction_invalid")
  match s.journals txid with
  | none => return none
  | some none => .error (refused "relocate_journal_invalid")
  | some (some j) => do
    ensure (j.plan.core.transaction_id = txid) (refused "relocate_journal_invalid")
    let _ ← validate_plan P j.plan
    return some j

/-- `_replay(project_root, plan)`. -/
def replay (plan : Plan) (s : Site) : Except Failure (Option Result) := do
  match ← read_journal P plan.core.transaction_id s with
  | none => return none
  | some j => do
    ensure (j.plan = plan) (refused "transaction_binding_conflict")
    match j.stage with
    | .cleaned => return some ⟨j, true⟩
    | .aborted => .error (refused "relocate_transaction_aborted")
    | _ => .error (refused "relocate_reconcile_required")

/-- `_check_source_set(anchor, core)`: the files that were born after the plan. -/
def check_source_set (R : Readers) (c : Core) (v : Vault) : Except Failure (List String) := do
  let changed := refused "relocate_source_changed"
  let actual := (← move_set R v).map Prod.fst
  ensure (c.entries.all fun e => actual.contains e.path) changed
  let extra := actual.filter fun path => !(c.entries.map Entry.path).contains path
  ensure (extra.all fun path => under "anchor/receipts/" path || under "anchor/hook-runs/" path)
    changed
  return extra

/-- What is done on an error before anything is published. -/
def give_up (j : Journal) : Run Unit := do
  discard_staging j.plan.core.staging
  write_journal j .aborted

/-- From the pointer on: the cleanup, and the end. -/
def finish (j : Journal) : Run Result := do
  let cleanup ← cleanup P j.plan.core
  let j := { j with cleanup := some cleanup, stage := .cleaned }
  write_journal j .cleaned
  return ⟨j, false⟩

/-- The checks of `commit_relocation` under the locks: the binding, and the files that
    were born after the plan. -/
def check_commit (store_root : String) (c : Core) (s : Site) :
    Except Failure (Bound × List String) := do
  require_source project store_root s
  let v := s.vault store_root
  let binding ← mutation_preflight P H.readers project store_root v s
  ensure (custody_fingerprint P binding = c.custody_fingerprint &&
    binding.store_identity = c.store_identity) (refused "relocate_identity_changed")
  let current ← read_current H.readers v
  ensure (current = c.base_revision) (refused "relocate_base_changed")
  ensure (s.dirs c.destination_store_root).isNone (refused "relocate_destination_exists")
  let extra ← check_source_set H.readers c v
  return (binding, extra)

/-- `commit_relocation`, under the locks and past its checks. -/
def move (plan : Plan) (b : Bound) (extra : List String) : Run Result := do
  let c := plan.core
  let j : Journal := {
    plan
    stage := .staging
    relocation_receipt := none
    lock_free_residue := extra
    cleanup := none }
  write_journal j .staging
  let receipt ← Proc.onError (stage_and_verify P H project c b) (give_up j)
  let j := { j with relocation_receipt := some receipt }
  Proc.onError (publish c.staging c.destination_store_root) (give_up j)
  Proc.sync os_error
  write_journal j .published
  publish_pointer P project c b
  write_journal j .pointer_written
  finish P j

/-- `commit_relocation(store, plan, expected_current)`, for a store opened at a root. -/
def commit_relocation (store_root : String) (plan : Plan) (expected_current : String) :
    Run Result := do
  let c ← Proc.load fun _ => validate_plan P plan
  Proc.require (expected_current = c.base_revision) (refused "relocate_expected_current_mismatch")
  Proc.require (project = c.project_root) (refused "relocate_plan_root_mismatch")
  let replayed ← Proc.load (replay P plan)
  match replayed with
  | some r => return r
  | none =>
    if c.direction = .external_to_project_local then H.commit_back store_root plan
    else do
      Proc.require (store_root = c.source_store_root) (refused "relocate_plan_root_mismatch")
      -- the locks: another call may have ended meanwhile
      Proc.sync (refused "store_lock_busy")
      let replayed ← Proc.load (replay P plan)
      match replayed with
      | some r => return r
      | none => do
        let checked ← Proc.load (check_commit P H project store_root c)
        -- the parent of the destination is made
        Proc.sync os_error
        Proc.load fun s => ensure (s.dirs c.staging).isNone (refused "relocate_staging_exists")
        move P H project plan checked.1 checked.2

/-! ## Reconciliation -/

/-- `_is_own_receipt(payload, core)`. -/
def is_own_receipt (payload : Bytes) (c : Core) : Bool :=
  (json_loads payload).any fun value => value.isObj && item value "kind" = .str "store_root" &&
    item value "store_identity" = .str c.store_identity &&
    item value "current_observed" = .str c.base_revision &&
    item value "from_root_observed" = .str c.source_store_root &&
    item value "to_root_observed" = .str c.destination_store_root

/-- `_destination_receipt(core)`: the receipt, if the destination is the planned copy and
    that receipt. -/
def destination_receipt (c : Core) (v : Vault) : Option String :=
  match move_set H.readers v with
  | .error _ => none
  | .ok rows =>
    let planned (path : String) := c.entries.find? fun e => e.path = path
    let own := rows.filter fun f => (planned f.1).isNone
    let good := rows.all fun f => match planned f.1 with
      | some e => digest_bytes P f.2 = e.content_sha256
      | none => under "anchor/relocation-receipts/" f.1 && is_own_receipt f.2 c
    let found := c.entries.all fun e => (rows.map Prod.fst).contains e.path
    match own with
    | [f] => if good && found then some (digest_bytes P f.2) else none
    | _ => none

/-- `_only_planned_files(target, core, receipt)`. -/
def only_planned_files (c : Core) (receipt : String) (v : Vault) : Bool :=
  v.keys.all fun path => (c.entries.map Entry.path).contains path ||
    path = receipt_path receipt ||
    ["anchor/.identity.lock", "anchor/memory/.write.lock", "anchor/memory/.reader-gate"].contains path

/-- `_pointer_matches(project_root, core)`. -/
def pointer_matches (c : Core) (s : Site) : Except Failure Bool := do
  match ← read_pointer s with
  | none => return false
  | some p =>
    if p.custody_fingerprint ≠ c.custody_fingerprint then return false
    else do
      ensure (p.store_root = c.destination_store_root) (refused "relocate_pointer_unrecognized")
      return true

/-- `reconcile_relocation`, once the pointer is there. -/
def reconcile_moved (j : Journal) (abort : Bool) : Run Result := do
  Proc.require (!abort) (refused "relocate_abort_too_late")
  finish P j

/-- The checks of a published copy before the pointer is written. -/
def check_published (c : Core) (s : Site) : Except Failure Bound := do
  let unrecognized := refused "relocate_destination_unrecognized"
  ensure (raw_current (s.vault c.source_store_root) = some c.base_revision)
    (refused "relocate_source_advanced")
  ensure (store_root_valid project c.destination_store_root) (refused "store_root_invalid")
  let v := s.vault c.destination_store_root
  let checked ← (H.readers.verify v).mapError of_seal
  let binding ← H.readers.read_binding v
  ensure (checked.revision = c.base_revision &&
    custody_fingerprint P binding = c.custody_fingerprint) unrecognized
  return binding

/-- `reconcile_relocation`, once the copy is published. -/
def reconcile_published (j : Journal) (abort : Bool) : Run Result := do
  let c := j.plan.core
  let unrecognized := refused "relocate_destination_unrecognized"
  let matched ← Proc.load (pointer_matches c)
  if matched then do
    write_journal j .pointer_written
    reconcile_moved P { j with stage := .pointer_written } abort
  else do
    let receipt ← Proc.reads fun s => destination_receipt P H c (s.vault c.destination_store_root)
    Proc.require (receipt.isSome && receipt = j.relocation_receipt) unrecognized
    if abort then do
      let only ← Proc.reads fun s =>
        only_planned_files c (receipt.getD "") (s.vault c.destination_store_root)
      Proc.require only unrecognized
      remove_tree c.destination_store_root
      Proc.sync os_error
      write_journal j .aborted
      return ⟨{ j with stage := .aborted }, false⟩
    else do
      let binding ← Proc.load (check_published P H project c)
      publish_pointer P project c binding
      write_journal j .pointer_written
      finish P { j with stage := .pointer_written }

/-- `reconcile_relocation`, while the copy is staged. -/
def reconcile_staging (j : Journal) (abort : Bool) : Run Result := do
  let c := j.plan.core
  let receipt ← Proc.reads fun s => if (s.dirs c.destination_store_root).isSome then
    destination_receipt P H c (s.vault c.destination_store_root) else none
  match receipt with
  | none => do
    discard_staging c.staging
    write_journal j .aborted
    return ⟨{ j with stage := .aborted }, false⟩
  | some r => do
    -- the rename took place, and the journal does not know
    let j := { j with relocation_receipt := some r, stage := .published }
    write_journal j .published
    reconcile_published P H project j abort

/-- `reconcile_relocation(project_root, transaction_id, abort)`. -/
def reconcile_relocation (txid : String) (abort : Bool) : Run Result := do
  let journal ← Proc.load (read_journal P txid)
  match journal with
  | none => Proc.raise (refused "relocate_transaction_unknown")
  | some j =>
    if j.stage = .cleaned ∨ j.stage = .aborted then return ⟨j, true⟩
    else do
      Proc.require (j.plan.core.project_root = project) (refused "relocate_plan_root_mismatch")
      if j.plan.core.direction = .external_to_project_local then H.reconcile_back j abort
      else do
        -- the locks
        Proc.sync (refused "store_lock_busy")
        match j.stage with
        | .staging => reconcile_staging P H project j abort
        | .published => reconcile_published P H project j abort
        | _ => reconcile_moved P j abort

end AnKla.Relocation
