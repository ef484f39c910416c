import AnKla.Attest
import AnKla.Durable.Disk
import AnKla.Policy.Formats
import AnKla.Sealed.Bundle

/-!
# Hook runs

The evidence that a hook of the host ran: a signed entry, in a file that is named by its
digest. A host that repeats a call names the run itself, and the call returns the entry that
is there.

* `strptime_ok`: the timestamps that an entry may have.
* `validate_input`, `entry_is_valid`: what the writer, the scan and the reader check.
* `mint_hook_run`: with a run id of the caller, under the lock; or with a fresh one.
* `read_verified_runs`: the entries that are served.

The names and bytes of the files are those of the directory `hook-runs/runs/sha256`.
-/

namespace AnKla.HookRuns

open PyJson Base64 Sealed

/-! ## Timestamps -/

/-- The decimal digits of Unicode, by their values. -/
structure Decimals where
  value : Char → Option ℕ
  digitChar : ∀ n, n < 10 → value n.digitChar = some n

/-- A time in UTC as the clock of the host reads it, not before 1970. -/
structure UtcTime where
  year : ℕ
  month : ℕ
  day : ℕ
  hour : ℕ
  minute : ℕ
  second : ℕ
  year_mem : 1970 ≤ year ∧ year ≤ 9999
  month_mem : 1 ≤ month ∧ month ≤ 12
  day_mem : 1 ≤ day ∧ day ≤ days_in_month year month
  hour_lt : hour < 24
  minute_lt : minute < 60
  second_lt : second < 60

/-- A number below a hundred. -/
def two_digits (n : ℕ) : List Char := [(n / 10).digitChar, (n % 10).digitChar]

/-- `_utc_now()`: `%Y-%m-%dT%H:%M:%SZ`. -/
def utc_now (t : UtcTime) : String :=
  String.ofList (two_digits (t.year / 100) ++ two_digits (t.year % 100) ++ '-' ::
    two_digits t.month ++ '-' :: two_digits t.day ++ 'T' :: two_digits t.hour ++ ':' ::
    two_digits t.minute ++ ':' :: two_digits t.second ++ ['Z'])

/-- A digit of ASCII from one to another. -/
def digit_in (lo hi : ℕ) (c : Char) : Option ℕ :=
  if lo ≤ c.toNat - 48 ∧ c.toNat - 48 ≤ hi ∧ c.isDigit then some (c.toNat - 48) else none

/-- A field of one or two characters, and the separator after it. -/
def take_field (one : Char → Option ℕ) (two : Char → Char → Option ℕ) (separator : Char → Bool) :
    List Char → Option (ℕ × List Char)
  | a :: b :: s =>
    if separator b then (one a).map fun n => (n, s)
    else match s with
      | c :: s => if separator c then (two a b).map fun n => (n, s) else none
      | [] => none
  | _ => none

/-- Two digits, each from a set. -/
def both (x y : Option ℕ) : Option ℕ := x.bind fun m => y.map fun n => 10 * m + n

section

variable (U : Decimals)

/-- `%Y-`. -/
def take_year : List Char → Option (ℕ × List Char)
  | a :: b :: c :: d :: '-' :: s =>
    (both (both (U.value a) (U.value b)) (U.value c)).bind fun m =>
      (U.value d).map fun n => (10 * m + n, s)
  | _ => none

/-- `%m-`. -/
def take_month : List Char → Option (ℕ × List Char) :=
  take_field (digit_in 1 9)
    (fun a b => both (digit_in 1 1 a) (digit_in 0 2 b) <|> both (digit_in 0 0 a) (digit_in 1 9 b))
    (· = '-')

/-- `%dT`. -/
def take_day : List Char → Option (ℕ × List Char) :=
  take_field (digit_in 1 9)
    (fun a b => both (digit_in 3 3 a) (digit_in 0 1 b) <|> both (digit_in 1 2 a) (U.value b) <|>
      both (digit_in 0 0 a) (digit_in 1 9 b) <|> (if a = ' ' then digit_in 1 9 b else none))
    fun c => c = 'T' || c = 't'

/-- `%H:`. -/
def take_hour : List Char → Option (ℕ × List Char) :=
  take_field U.value
    (fun a b => both (digit_in 2 2 a) (digit_in 0 3 b) <|> both (digit_in 0 1 a) (U.value b))
    (· = ':')

/-- `%M:`. -/
def take_minute : List Char → Option (ℕ × List Char) :=
  take_field U.value (fun a b => both (digit_in 0 5 a) (U.value b)) (· = ':')

/-- `%SZ`. -/
def take_second : List Char → Option (ℕ × List Char) :=
  take_field U.value
    (fun a b => both (digit_in 6 6 a) (digit_in 0 1 b) <|> both (digit_in 0 5 a) (U.value b))
    fun c => c = 'Z' || c = 'z'

/-- The fields of a timestamp, and nothing after them. -/
def timestamp_fields (s : List Char) : Option (ℕ × ℕ × ℕ × ℕ × ℕ × ℕ) := do
  let (year, s) ← take_year U s
  let (month, s) ← take_month s
  let (day, s) ← take_day U s
  let (hour, s) ← take_hour U s
  let (minute, s) ← take_minute U s
  let (second, s) ← take_second U s
  if s = [] then some (year, month, day, hour, minute, second) else none

/-- `datetime.strptime(text, "%Y-%m-%dT%H:%M:%SZ")` succeeds: there is such a time. -/
def strptime_ok (text : String) : Bool :=
  match timestamp_fields U text.toList with
  | some (year, month, day, _, _, second) =>
    1 ≤ year && day ≤ days_in_month year month && second < 60
  | none => false

/-- The value is a timestamp. -/
def is_timestamp : Json → Bool
  | .str s => strptime_ok U s
  | _ => false

end

/-! ## Errors -/

inductive HookRunFailure
  /-- `HookRunError`. -/
  | hook_run (code : String)
  /-- `AttestError`, `IdentityError`. -/
  | store (f : Failure)
  /-- `CustodyError`. -/
  | custody (code : String)
  /-- `OSError`. -/
  | os
  /-- The process died. -/
  | crashed
  deriving DecidableEq, Repr

/-- `if not test: raise failure`. -/
def refuse (test : Bool) (failure : HookRunFailure) : Except HookRunFailure Unit :=
  if test then .ok () else .error failure

@[simp] theorem refuse_ok {test : Bool} {failure : HookRunFailure} {u : Unit} :
    refuse test failure = .ok u ↔ test = true := by
  rw [refuse]
  split_ifs with h <;> simp [h]

/-- `HookRunError("hook_run_evidence_invalid")`. -/
def evidence_invalid : HookRunFailure := .hook_run "hook_run_evidence_invalid"

/-! ## Arguments -/

def RUNS_SCHEMA : String := "an-kla/hook-run-v1"

/-- `_MAX_ENTRY_BYTES`. -/
def MAX_RUN_BYTES : ℕ := 65536

/-- `_MAX_ENTRIES_SCANNED`. -/
def MAX_ENTRIES_SCANNED : ℕ := 2000

/-- `_RUN_ID_MAX_LENGTH`. -/
def RUN_ID_MAX_LENGTH : ℕ := 256

def TRIGGERS : List String := ["before_task", "material_close_or_handoff"]

def ACTIONS : List String := ["assemble-context", "retrieve", "checkpoint", "status"]

/-- `_HOOK_RUN_KEYS`. -/
def HOOK_RUN_KEYS : List String :=
  ["schema", "run_id", "hook_id", "trigger", "action", "exit_code", "subject_digest",
    "project_uuid", "store_identity", "adapter_fingerprint", "observed_at", "run_hmac"]

/-- `_FUNCTIONAL_FIELDS`. -/
def FUNCTIONAL_FIELDS : List String :=
  ["hook_id", "trigger", "action", "exit_code", "subject_digest", "project_uuid",
    "store_identity", "adapter_fingerprint"]

/-- The arguments of `mint_hook_run`; one that is absent is `null`. -/
structure RunArgs where
  hook_id : Json
  trigger : Json
  action : Json
  exit_code : Json
  subject : Json
  adapter_fingerprint : Json
  now : Json
  run_id : Json

/-- `ID_PATTERN`, matched against the whole text. -/
def is_hook_id : Json → Bool
  | .str s => 1 ≤ s.length && s.length ≤ 128 &&
      s.toList.all fun c => c.isAlphanum || c = '.' || c = '_' || c = '-'
  | _ => false

def is_one_of (names : List String) : Json → Bool
  | .str s => names.contains s
  | _ => false

def is_exit_code : Json → Bool
  | .int i => 0 ≤ i && i ≤ 255
  | _ => false

def is_run_id : Json → Bool
  | .str s => 1 ≤ s.length && s.length ≤ RUN_ID_MAX_LENGTH && s.toList.all fun c => 0x20 ≤ c.toNat
  | _ => false

/-- `value is None or test(value)`. -/
def absent_or (test : Json → Bool) (v : Json) : Bool := v = .null || test v

/-- `_validate_input(...)`. -/
def validate_input (U : Decimals) (args : RunArgs) : Except HookRunFailure Unit :=
  refuse (is_hook_id args.hook_id && is_one_of TRIGGERS args.trigger &&
    is_one_of ACTIONS args.action && is_exit_code args.exit_code && args.subject.isObj &&
    absent_or is_str args.adapter_fingerprint && absent_or is_run_id args.run_id &&
    absent_or (is_timestamp U) args.now) (.hook_run "hook_run_invalid_input")

/-! ## Entries -/

section

variable (U : Decimals) (P : Primitives)

/-- The fields of an entry that a repeated call must have too. -/
def functional_items (binding : Binding) (args : RunArgs) : List (String × Json) :=
  [("hook_id", args.hook_id), ("trigger", args.trigger), ("action", args.action),
    ("exit_code", args.exit_code), ("subject_digest", .str (digest_json P args.subject)),
    ("project_uuid", .str (uuidText binding.store.project_uuid)),
    ("store_identity", .str (ident binding.store_identity)),
    ("adapter_fingerprint", args.adapter_fingerprint)]

/-- The items of an entry before it is signed. -/
def unsigned_items (binding : Binding) (args : RunArgs) (run_id observed_at : Json) :
    List (String × Json) :=
  [("schema", .str RUNS_SCHEMA), ("run_id", run_id), ("observed_at", observed_at)] ++
    functional_items P binding args

/-- `SIGNATURE_PREFIX + hmac.new(key, canonical_json(body), hashlib.sha256).hexdigest()`. -/
def run_hmac (key : Bytes) (body : Json) : Json :=
  .str (String.ofList ("hmac-sha256:".toList ++ hex (P.hmac_sha256 key (canonical_json body))))

/-- The file of an entry: its canonical text, and the end of the line. -/
def run_payload (entry : Json) : Bytes := canonical_json entry ++ utf8 ['\n']

/-- The name of the file of a content. -/
def run_file (raw : Bytes) : String := String.ofList (hex (P.sha256 raw) ++ ".json".toList)

/-- `path.stem`. -/
def stem (name : String) : String := String.ofList (name.toList.take (name.toList.length - 5))

/-- `name.endswith(".json")`. -/
def is_json_file (name : String) : Bool := ".json".toList.isSuffixOf name.toList

/-- The items, and the signature of them. -/
def signed (key : Bytes) (items : List (String × Json)) : Json :=
  dict (("run_hmac", run_hmac P key (dict items)) :: items)

/-- `now or _utc_now()`. -/
def observed_at (args : RunArgs) (clock : UtcTime) : Json :=
  if args.now = .null then .str (utc_now clock) else args.now

/-- `_new_entry(...)`. -/
def new_entry (binding : Binding) (key : Bytes) (args : RunArgs) (run_id : Json)
    (clock : UtcTime) : Except HookRunFailure Json := do
  let entry := signed P key (unsigned_items P binding args run_id (observed_at args clock))
  refuse ((canonical_json entry).length + 1 ≤ MAX_RUN_BYTES) (.hook_run "hook_run_invalid_input")
  return entry

/-- `_entry_is_valid(entry, signing_key, binding)`. -/
def entry_is_valid (entry : Json) (key : Bytes) (binding : Binding) : Bool :=
  exact_keys entry HOOK_RUN_KEYS && item entry "schema" = .str RUNS_SCHEMA &&
    is_exit_code (item entry "exit_code") && is_timestamp U (item entry "observed_at") &&
    is_str (item entry "run_hmac") &&
    item entry "run_hmac" = run_hmac P key (without "run_hmac" entry) &&
    item entry "project_uuid" = .str (uuidText binding.store.project_uuid) &&
    item entry "store_identity" = .str (ident binding.store_identity)

/-- The arguments that an entry states. -/
def stated_args (entry : Json) : RunArgs where
  hook_id := item entry "hook_id"
  trigger := item entry "trigger"
  action := item entry "action"
  exit_code := item entry "exit_code"
  subject := dict []
  adapter_fingerprint := item entry "adapter_fingerprint"
  now := item entry "observed_at"
  run_id := item entry "run_id"

/-- `_open_verified(path, key, binding)`: the entry of a file. -/
def open_verified (key : Bytes) (binding : Binding) (name : String) (raw : Bytes) :
    Except HookRunFailure Json :=
  match json_loads raw with
  | none => .error evidence_invalid
  | some entry => do
    refuse (raw.length ≤ MAX_RUN_BYTES && raw = run_payload entry && name = run_file P raw)
      evidence_invalid
    refuse (entry_is_valid U P entry key binding) evidence_invalid
    (validate_input U (stated_args entry)).mapError fun _ => evidence_invalid
    refuse (is_str (item entry "subject_digest")) evidence_invalid
    return entry

end

/-! ## The directory -/

/-- The files of the directory of runs. -/
abbrev Runs := Durable.Disk String Bytes

/-- Where the creation of a file stops: with the death of the process or an error, and with
    so many bytes in the file, if it is there. -/
structure WriteFault where
  crash : Bool
  left : Option ℕ

/-- What a fault raises. -/
def WriteFault.failure (f : WriteFault) : HookRunFailure := if f.crash then .crashed else .os

/-- How `_write_exclusive` fails. -/
inductive WriteFailure
  | file_exists
  | fault (f : WriteFault)

/-- `_write_exclusive(target, payload, mode)`. -/
def write_exclusive (d : Runs) (name : String) (payload : Bytes) (fault : Option WriteFault) :
    Runs × Except WriteFailure Unit :=
  match d.read name, fault with
  | some _, _ => (d, .error .file_exists)
  | none, none => (d.write name payload, .ok ())
  | none, some f =>
    (match f.left with
      | none => d
      | some k => d.write name (payload.take k), .error (.fault f))

section

variable (U : Decimals) (P : Primitives)

/-- `_restore_durability(path, key, binding)`: the entry is verified, and synced again. -/
def restore_durability (key : Bytes) (binding : Binding) (d : Runs) (name : String)
    (fault : Option WriteFault) : Except HookRunFailure Unit :=
  match d.read name with
  | none => .error evidence_invalid
  | some raw => do
    let _ ← open_verified U P key binding name raw
    match fault with
    | none => .ok ()
    | some f => .error (if f.crash then .crashed else .hook_run "hook_run_publication_uncertain")

/-- `_find_runs(store, key, binding, run_id)`: every file is verified. -/
def find_runs (key : Bytes) (binding : Binding) (d : Runs) (run_id : Json) :
    Except HookRunFailure (List (String × Json)) := do
  let names := d.keys.filter is_json_file
  refuse (names.length ≤ MAX_ENTRIES_SCANNED) (.hook_run "hook_run_scan_limit")
  let entries ← names.mapM fun name => do
    let entry ← open_verified U P key binding name ((d.read name).getD [])
    return (name, entry)
  return entries.filter fun x => item x.2 "run_id" = run_id

/-! ## Minting -/

/-- What `mint_hook_run` returns. -/
structure RunResult where
  run_id : Json
  digest : String
  deriving DecidableEq

/-- What the store reads for a call. -/
structure StoreReads where
  key : Except Failure Bytes
  binding : Except Failure Binding
  check_custody : Binding → Except String Unit

/-- What a call takes from its host: what it reads before and inside of the lock, whether the
    lock is busy, the clock, and the bytes of `uuid.uuid4()`. -/
structure HookHost where
  before : StoreReads
  inside : StoreReads
  lock_busy : Bool
  clock : UtcTime
  uuid4 : {raw : Bytes // raw.length = 16}

/-- The key and the binding. -/
def StoreReads.open (r : StoreReads) : Except HookRunFailure (Bytes × Binding) := do
  let key ← r.key.mapError .store
  let binding ← r.binding.mapError .store
  (r.check_custody binding).mapError .custody
  return (key, binding)

/-- The binding and the key, as they are read again inside of the lock. -/
def StoreReads.reopen (r : StoreReads) : Except HookRunFailure (Bytes × Binding) := do
  let binding ← r.binding.mapError .store
  (r.check_custody binding).mapError .custody
  let key ← r.key.mapError .store
  return (key, binding)

/-- `_publish(store, entry)`. -/
def publish (d : Runs) (entry : Json) (fault : Option WriteFault) :
    Runs × Except HookRunFailure RunResult :=
  let payload := run_payload entry
  let result : RunResult := ⟨item entry "run_id", digest_bytes P payload⟩
  match write_exclusive d (run_file P payload) payload fault with
  | (d', .ok ()) => (d', .ok result)
  | (d', .error .file_exists) => (d', .ok result)
  | (d', .error (.fault f)) => (d', .error f.failure)

/-- `_publish(store, entry, exclusive_retry=True, ...)`, and what its errors become. -/
def publish_exclusive (key : Bytes) (binding : Binding) (d : Runs) (entry : Json)
    (fault : Option WriteFault) : Runs × Except HookRunFailure RunResult :=
  let payload := run_payload entry
  let result : RunResult := ⟨item entry "run_id", digest_bytes P payload⟩
  match write_exclusive d (run_file P payload) payload fault with
  | (d', .ok ()) => (d', .ok result)
  | (d', .error .file_exists) =>
    (d', (restore_durability U P key binding d' (run_file P payload) fault).map fun _ => result)
  | (d', .error (.fault f)) =>
    (d', .error (if f.crash then .crashed else .hook_run "hook_run_publication_uncertain"))

/-- The entry of a call with a fresh run id. -/
def fresh_entry (host : HookHost) (args : RunArgs) : Except HookRunFailure Json := do
  validate_input U args
  let (key, binding) ← host.before.open
  new_entry P binding key args (.str (String.ofList (hex host.uuid4))) host.clock

/-- The key, the binding and the entry of a call with a run id, inside of the lock. -/
def locked_entry (host : HookHost) (args : RunArgs) :
    Except HookRunFailure (Bytes × Binding × Json) := do
  validate_input U args
  let _ ← host.before.open
  refuse (!host.lock_busy) (.hook_run "hook_run_lock_busy")
  let (key, binding) ← host.inside.reopen
  let entry ← new_entry P binding key args args.run_id host.clock
  return (key, binding, entry)

/-- `any(original[k] != entry[k] for k in _FUNCTIONAL_FIELDS)`. -/
def conflicts (original entry : Json) : Bool :=
  FUNCTIONAL_FIELDS.any fun k => item original k ≠ item entry k

/-- The part of `mint_hook_run` under the lock. -/
def mint_locked (key : Bytes) (binding : Binding) (entry : Json) (d : Runs)
    (fault : Option WriteFault) : Runs × Except HookRunFailure RunResult :=
  match find_runs U P key binding d (item entry "run_id") with
  | .error e => (d, .error e)
  | .ok [] => publish_exclusive U P key binding d entry fault
  | .ok [(name, original)] =>
    if conflicts original entry then (d, .error (.hook_run "hook_run_conflict"))
    else (d, (restore_durability U P key binding d name fault).map fun _ =>
      ⟨item entry "run_id", "sha256:" ++ stem name⟩)
  | .ok _ => (d, .error (.hook_run "hook_run_duplicate_evidence"))

/-- `mint_hook_run(store, ...)`. -/
def mint_hook_run (host : HookHost) (args : RunArgs) (fault : Option WriteFault) (d : Runs) :
    Runs × Except HookRunFailure RunResult :=
  if args.run_id = .null then
    match fresh_entry U P host args with
    | .error e => (d, .error e)
    | .ok entry => publish P d entry fault
  else
    match locked_entry U P host args with
    | .error e => (d, .error e)
    | .ok (key, binding, entry) => mint_locked U P key binding entry d fault

/-! ## Runs of calls -/

/-- What happens to a directory: a call with a run id, and wherever it stops; or a loss of power,
    which removes a file, or leaves so many bytes of it. -/
inductive HookEvent
  | mint (host : HookHost) (args : RunArgs) (named : args.run_id ≠ .null) (fault : Option WriteFault)
  | loss (name : String) (left : Option ℕ)

/-- What a loss of power leaves. -/
def lose (d : Runs) (name : String) : Option ℕ → Runs
  | none => d.remove name
  | some k =>
    match d.read name with
    | none => d
    | some raw => d.write name (raw.take k)

/-- What is in the directory after an event. -/
def HookEvent.apply (d : Runs) : HookEvent → Runs
  | .mint host args _ fault => (mint_hook_run U P host args fault d).1
  | .loss name left => lose d name left

/-- What is in the directory after some events. -/
def after (d : Runs) (events : List HookEvent) : Runs := events.foldl (HookEvent.apply U P) d

/-! ## Reading -/

/-- What `read_verified_runs` returns. -/
structure VerifiedRuns where
  runs : List Json := []
  degraded : List String := []
  unknown : List String := []

/-- One turn of the loop over the files: the entry, if it is served. -/
def read_run (key : Bytes) (binding : Binding) (raw : Bytes) : Option Json :=
  if MAX_RUN_BYTES < raw.length then none
  else match json_loads raw with
    | none => none
    | some entry => if entry_is_valid U P entry key binding then some entry else none

/-- The text of a string. -/
def text_of : Json → String
  | .str s => s
  | _ => ""

/-- `sorted(names)`, of the files that are read. -/
def run_names (d : Runs) : List String := (d.keys.insertionSort (· ≤ ·)).filter is_json_file

/-- `read_verified_runs(store, declared_ids)`. -/
def read_verified_runs (r : StoreReads) (d : Runs) (declared_ids : List String) : VerifiedRuns :=
  let truncated := if MAX_ENTRIES_SCANNED < (run_names d).length then ["hook_runs_truncated"] else []
  let names := (run_names d).take MAX_ENTRIES_SCANNED
  if names = [] then { degraded := truncated }
  else match r.key, r.binding with
    | .error _, _ => { degraded := ["attest_not_initialized"] }
    | .ok _, .error _ => { degraded := ["hook_runs_unreadable"] }
    | .ok key, .ok binding =>
      let found := names.map fun name => read_run U P key binding ((d.read name).getD [])
      let runs := (found.filterMap id).insertionSort fun a b =>
        text_of (item b "observed_at") ≤ text_of (item a "observed_at")
      { runs := runs
        degraded := truncated ++ (found.filter Option.isNone).map fun _ => "hook_run_invalid"
        unknown := sorted_set ((runs.map fun r => text_of (item r "hook_id")).filter
          fun id => !declared_ids.contains id) }

end

end AnKla.HookRuns
