import AnKla.HookRuns
import AnKla.Json.Python
import AnKla.Policy.Calendar

/-!
# Hook runs, as the host language reads them

What `read_verified_runs` raises. The files of the directory hold any bytes, and the values that
`json.loads` returns go through the validator as they are.

* `Raised`: what no handler of the reader catches.
* `entry_is_valid`: the verdict on an entry, if it comes to one.
* `read_file`: one turn of the loop over the files.
* `read_verified_runs`: the entries that are served, the newest first.
* `instant`: the second that the timestamp of an entry denotes.
-/

namespace AnKla.HookReads

open PyJson Base64 Sealed HookRuns

/-- What the reader raises. -/
inductive Raised
  /-- `json.loads` fails, but not with `JSONDecodeError`. -/
  | loads (e : LoadsError)
  /-- `canonical_json` refuses a number, a lone surrogate or a depth. -/
  | canonical_json
  /-- `TypeError`: `hmac.compare_digest` of a text that is not ASCII. -/
  | compare_digest
  /-- `TypeError`: hook ids that are not hashable, or not sortable. -/
  | hook_ids
  deriving DecidableEq, Repr

section

variable (F : Interpreter) (U : Decimals) (P : Primitives)

/-! ## Entries -/

/-- `value == text`. -/
def is_text (v : Option PyValue) (text : String) : Bool :=
  match v with
  | some (.str s) => s = codes text.toList
  | _ => false

/-- The exit code is an integer of one byte, and no truth value. -/
def is_exit_code : Option PyValue → Bool
  | some (.int i) => 0 ≤ i && i ≤ 255
  | _ => false

/-- `datetime.strptime(value, "%Y-%m-%dT%H:%M:%SZ")` succeeds. -/
def is_timestamp : Option PyValue → Bool
  | some (.str s) =>
    match charsOf s with
    | some text => strptime_ok U (String.ofList text)
    | none => false
  | _ => false

/-- The signature of an entry, if it is a text. -/
def hmac_of (entry : PyValue) : Option (List ℕ) :=
  match entry.get? "run_hmac" with
  | some (.str s) => some s
  | _ => none

/-- The text of the signature of a body. -/
def expected_mac (key : Bytes) (body : Json) : List ℕ :=
  codes ("hmac-sha256:".toList ++ hex (P.hmac_sha256 key (canonical_json body)))

/-- The checks of `_entry_is_valid` before the signature. -/
def has_fields (entry : PyValue) : Bool :=
  entry.exact_keys HOOK_RUN_KEYS && is_text (entry.get? "schema") RUNS_SCHEMA &&
    is_exit_code (entry.get? "exit_code") && is_timestamp U (entry.get? "observed_at")

/-- The checks of `_entry_is_valid` after the signature. -/
def is_bound (entry : PyValue) (binding : Binding) : Bool :=
  is_text (entry.get? "project_uuid") (uuidText binding.store.project_uuid) &&
    is_text (entry.get? "store_identity") (ident binding.store_identity)

/-- `hmac.compare_digest(given, expected)`, of an expected text of ASCII. -/
def compare_digest (given expected : List ℕ) : Except Raised Bool :=
  if given.all (· < 128) then .ok (given = expected) else .error .compare_digest

/-- `_entry_is_valid(entry, signing_key, binding)`. -/
def entry_is_valid (entry : PyValue) (key : Bytes) (binding : Binding) : Except Raised Bool :=
  if has_fields U entry then
    match hmac_of entry with
    | none => .ok false
    | some mac =>
      match (entry.without "run_hmac").encode F F.dumps_levels with
      | none => .error .canonical_json
      | some body => (compare_digest mac (expected_mac P key body)).map (· && is_bound entry binding)
  else .ok false

/-! ## Files -/

/-- One turn of the loop over the files: the entry, if it is served. -/
def read_file (key : Bytes) (binding : Binding) (raw : Bytes) : Except Raised (Option PyValue) :=
  if MAX_RUN_BYTES < raw.length then .ok none
  else match decode_utf8 raw with
    | none => .ok none
    | some text =>
      match py_loads F.loads_levels text with
      | .error .decode => .ok none
      | .error e => .error (.loads e)
      | .ok entry => (entry_is_valid F U P entry key binding).map fun valid =>
        if valid then some entry else none

/-- The code points of a string, and none of another value. -/
def code_points : Option PyValue → List ℕ
  | some (.str s) => s
  | _ => []

/-- `item["observed_at"]`. -/
def observed_at (entry : PyValue) : List ℕ := code_points (entry.get? "observed_at")

/-- `runs.sort(key=lambda item: item["observed_at"], reverse=True)`. -/
def newest_first (runs : List PyValue) : List PyValue :=
  runs.insertionSort fun a b => observed_at b ≤ observed_at a

/-! ## Hook ids -/

def is_string : Option PyValue → Bool
  | some (.str _) => true
  | _ => false

def is_number : Option PyValue → Bool
  | some (.bool _) | some (.int _) | some (.float _) | some (.special _) => true
  | _ => false

def is_null : Option PyValue → Bool
  | some .null => true
  | _ => false

/-- `value in known` does not raise. -/
def is_hashable : Option PyValue → Bool
  | some (.arr _) | some (.obj _) => false
  | _ => true

/-- The values of a set compare with each other: `sorted` does not raise. -/
def is_sortable (ids : List (Option PyValue)) : Bool :=
  ids.all is_string || ids.all is_number || ids.all is_null

/-- The hook ids of some entries that are not declared. -/
def undeclared (declared_ids : List String) (runs : List PyValue) : List (Option PyValue) :=
  (runs.map (·.get? "hook_id")).filter fun id => !declared_ids.any (is_text id)

/-- The hook ids of some entries can be looked up, and those that are not declared be sorted. -/
def has_hook_ids (declared_ids : List String) (runs : List PyValue) : Bool :=
  runs.all (fun entry => is_hashable (entry.get? "hook_id")) &&
    is_sortable (undeclared declared_ids runs)

/-- The texts of `sorted({...})`, for the hook ids of the engine. -/
def unknown_ids (declared_ids : List String) (runs : List PyValue) :
    Except Raised (List (List ℕ)) :=
  if has_hook_ids declared_ids runs then
    .ok (((undeclared declared_ids runs).map code_points).insertionSort (· ≤ ·)).dedup
  else .error .hook_ids

/-! ## Reading -/

/-- What `read_verified_runs` returns. -/
structure VerifiedRuns where
  runs : List PyValue := []
  degraded : List String := []
  unknown : List (List ℕ) := []

/-- `read_verified_runs(store, declared_ids)`. -/
def read_verified_runs (r : StoreReads) (d : Runs) (declared_ids : List String) :
    Except Raised VerifiedRuns :=
  let truncated := if MAX_ENTRIES_SCANNED < (run_names d).length then ["hook_runs_truncated"] else []
  let names := (run_names d).take MAX_ENTRIES_SCANNED
  if names = [] then .ok { degraded := truncated }
  else match r.key, r.binding with
    | .error _, _ => .ok { degraded := ["attest_not_initialized"] }
    | .ok _, .error _ => .ok { degraded := ["hook_runs_unreadable"] }
    | .ok key, .ok binding => do
      let found ← names.mapM fun name => read_file F U P key binding ((d.read name).getD [])
      let runs := newest_first (found.filterMap id)
      let unknown ← unknown_ids declared_ids runs
      return {
        runs := runs
        degraded := truncated ++ (found.filter Option.isNone).map fun _ => "hook_run_invalid"
        unknown := unknown }

/-! ## Instants -/

/-- The second of a timestamp, the first one of year 1 being 0. -/
def second_of : ℕ × ℕ × ℕ × ℕ × ℕ × ℕ → ℕ
  | (year, month, day, hour, minute, second) =>
    ((day_number year month day * 24 + hour) * 60 + minute) * 60 + second

/-- The second that the timestamp of an entry denotes. -/
def instant (entry : PyValue) : Option ℕ :=
  (charsOf (observed_at entry)).bind fun text => (timestamp_fields U text).map second_of

/-- The entry of a file that the validator accepts. -/
def accepted (key : Bytes) (binding : Binding) (raw : Bytes) : Option PyValue :=
  match read_file F U P key binding raw with
  | .ok (some entry) => some entry
  | _ => none

/-- The contents of the files of the directory that are read. -/
def run_files (d : Runs) : List Bytes := (run_names d).map fun name => (d.read name).getD []

end

end AnKla.HookReads
