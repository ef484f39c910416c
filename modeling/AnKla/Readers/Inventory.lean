import AnKla.Policy.Formats
import AnKla.Readers.Availability
import AnKla.Readers.View

/-!
# Inventory, page by page

* `a2b_base64`: Base64 as a reader takes it that skips what is not of its alphabet.
* `cursor_encode`, `cursor_decode`: the place of the next page, in a cursor.
* `count_status`: one more record of a status.
* `inventory_page`: a page.
-/

namespace AnKla

open PyJson Durable Base64

variable (H : Crypto)

/-! ## Cursors -/

/-- `base64.urlsafe_b64encode`, of one character. -/
def to_urlsafe (c : Char) : Char := if c = '+' then '-' else if c = '/' then '_' else c

/-- `base64.urlsafe_b64decode`, of one character. -/
def of_urlsafe (c : Char) : Char := if c = '-' then '+' else if c = '_' then '/' else c

/-- `binascii.a2b_base64`: how many characters of a group were read, what is left of the last of
    them, and how many pads stand after it. Other characters are skipped. -/
def a2b_base64 : ℕ → ℕ → ℕ → List Char → Option Bytes
  | quad, _, _, [] => if quad = 0 then some [] else none
  | quad, left, pads, c :: s =>
    if c = '=' then
      if 2 ≤ quad ∧ 4 ≤ quad + (pads + 1) then some []
      else a2b_base64 quad left (if 2 ≤ quad then pads + 1 else pads) s
    else match sextet? c with
      | none => a2b_base64 quad left pads s
      | some n =>
        match quad with
        | 0 => a2b_base64 1 n 0 s
        | 1 => (a2b_base64 2 (n % 16) 0 s).map (UInt8.ofNat (left * 4 + n / 16) :: ·)
        | 2 => (a2b_base64 3 (n % 4) 0 s).map (UInt8.ofNat (left * 16 + n / 4) :: ·)
        | _ => (a2b_base64 0 0 0 s).map (UInt8.ofNat (left * 64 + n) :: ·)

/-- `json.dumps` of the document of a cursor. -/
def cursor_payload (revision : Digest) (offset : ℕ) : List Char :=
  '{' :: dumpStr "revision" ++ [':', ' '] ++ dumpStr (ident revision) ++ [',', ' '] ++
    dumpStr "offset" ++ [':', ' '] ++ dumpInt offset ++ ['}']

/-- `_cursor_encode(revision, offset)`. -/
def cursor_encode (revision : Digest) (offset : ℕ) : String :=
  String.ofList ((b64encode (Sealed.utf8 (cursor_payload revision offset))).map to_urlsafe)

/-- The document of a cursor, if it is one. -/
def cursor_json (cursor : String) : Option Json :=
  if cursor = "" ∨ MAX_CURSOR_CHARS < cursor.length ∨ ¬cursor.toList.all (·.toNat < 128) then none
  else (a2b_base64 0 0 0 (cursor.toList.map of_urlsafe)).bind Sealed.json_loads

/-- `_cursor_decode(cursor, revision, total)`. -/
def cursor_decode (cursor : String) (revision : Digest) (total : ℕ) : Except Failure ℕ :=
  let invalid := Failure.value "inventory_cursor_invalid"
  match cursor_json cursor with
  | none => .error invalid
  | some document =>
    match item document "offset" with
    | .int offset =>
      if exact_keys document ["revision", "offset"] = true ∧
          item document "revision" = .str (ident revision) ∧ 0 ≤ offset ∧ offset < total then
        .ok offset.toNat
      else .error invalid
    | _ => .error invalid

/-! ## Records -/

/-- A record of `inventory-v1`. -/
structure InventoryRecord extends InventoryRow where
  has_subject_ref : Bool
  bytes : ℕ
  deriving DecidableEq, Repr

/-- A record as the inventory lists it, if it has an id. -/
def inventory_record (stream : Stream) (raw observed : Json) : Option InventoryRecord :=
  (inventory_row H stream raw observed).map fun row =>
    { row with
      has_subject_ref := is_str (item raw "subject_ref") &&
        (parse_subject_ref (item raw "subject_ref")).isSome
      bytes := raw.size }

/-- The records of a stream. -/
def stream_inventory (s : Snapshot) (stream : Stream) : List InventoryRecord :=
  ((s.raw_records.get stream).zip (s.records.get stream)).filterMap fun x =>
    inventory_record H stream x.1 x.2

/-! ## Counts -/

/-- The counters of a stream. -/
abbrev Counts := List (String × ℕ)

def no_counts : Counts :=
  [("total", 0), ("vigente", 0), ("sustituida", 0), ("refutada", 0), ("eliminada", 0)]

/-- One more under a key, which is added at the end if it is new. -/
def bump_key (counts : Counts) (key : String) : Counts :=
  if counts.any (·.1 = key) then
    counts.map fun kv => if kv.1 = key then (kv.1, kv.2 + 1) else kv
  else counts ++ [(key, 1)]

/-- One more record of a status; the key of the total is no status. -/
def count_status (counts : Counts) (status : String) : Counts :=
  bump_key (bump_key counts "total") (if status = "total" then "status:total" else status)

/-- The counters of some records. -/
def stream_counts (records : List InventoryRecord) : Counts :=
  records.foldl (fun counts r => count_status counts r.status) no_counts

/-! ## Pages -/

/-- `DEFAULT_LIMIT`. -/
def Inventory.DEFAULT_LIMIT : ℕ := 200

/-- `MAX_LIMIT`. -/
def Inventory.MAX_LIMIT : ℕ := 1000

/-- `inventory-v1`. -/
structure InventoryPage where
  revision : Digest
  streams_searched : List Stream
  counts : List (Stream × Counts)
  complete : Bool
  next_cursor : Option String
  served_records : ℕ
  total_records : ℕ
  records : List InventoryRecord
  deriving DecidableEq, Repr

/-- The selected streams, each once, in the order of the caller. -/
def inventory_streams (streams : Option (List String)) : Except Failure (List Stream) :=
  let names := streams.getD (STREAMS.map Stream.name)
  match names.mapM Stream.ofName with
  | some (s :: ss) => .ok (s :: ss).eraseDups
  | _ => .error (.value "unsupported_inventory_stream")

/-- A page of the records of a snapshot. -/
def page_of (revision : Digest) (s : Snapshot) (selected : List Stream) (cursor : Option String)
    (limit : ℕ) : Except Failure InventoryPage := do
  let rows := selected.flatMap (stream_inventory H s)
  let offset ← match cursor with
    | none => pure 0
    | some text => cursor_decode text revision rows.length
  let page := (rows.drop offset).take limit
  let next_offset := offset + limit
  return {
    revision := s.revision_id
    streams_searched := selected
    counts := selected.map fun stream => (stream, stream_counts (stream_inventory H s stream))
    complete := decide (rows.length ≤ next_offset)
    next_cursor := if rows.length ≤ next_offset then none
      else some (cursor_encode revision next_offset)
    served_records := page.length
    total_records := rows.length
    records := page }

/-- `inventory(store, revision, streams, cursor, limit)`. -/
def inventory_page (d : Disk) (revision : Digest) (streams : Option (List String))
    (cursor : Option String) (limit : ℤ) : Except Failure InventoryPage := do
  ensure (1 ≤ limit && limit ≤ Inventory.MAX_LIMIT) (.value "inventory_limit_invalid")
  let selected ← inventory_streams streams
  let current ← read_current d
  let m ← read_manifest H d current
  check_archived H d m revision
  let s ← snapshot H d revision
  page_of H revision s selected cursor limit.toNat

end AnKla
