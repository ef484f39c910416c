import AnKla.Policy.Fields

/-!
# Timestamps and subjects

The two text formats that records are checked for. An instant is a number of
microseconds since the first day of year 1, in UTC.

* `parse_verified_at`: a closed subset of ISO 8601, with a known offset.
* `format_utc`: the canonical text of an instant.
* `parse_subject_ref`: a subject, in the namespace of a project.
-/

namespace AnKla

open PyJson

/-- Microseconds since 0001-01-01T00:00:00Z. -/
abbrev Instant := ℕ

/-! ## The calendar -/

def is_leap (year : ℕ) : Bool := year % 4 = 0 && (year % 100 ≠ 0 || year % 400 = 0)

def days_in_month (year : ℕ) : ℕ → ℕ
  | 2 => if is_leap year then 29 else 28
  | 4 | 6 | 9 | 11 => 30
  | _ => 31

def days_before_year (year : ℕ) : ℕ :=
  (year - 1) * 365 + (year - 1) / 4 - (year - 1) / 100 + (year - 1) / 400

def days_before_month (year month : ℕ) : ℕ :=
  ((List.range (month - 1)).map fun m => days_in_month year (m + 1)).sum

/-- The day of a date, the first day of year 1 being 0. -/
def day_number (year month day : ℕ) : ℕ :=
  days_before_year year + days_before_month year month + (day - 1)

/-- The month and day of a day of a year. -/
def month_of (year : ℕ) : ℕ → ℕ → ℕ → ℕ × ℕ
  | 0, month, rest => (month, rest + 1)
  | n + 1, month, rest =>
    if rest < days_in_month year month then (month, rest + 1)
    else month_of year n (month + 1) (rest - days_in_month year month)

/-- The date of a day, by cycles of 400, 100, 4 and 1 years. -/
def date_of (day : ℕ) : ℕ × ℕ × ℕ :=
  let n400 := day / 146097
  let r400 := day % 146097
  let n100 := min (r400 / 36524) 3
  let r100 := r400 - n100 * 36524
  let n4 := r100 / 1461
  let r4 := r100 % 1461
  let n1 := min (r4 / 365) 3
  let year := n400 * 400 + n100 * 100 + n4 * 4 + n1 + 1
  let (month, d) := month_of year 11 1 (r4 - n1 * 365)
  (year, month, d)

def micros_per_second : ℕ := 1000000

def micros_per_day : ℕ := 86400 * micros_per_second

/-- The end of year 9999. -/
def max_instant : ℕ := days_before_year 10000 * micros_per_day

/-! ## Texts -/

/-- The number of so many decimal digits. -/
def digits_value (s : List Char) : Option ℕ :=
  if s ≠ [] ∧ s.all fun c => '0' ≤ c && c ≤ '9' then
    some (s.foldl (fun n c => 10 * n + (c.toNat - '0'.toNat)) 0)
  else none

/-- A number of exactly so many digits, and the rest of the text. -/
def take_digits (width : ℕ) (s : List Char) : Option (ℕ × List Char) :=
  if (s.take width).length = width then
    (digits_value (s.take width)).map fun n => (n, s.drop width)
  else none

/-- One character, and the rest of the text. -/
def take_char (c : Char) : List Char → Option (List Char)
  | d :: s => if d = c then some s else none
  | [] => none

/-- The fraction of a second in microseconds: a point and one to six digits. -/
def take_fraction : List Char → Option (ℕ × List Char)
  | '.' :: s =>
    let digits := s.takeWhile fun c => '0' ≤ c && c ≤ '9'
    if 1 ≤ digits.length ∧ digits.length ≤ 6 then
      (digits_value (digits ++ List.replicate (6 - digits.length) '0')).map
        fun n => (n, s.drop digits.length)
    else none
  | s => some (0, s)

/-- The offset of a zone in minutes. An unknown offset (`-00:00`) is refused. -/
def zone_offset : List Char → Option ℤ
  | ['Z'] => some 0
  | sign :: s => do
    let (hour, s) ← take_digits 2 s
    let s ← take_char ':' s
    let (minute, s) ← take_digits 2 s
    let known := hour ≤ 13 && minute ≤ 59 || hour = 14 && minute = 0
    if s ≠ [] ∨ ¬known then none
    else if sign = '+' then some (hour * 60 + minute : ℕ)
    else if sign = '-' ∧ (hour ≠ 0 ∨ minute ≠ 0) then some (-(hour * 60 + minute : ℕ))
    else none
  | [] => none

inductive TemporalError
  | unparseable_verified_at
  | unrepresentable_verified_at
  deriving DecidableEq, Repr

/-- The local time and the offset that a text of the grammar writes. -/
def parse_local (s : List Char) : Option (ℕ × ℤ) := do
  let (year, s) ← take_digits 4 s
  let s ← take_char '-' s
  let (month, s) ← take_digits 2 s
  let s ← take_char '-' s
  let (day, s) ← take_digits 2 s
  let s ← take_char 'T' s
  let (hour, s) ← take_digits 2 s
  let s ← take_char ':' s
  let (minute, s) ← take_digits 2 s
  let s ← take_char ':' s
  let (second, s) ← take_digits 2 s
  let (micro, s) ← take_fraction s
  let offset ← zone_offset s
  if 1 ≤ year ∧ 1 ≤ month ∧ month ≤ 12 ∧ 1 ≤ day ∧ day ≤ days_in_month year month ∧
      hour ≤ 23 ∧ minute ≤ 59 ∧ second ≤ 59 then
    some ((day_number year month day * 86400 + hour * 3600 + minute * 60 + second) *
      micros_per_second + micro, offset)
  else none

/-- `parse_verified_at(text)`. -/
def parse_verified_at (text : String) : Except TemporalError Instant :=
  match parse_local text.toList with
  | none => .error .unparseable_verified_at
  | some (local_time, offset) =>
    let utc : ℤ := local_time - offset * (60 * micros_per_second : ℕ)
    if 0 ≤ utc ∧ utc < max_instant then .ok utc.toNat
    else .error .unrepresentable_verified_at

/-- A number in at least so many decimal digits. -/
def padded (width n : ℕ) : List Char := (Nat.toDigits 10 n).leftpad width '0'

/-- `format_utc(value)`. -/
def format_utc (t : Instant) : String :=
  let (year, month, day) := date_of (t / micros_per_day)
  let rest := t % micros_per_day
  let seconds := rest / micros_per_second
  String.ofList (padded 4 year ++ '-' :: padded 2 month ++ '-' :: padded 2 day ++ 'T' ::
    padded 2 (seconds / 3600) ++ ':' :: padded 2 (seconds / 60 % 60) ++ ':' ::
    padded 2 (seconds % 60) ++ '.' :: padded 6 (rest % micros_per_second) ++ ['Z'])

/-- A field that holds a timestamp that can be parsed. -/
def is_verified_at : Json → Bool
  | .str s => (parse_verified_at s).isOk
  | _ => false

/-! ## Subjects -/

/-- The kinds of subject. -/
def subject_kinds : List String :=
  ["actor", "api", "decision", "dependency", "doc", "environment", "integration", "issue",
    "project", "service", "system"]

/-- The parts of a `subject_ref`. -/
structure SubjectRef where
  kind : String
  subject_namespace : String
  id : String
  deriving DecidableEq, Repr

/-- The parts of a text between colons. -/
def split_colons : List Char → List (List Char)
  | [] => [[]]
  | c :: s =>
    match split_colons s with
    | [] => [[c]]
    | part :: parts => if c = ':' then [] :: part :: parts else (c :: part) :: parts

def is_lower_hex (c : Char) : Bool := ('0' ≤ c && c ≤ '9') || ('a' ≤ c && c ≤ 'f')

def is_subject_char (c : Char) : Bool :=
  ('a' ≤ c && c ≤ 'z') || ('0' ≤ c && c ≤ '9') || c = '.' || c = '_' || c = '-'

/-- `parse_subject_ref(value)`. -/
def parse_subject_ref : Json → Option SubjectRef
  | .str s =>
    match split_colons s.toList with
    | [p, t, v, kind, space, id] =>
      if p = "an-kla".toList ∧ t = "subject".toList ∧ v = "v1".toList ∧
          String.ofList kind ∈ subject_kinds ∧ space.take 2 = "p-".toList ∧
          space.length = 34 ∧ (space.drop 2).all is_lower_hex ∧
          1 ≤ id.length ∧ id.length ≤ 64 ∧ id.all is_subject_char then
        some ⟨String.ofList kind, String.ofList space, String.ofList id⟩
      else none
    | _ => none
  | _ => none

/-- `derive_namespace(project_bytes)`, of the digest of the project identity. -/
def derive_namespace (project : Digest) : String :=
  String.ofList ("p-".toList ++ (hexDigits 64 project).take 32)

end AnKla
