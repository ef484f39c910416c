import AnKla.Json.RoundTrip
import Mathlib.Data.Nat.Digits.Defs

/-!
# Identifiers

Everything immutable is addressed by the digest of its bytes. A digest is the
number its 64 hexadecimal digits write; hashing is ideal, so the numbers are
not bounded, and one above `2^256` is written with more digits.

* `ident`: a digest as the program writes it, `sha256:` and the digits.
* `bare_digest`: the digest a text writes, if it is one.
-/

namespace AnKla

open PyJson

/-- The number of a content identifier. -/
abbrev Digest := ℕ

/-- The number of a canonical RFC 4122 UUID of version 1 to 5. -/
abbrev Uuid := ℕ

/-! ## Hexadecimal -/

/-- The lowercase hexadecimal digits of a number, at least `width` of them. -/
def hexDigits (width n : ℕ) : List Char := (Nat.toDigits 16 n).leftpad width '0'

/-- The number lowercase hexadecimal digits write. -/
def hexValue (s : List Char) : ℕ := s.foldl (fun n c => 16 * n + (hexVal c).getD 0) 0

theorem hexVal_digitChar {n : ℕ} (h : n < 16) : hexVal n.digitChar = some n := by
  interval_cases n <;> decide

theorem hexValue_append (s : List Char) (c : Char) :
    hexValue (s ++ [c]) = 16 * hexValue s + (hexVal c).getD 0 := by
  rw [hexValue, List.foldl_append]
  rfl

theorem hexValue_toDigits (n : ℕ) : hexValue (Nat.toDigits 16 n) = n := by
  induction n using Nat.strong_induction_on with
  | _ n ih =>
    rw [Nat.toDigits_eq_if (by decide)]
    split_ifs with h
    · simp [hexValue, hexVal_digitChar h]
    · rw [hexValue_append, ih (n / 16) (by omega), hexVal_digitChar (by omega), Option.getD_some]
      omega

/-- Leading zeros do not change the value. -/
theorem hexValue_leftpad (width : ℕ) (s : List Char) :
    hexValue (s.leftpad width '0') = hexValue s := by
  have h (k : ℕ) : hexValue (List.replicate k '0' ++ s) = hexValue s := by
    induction k with
    | zero => rfl
    | succ k ih =>
      rw [List.replicate_succ, List.cons_append, ← ih, hexValue, List.foldl_cons]
      rfl
  rw [List.leftpad]
  exact h _

theorem hexValue_hexDigits (width n : ℕ) : hexValue (hexDigits width n) = n := by
  rw [hexDigits, hexValue_leftpad, hexValue_toDigits]

/-! ## Digests -/

def digestPrefix : List Char := "sha256:".toList

/-- A digest as the program writes it. -/
def ident (d : Digest) : String := String.ofList (digestPrefix ++ hexDigits 64 d)

/-- The digest a text writes, if it is an identifier. -/
def bare_digest (s : String) : Option Digest :=
  let hex := s.toList.drop digestPrefix.length
  if s = ident (hexValue hex) then some (hexValue hex) else none

theorem toList_ident (d : Digest) : (ident d).toList = digestPrefix ++ hexDigits 64 d := by
  rw [ident, String.toList_ofList]

@[simp] theorem bare_digest_ident (d : Digest) : bare_digest (ident d) = some d := by
  have h : hexValue ((ident d).toList.drop digestPrefix.length) = d := by
    rw [toList_ident, List.drop_left, hexValue_hexDigits]
  simp only [bare_digest, h, if_true]

theorem eq_ident_of_bare_digest {s : String} {d : Digest} (h : bare_digest s = some d) :
    s = ident d := by
  rw [bare_digest] at h
  split_ifs at h with hs
  cases h
  exact hs

theorem ident_injective : Function.Injective ident := fun d e h => by
  simpa using congrArg bare_digest h

/-- `_is_digest(value)`. -/
def is_digest : Json → Bool
  | .str s => (bare_digest s).isSome
  | _ => false

/-- The digest a JSON string writes. -/
def digest_of : Json → Option Digest
  | .str s => bare_digest s
  | _ => none

theorem digest_of_eq {v : Json} {d : Digest} : digest_of v = some d ↔ v = .str (ident d) := by
  cases v with
  | str s =>
    rw [digest_of, Json.str.injEq]
    exact ⟨eq_ident_of_bare_digest, fun h => h ▸ bare_digest_ident d⟩
  | _ => simp [digest_of]

/-- `str(uuid)`: the 32 digits in groups of 8, 4, 4, 4 and 12. -/
def uuidText (u : Uuid) : String :=
  let s := hexDigits 32 u
  String.ofList (s.take 8 ++ '-' :: (s.drop 8).take 4 ++ '-' :: (s.drop 12).take 4 ++
    '-' :: (s.drop 16).take 4 ++ '-' :: s.drop 20)

/-! ## Streams -/

/-- The record streams of a store. -/
inductive Stream
  | facts
  | events
  | episodes
  deriving DecidableEq, Repr

/-- `STREAMS`. -/
def STREAMS : List Stream := [.facts, .events, .episodes]

theorem Stream.mem_STREAMS (s : Stream) : s ∈ STREAMS := by
  cases s <;> decide

def Stream.name : Stream → String
  | .facts => "facts"
  | .events => "events"
  | .episodes => "episodes"

/-- The stream a text names. -/
def Stream.ofName (s : String) : Option Stream := STREAMS.find? fun t => t.name = s

@[simp] theorem Stream.ofName_name (s : Stream) : Stream.ofName s.name = some s := by
  cases s <;> decide

/-- One value a stream. -/
structure PerStream (α : Type*) where
  facts : α
  events : α
  episodes : α
  deriving DecidableEq

namespace PerStream

variable {α β : Type*}

/-- The value of a stream. -/
def get (x : PerStream α) : Stream → α
  | .facts => x.facts
  | .events => x.events
  | .episodes => x.episodes

/-- A value for every stream. -/
def ofFn (f : Stream → α) : PerStream α := ⟨f .facts, f .events, f .episodes⟩

@[simp] theorem get_ofFn (f : Stream → α) (s : Stream) : (ofFn f).get s = f s := by
  cases s <;> rfl

@[ext] theorem ext_get {x y : PerStream α} (h : ∀ s, x.get s = y.get s) : x = y := by
  obtain ⟨x1, x2, x3⟩ := x
  obtain ⟨y1, y2, y3⟩ := y
  have h1 : x1 = y1 := h .facts
  have h2 : x2 = y2 := h .events
  have h3 : x3 = y3 := h .episodes
  rw [h1, h2, h3]

/-- A fallible computation for every stream, in order. -/
def tryFn {ε : Type*} (f : Stream → Except ε α) : Except ε (PerStream α) := do
  let x ← f .facts
  let y ← f .events
  let z ← f .episodes
  return ⟨x, y, z⟩

theorem tryFn_ok {ε : Type*} {f : Stream → Except ε α} {x : PerStream α} :
    tryFn f = .ok x ↔ ∀ s, f s = .ok (x.get s) := by
  constructor
  · intro h s
    rw [tryFn] at h
    cases h1 : f .facts with
    | error e => rw [h1] at h; cases h
    | ok a =>
      cases h2 : f .events with
      | error e => rw [h1, h2] at h; cases h
      | ok b =>
        cases h3 : f .episodes with
        | error e => rw [h1, h2, h3] at h; cases h
        | ok c =>
          rw [h1, h2, h3] at h
          cases h
          cases s <;> assumption
  · intro h
    rw [tryFn, h .facts, h .events, h .episodes]
    rfl

end PerStream

end AnKla
