import AnKla.Durable.Disk

/-!
# Interruptible writes

A durable operation is a list of writes, performed in order. It may stop at any
of them, by the death of the process or by an error of the file system, and a
write that stops may have left part of what it writes.

* `Write.replace`: write a temporary file and rename it. It is done or it is not.
* `Write.create`: create a file that must not exist. A file of the same content
  is accepted, another one is moved aside first. An interruption may leave the
  file cut.
* `Write.remove`: remove a file.
* `Write.check`: a read that may refuse.
* `perform`: a list of writes with at most one fault.
* `perform_invariant`: what every write keeps, finished or not, a run keeps,
  wherever it stops.
-/

namespace Durable

variable {P C ε : Type*} [DecidableEq P] [DecidableEq C]

/-- What the operations need to know of the file system. -/
structure Fs (P C ε : Type*) [DecidableEq P] where
  /-- Move a conflicting file out of the way, or refuse to. -/
  conflict : Disk P C → P → Except ε (Disk P C)
  /-- A content of which only so many bytes were written. -/
  cut : C → ℕ → C
  /-- The paths that conflicting files are moved to. -/
  aside : P → Prop
  /-- Moving a file frees its path and touches no other path outside of `aside`. -/
  conflict_spec : ∀ {d d' p}, conflict d p = .ok d' →
    d'.read p = none ∧ ∀ q, q ≠ p → ¬aside q → d'.read q = d.read q

/-- One write. -/
inductive Write (P C ε : Type*) [DecidableEq P]
  /-- Replace a file atomically. -/
  | replace (p : P) (c : C)
  /-- Create a file, or find it there with the same content. -/
  | create (p : P) (c : C)
  /-- Remove a file, if it is there. -/
  | remove (p : P)
  /-- Read, and refuse to go on. -/
  | check (f : Disk P C → Except ε Unit)

/-- Where a write stops. -/
inductive Point
  | before
  /-- A conflicting file has been moved aside, nothing has been written. -/
  | moved
  /-- So many bytes have been written. -/
  | torn (k : ℕ)
  | after
  deriving DecidableEq

/-- How a list of writes ended, and after how many of them. -/
inductive Progress (ε : Type*)
  | done
  | stopped (n : ℕ)
  | failed (n : ℕ) (e : ε)
  deriving DecidableEq

/-- One more write was done before. -/
def Progress.succ : Progress ε → Progress ε
  | .done => .done
  | .stopped n => .stopped (n + 1)
  | .failed n e => .failed (n + 1) e

/-- The write that a run stops at, and where in it. -/
abbrev Fault := ℕ × Point

namespace Write

variable (fs : Fs P C ε)

/-- Free the path of a file to create, unless the file is there already. -/
def clear (p : P) (c : C) (d : Disk P C) : Except ε (Disk P C) :=
  match d.read p with
  | none => .ok d
  | some c' => if c' = c then .ok d else fs.conflict d p

/-- Write at a freed path, unless the content to end up there is there already. -/
def place (p : P) (whole c : C) (d : Disk P C) : Disk P C :=
  if d.read p = some whole then d else d.write p c

/-- What a write does when nothing goes wrong. -/
def exec : Write P C ε → Disk P C → Except ε (Disk P C)
  | .replace p c, d => .ok (d.write p c)
  | .create p c, d => (clear fs p c d).map (place p c c)
  | .remove p, d => .ok (d.remove p)
  | .check f, d => (f d).map fun _ => d

/-- What a write leaves when it stops at a point. -/
def left : Write P C ε → Point → Disk P C → Disk P C
  | _, .before, d => d
  | .create p c, .moved, d => (clear fs p c d).toOption.getD d
  | .create p c, .torn k, d =>
    ((clear fs p c d).map (place p c (fs.cut c k))).toOption.getD d
  | _, .moved, d => d
  | _, .torn _, d => d
  | w, .after, d => (w.exec fs d).toOption.getD d

/-- The path a write writes. -/
def target : Write P C ε → Option P
  | .replace p _ => some p
  | .create p _ => some p
  | .remove p => some p
  | .check _ => none

/-- Finished or not, the write keeps an invariant. -/
def Keeps (I : Disk P C → Prop) (w : Write P C ε) : Prop :=
  ∀ d, I d → (∀ d', w.exec fs d = .ok d' → I d') ∧ ∀ pt, I (w.left fs pt d)

variable {fs}

theorem place_frame {p q : P} (whole c : C) (d : Disk P C) (h : q ≠ p) :
    (place p whole c d).read q = d.read q := by
  rw [place]
  split_ifs
  · rfl
  · exact Disk.read_write_ne c h

theorem place_self (p : P) (whole c : C) (d : Disk P C) :
    (place p whole c d).read p = some whole ∨ (place p whole c d).read p = some c := by
  rw [place]
  split_ifs with h
  · exact .inl h
  · exact .inr (Disk.read_write d p c)

theorem clear_spec {p : P} {c : C} {d d' : Disk P C} (h : clear fs p c d = .ok d') :
    (d' = d ∧ d.read p = some c) ∨
      (d'.read p = none ∧ ∀ q, q ≠ p → ¬fs.aside q → d'.read q = d.read q) := by
  rw [clear] at h
  split at h
  · next hp =>
    cases h
    exact .inr ⟨hp, fun _ _ _ => rfl⟩
  · next c' hp =>
    split_ifs at h with hc
    · cases h
      exact .inl ⟨rfl, hc ▸ hp⟩
    · exact .inr (fs.conflict_spec h)

theorem clear_frame {p q : P} {c : C} {d d' : Disk P C} (h : clear fs p c d = .ok d')
    (hq : q ≠ p) (ha : ¬fs.aside q) : d'.read q = d.read q := by
  obtain ⟨rfl, -⟩ | ⟨-, hf⟩ := clear_spec h
  · rfl
  · exact hf q hq ha

/-- A write that is done leaves all paths but its own, and the moved files. -/
theorem exec_frame {w : Write P C ε} {q : P} {d d' : Disk P C} (h : w.exec fs d = .ok d')
    (hq : w.target ≠ some q) (ha : ¬fs.aside q) : d'.read q = d.read q := by
  cases w with
  | replace p c =>
    cases h
    exact Disk.read_write_ne c fun hqp => hq (congrArg some hqp.symm)
  | create p c =>
    have hqp : q ≠ p := fun hqp => hq (congrArg some hqp.symm)
    rw [exec] at h
    cases hcl : clear fs p c d with
    | error e => rw [hcl] at h; cases h
    | ok e =>
      rw [hcl] at h
      cases h
      rw [← clear_frame hcl hqp ha]
      exact place_frame c c e hqp
  | remove p =>
    cases h
    exact Disk.read_remove_ne fun hqp => hq (congrArg some hqp.symm)
  | check f =>
    rw [exec] at h
    cases hf : f d with
    | error e => rw [hf] at h; cases h
    | ok u => rw [hf] at h; cases h; rfl

/-- What a stopped write leaves differs at its own path only, and in moved files. -/
theorem left_frame {w : Write P C ε} {pt : Point} {q : P} {d : Disk P C}
    (hq : w.target ≠ some q) (ha : ¬fs.aside q) : (w.left fs pt d).read q = d.read q := by
  have after : ((w.exec fs d).toOption.getD d).read q = d.read q := by
    cases h : w.exec fs d with
    | error e => rfl
    | ok d' => exact exec_frame h hq ha
  cases pt with
  | before => rw [left]
  | after => simpa only [left] using after
  | moved =>
    cases w with
    | replace => rfl
    | remove => rfl
    | check => rfl
    | create p c =>
      have hqp : q ≠ p := fun hqp => hq (congrArg some hqp.symm)
      rw [left]
      cases h : clear fs p c d with
      | error e => rfl
      | ok d' => exact clear_frame h hqp ha
  | torn k =>
    cases w with
    | replace => rfl
    | remove => rfl
    | check => rfl
    | create p c =>
      have hqp : q ≠ p := fun hqp => hq (congrArg some hqp.symm)
      rw [left]
      cases h : clear fs p c d with
      | error e => rfl
      | ok d' =>
        simp only [Except.map, Except.toOption, Option.getD_some]
        rw [← clear_frame h hqp ha]
        exact place_frame c _ d' hqp

/-- A write that is done has written its content. -/
theorem exec_target {w : Write P C ε} {p : P} {c : C} {d d' : Disk P C}
    (hw : w = .replace p c ∨ w = .create p c) (h : w.exec fs d = .ok d') :
    d'.read p = some c := by
  obtain rfl | rfl := hw
  · cases h
    exact Disk.read_write d p c
  · rw [exec] at h
    cases hcl : clear fs p c d with
    | error e => rw [hcl] at h; cases h
    | ok e =>
      rw [hcl] at h
      cases h
      exact (place_self p c c e).elim id id

/-- What a stopped creation leaves at its path: what was there, nothing, a cut
    content or the content. -/
theorem left_create (fs : Fs P C ε) (p : P) (c : C) (pt : Point) (d : Disk P C) :
    ((create p c : Write P C ε).left fs pt d).read p = d.read p ∨
      ((create p c : Write P C ε).left fs pt d).read p = none ∨
      (∃ k, ((create p c : Write P C ε).left fs pt d).read p = some (fs.cut c k)) ∨
      ((create p c : Write P C ε).left fs pt d).read p = some c := by
  cases pt with
  | before => exact .inl rfl
  | moved =>
    rw [left]
    cases h : clear fs p c d with
    | error e => exact .inl rfl
    | ok d' =>
      obtain ⟨rfl, hd⟩ | ⟨hn, -⟩ := clear_spec h
      · exact .inl rfl
      · exact .inr (.inl hn)
  | torn k =>
    rw [left]
    cases h : clear fs p c d with
    | error e => exact .inl rfl
    | ok d' =>
      simp only [Except.map, Except.toOption, Option.getD_some]
      obtain h | h := place_self p c (fs.cut c k) d'
      · exact .inr (.inr (.inr h))
      · exact .inr (.inr (.inl ⟨k, h⟩))
  | after =>
    rw [left]
    cases h : (create p c : Write P C ε).exec fs d with
    | error e => exact .inl rfl
    | ok d' => exact .inr (.inr (.inr (exec_target (.inr rfl) h)))

end Write

/-! ## Runs of writes -/

variable (fs : Fs P C ε)

/-- Writes in order, with at most one fault. A write that refuses ends the run
    too. -/
def perform : List (Write P C ε) → Option Fault → Disk P C → Disk P C × Progress ε
  | [], _, d => (d, .done)
  | w :: _, some (0, pt), d => (w.left fs pt d, .stopped 0)
  | w :: ws, some (n + 1, pt), d =>
    match w.exec fs d with
    | .error e => (d, .failed 0 e)
    | .ok d' => ((perform ws (some (n, pt)) d').1, (perform ws (some (n, pt)) d').2.succ)
  | w :: ws, none, d =>
    match w.exec fs d with
    | .error e => (d, .failed 0 e)
    | .ok d' => ((perform ws none d').1, (perform ws none d').2.succ)

variable {fs}

/-- What every write keeps, finished or not, a run keeps, wherever it stops. -/
theorem perform_invariant {I : Disk P C → Prop} {ws : List (Write P C ε)} (f : Option Fault)
    {d : Disk P C} (hws : ∀ w ∈ ws, w.Keeps fs I) (hd : I d) : I (perform fs ws f d).1 := by
  induction ws generalizing f d with
  | nil => simpa [perform] using hd
  | cons w ws ih =>
    have hw := hws w List.mem_cons_self d hd
    have ih (f : Option Fault) {d' : Disk P C} (hd' : I d') : I (perform fs ws f d').1 :=
      ih f (fun w' hw' => hws w' (List.mem_cons_of_mem _ hw')) hd'
    match f with
    | some (0, pt) =>
      rw [perform]
      exact hw.2 pt
    | some (n + 1, pt) =>
      rw [perform]
      split
      · exact hd
      · next d' h => exact ih _ (hw.1 d' h)
    | none =>
      rw [perform]
      split
      · exact hd
      · next d' h => exact ih _ (hw.1 d' h)

/-- A path that no write of a run writes, and no file is moved to, is left alone. -/
theorem perform_frame {ws : List (Write P C ε)} (f : Option Fault) {d : Disk P C} {q : P}
    (hws : ∀ w ∈ ws, w.target ≠ some q) (ha : ¬fs.aside q) :
    (perform fs ws f d).1.read q = d.read q := by
  refine perform_invariant (I := fun e => e.read q = d.read q) f (fun w hw e he => ?_) rfl
  exact ⟨fun e' h => (Write.exec_frame h (hws w hw) ha).trans he,
    fun pt => (Write.left_frame (hws w hw) ha).trans he⟩

end Durable
