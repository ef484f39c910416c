import Mathlib.Tactic.Common

/-!
# Procedures that may be killed

A procedure reads and changes a state, step by step. It returns, or it raises an error,
or the process is killed in one of its steps. An error and a kill may leave a part of
what the step does.

* `Fate`: what becomes of a step. A run is given the fates of its steps, in order.
* `Proc`: procedures, as a monad; `step`, `load`, `onError` and `sweep` build them.
* `Spec`: what holds where a procedure returns, raises or is killed, whatever the fates.
* `Spec.bind`, `Spec.onError`, ...: one rule for each way to build a procedure.
* `run_invariant`: what every call keeps, however it ends, a run of calls keeps.
-/

namespace Durable

/-- What becomes of a step: it is done, or so much of it is and it raises its error, or
    so much of it is and the process is killed. -/
inductive Fate
  | done
  | fails (k : ℕ)
  | dies (k : ℕ)

/-- How a procedure ends. -/
inductive Ending (ε α : Type)
  | returned (a : α)
  | raised (e : ε)
  | died

/-- A procedure. It takes the fates of its steps, and leaves those that it does not
    use. Without a fate, a step is done. -/
def Proc (σ ε α : Type) : Type := σ → List Fate → Ending ε α × σ × List Fate

namespace Proc

variable {σ ε α β : Type}

instance instMonad : Monad (Proc σ ε) where
  pure a := fun s fates => (.returned a, s, fates)
  bind c f := fun s fates =>
    match c s fates with
    | (.returned a, s', rest) => f a s' rest
    | (.raised e, s', rest) => (.raised e, s', rest)
    | (.died, s', rest) => (.died, s', rest)

/-- Raise an error. -/
def raise (e : ε) : Proc σ ε α := fun s fates => (.raised e, s, fates)

/-- Read the state. -/
def reads (f : σ → α) : Proc σ ε α := fun s fates => (.returned (f s), s, fates)

/-- Read the state, or refuse to. -/
def load (f : σ → Except ε α) : Proc σ ε α := fun s fates =>
  match f s with
  | .ok a => (.returned a, s, fates)
  | .error e => (.raised e, s, fates)

/-- Go on under a condition only. -/
def require (test : Bool) (e : ε) : Proc σ ε Unit := load fun _ => if test then .ok () else .error e

/-- A step, which may refuse. If its fate is to fail, it raises an error of its own, and
    a part of it is done. -/
def step (failure : ε) (exec : σ → Except ε σ) (part : ℕ → σ → σ) : Proc σ ε Unit
  | s, .fails k :: rest => (.raised failure, part k s, rest)
  | s, .dies k :: rest => (.died, part k s, rest)
  | s, .done :: rest =>
    match exec s with
    | .ok s' => (.returned (), s', rest)
    | .error e => (.raised e, s, rest)
  | s, [] =>
    match exec s with
    | .ok s' => (.returned (), s', [])
    | .error e => (.raised e, s, [])

/-- A step that is done as a whole or not at all. -/
def whole (failure : ε) (exec : σ → Except ε σ) : Proc σ ε Unit :=
  step failure exec fun k s => if k = 0 then s else (exec s).toOption.getD s

/-- A step that does not refuse, and is done as a whole or not at all. -/
def atomic (failure : ε) (f : σ → σ) : Proc σ ε Unit := whole failure fun s => .ok (f s)

/-- A step that changes nothing, and may fail: a lock, or a flush of the disk. -/
def sync (failure : ε) : Proc σ ε Unit := atomic failure id

/-- Clean up after an error, and raise it again. -/
def onError (c : Proc σ ε α) (cleanup : Proc σ ε Unit) : Proc σ ε α := fun s fates =>
  match c s fates with
  | (.returned a, s', rest) => (.returned a, s', rest)
  | (.raised e, s', rest) => (cleanup >>= fun _ => raise e) s' rest
  | (.died, s', rest) => (.died, s', rest)

/-- For each item of a list, in order. -/
def sweep (f : α → Proc σ ε Unit) : List α → Proc σ ε Unit
  | [] => pure ()
  | x :: xs => f x >>= fun _ => sweep f xs

/-! ## Specifications -/

/-- From a state of `P`, a procedure returns in a state of `Q`, raises in one of `E` and
    is killed in one of `C`. -/
structure Spec (P : σ → Prop) (c : Proc σ ε α) (Q : α → σ → Prop) (E C : σ → Prop) : Prop where
  returned : ∀ {s fates a s' rest}, P s → c s fates = (.returned a, s', rest) → Q a s'
  raised : ∀ {s fates e s' rest}, P s → c s fates = (.raised e, s', rest) → E s'
  died : ∀ {s fates s' rest}, P s → c s fates = (.died, s', rest) → C s'

/-- The procedure keeps an invariant, however it ends. -/
abbrev Keeps (I : σ → Prop) (c : Proc σ ε α) : Prop := Spec I c (fun _ => I) I I

namespace Spec

variable {P P' : σ → Prop} {Q Q' : α → σ → Prop} {R : β → σ → Prop} {E E' C C' : σ → Prop}
  {c : Proc σ ε α} {f : α → Proc σ ε β}

theorem weaken (h : Spec P c Q E C) (hP : ∀ s, P' s → P s) (hQ : ∀ a s, Q a s → Q' a s)
    (hE : ∀ s, E s → E' s) (hC : ∀ s, C s → C' s) : Spec P' c Q' E' C' where
  returned hs hc := hQ _ _ (h.returned (hP _ hs) hc)
  raised hs hc := hE _ (h.raised (hP _ hs) hc)
  died hs hc := hC _ (h.died (hP _ hs) hc)

theorem pre (h : Spec P c Q E C) (hP : ∀ s, P' s → P s) : Spec P' c Q E C :=
  h.weaken hP (fun _ _ => id) (fun _ => id) fun _ => id

theorem post (h : Spec P c Q E C) (hQ : ∀ a s, Q a s → Q' a s) : Spec P c Q' E C :=
  h.weaken (fun _ => id) hQ (fun _ => id) fun _ => id

/-- What follows from the state before is known of the whole run. -/
theorem of_pre {p : Prop} (hp : ∀ s, P s → p) (h : p → Spec P c Q E C) : Spec P c Q E C where
  returned hs hc := (h (hp _ hs)).returned hs hc
  raised hs hc := (h (hp _ hs)).raised hs hc
  died hs hc := (h (hp _ hs)).died hs hc

theorem pure {a : α} (h : ∀ s, P s → Q a s) : Spec P (Pure.pure a : Proc σ ε α) Q E C where
  returned hs hc := by
    cases hc
    exact h _ hs
  raised _ hc := by cases hc
  died _ hc := by cases hc

theorem raise {e : ε} (h : ∀ s, P s → E s) : Spec P (Proc.raise e : Proc σ ε α) Q E C where
  returned _ hc := by cases hc
  raised hs hc := by
    cases hc
    exact h _ hs
  died _ hc := by cases hc

theorem bind {M : α → σ → Prop} (hc : Spec P c M E C) (hf : ∀ a, Spec (M a) (f a) R E C) :
    Spec P (c >>= f) R E C := by
  refine ⟨fun {s fates b s' rest} hs h => ?_, fun {s fates e s' rest} hs h => ?_,
    fun {s fates s' rest} hs h => ?_⟩
  all_goals
    rcases hr : c s fates with ⟨a | e | _, s₁, rest₁⟩ <;> simp only [Bind.bind, hr] at h
  · exact (hf a).returned (hc.returned hs hr) h
  · cases h
  · cases h
  · exact (hf a).raised (hc.returned hs hr) h
  · cases h
    exact hc.raised hs hr
  · cases h
  · exact (hf a).died (hc.returned hs hr) h
  · cases h
  · cases h
    exact hc.died hs hr

theorem reads {g : σ → α} (h : ∀ s, P s → Q (g s) s) : Spec P (Proc.reads g : Proc σ ε α) Q E C where
  returned hs hc := by
    cases hc
    exact h _ hs
  raised _ hc := by cases hc
  died _ hc := by cases hc

/-- A reading, and what is done with what was read. -/
theorem reads_bind {g : σ → α} (h : ∀ a, Spec (fun s => P s ∧ g s = a) (f a) R E C) :
    Spec P (Proc.reads g >>= f) R E C :=
  bind (reads fun _ hs => ⟨hs, rfl⟩) h

theorem load {g : σ → Except ε α} (h : ∀ s a, P s → g s = .ok a → Q a s) (he : ∀ s, P s → E s) :
    Spec P (Proc.load g) Q E C where
  returned {s _ a _ _} hs hc := by
    rw [Proc.load] at hc
    cases hg : g s with
    | ok a =>
      rw [hg] at hc
      cases hc
      exact h s a hs hg
    | error e => rw [hg] at hc; cases hc
  raised {s _ _ _ _} hs hc := by
    rw [Proc.load] at hc
    cases hg : g s with
    | ok a => rw [hg] at hc; cases hc
    | error e =>
      rw [hg] at hc
      cases hc
      exact he s hs
  died {s _ _ _} hs hc := by
    rw [Proc.load] at hc
    cases hg : g s with
    | ok a => rw [hg] at hc; cases hc
    | error e => rw [hg] at hc; cases hc

theorem load_bind {g : σ → Except ε α} (he : ∀ s, P s → E s)
    (h : ∀ a, Spec (fun s => P s ∧ g s = .ok a) (f a) R E C) : Spec P (Proc.load g >>= f) R E C :=
  bind (load (fun _ _ hs hg => ⟨hs, hg⟩) he) h

theorem require_bind {test : Bool} {e : ε} {g : Unit → Proc σ ε β} (he : ∀ s, P s → E s)
    (h : test = true → Spec P (g ()) R E C) : Spec P (Proc.require test e >>= g) R E C := by
  refine bind (M := fun _ s => P s ∧ test = true) (load (fun s _ hs hg => ⟨hs, ?_⟩) he) fun u => ?_
  · by_contra ht
    rw [if_neg ht] at hg
    cases hg
  · exact of_pre (fun _ hs => hs.2) fun ht => (h ht).pre fun _ hs => hs.1

theorem step {failure : ε} {exec : σ → Except ε σ} {part : ℕ → σ → σ} {Q : Unit → σ → Prop}
    (h : ∀ s s', P s → exec s = .ok s' → Q () s') (he : ∀ s, P s → E s)
    (hp : ∀ s k, P s → E (part k s) ∧ C (part k s)) : Spec P (Proc.step failure exec part) Q E C := by
  have hdone {s : σ} {rest : List Fate} {r : Ending ε Unit × σ × List Fate} (hs : P s)
      (hr : (match exec s with
        | .ok s' => (Ending.returned (), s', rest)
        | .error e => (.raised e, s, rest)) = r) :
      (∃ s', r = (.returned (), s', rest) ∧ Q () s') ∨ ∃ e, r = (.raised e, s, rest) ∧ E s := by
    subst hr
    cases hx : exec s with
    | ok s' => exact .inl ⟨s', rfl, h s s' hs hx⟩
    | error e => exact .inr ⟨e, rfl, he s hs⟩
  refine ⟨fun {s fates a s' rest} hs hc => ?_, fun {s fates e s' rest} hs hc => ?_,
    fun {s fates s' rest} hs hc => ?_⟩
  all_goals
    rcases fates with _ | ⟨_ | k | k, fates⟩
    · obtain ⟨_, hr, hq⟩ | ⟨_, hr, hq⟩ := hdone hs hc <;> cases hr
      try exact hq
    · obtain ⟨_, hr, hq⟩ | ⟨_, hr, hq⟩ := hdone hs hc <;> cases hr
      try exact hq
    · cases hc
      try exact (hp s k hs).1
    · cases hc
      try exact (hp s k hs).2

theorem whole {failure : ε} {exec : σ → Except ε σ} {Q : Unit → σ → Prop}
    (h : ∀ s s', P s → exec s = .ok s' → Q () s' ∧ E s' ∧ C s') (he : ∀ s, P s → E s ∧ C s) :
    Spec P (Proc.whole failure exec) Q E C := by
  refine step (fun s s' hs hx => (h s s' hs hx).1) (fun s hs => (he s hs).1) fun s k hs => ?_
  split_ifs
  · exact he s hs
  · cases hx : exec s with
    | error e => exact he s hs
    | ok s' => exact (h s s' hs hx).2

theorem atomic {failure : ε} {g : σ → σ} {Q : Unit → σ → Prop}
    (h : ∀ s, P s → Q () (g s) ∧ E (g s) ∧ C (g s)) (he : ∀ s, P s → E s ∧ C s) :
    Spec P (Proc.atomic failure g) Q E C :=
  whole (fun s s' hs hx => by cases hx; exact h s hs) he

theorem sync {failure : ε} {Q : Unit → σ → Prop} (h : ∀ s, P s → Q () s ∧ E s ∧ C s) :
    Spec P (Proc.sync failure) Q E C :=
  atomic h fun s hs => (h s hs).2

theorem onError {cleanup : Proc σ ε Unit} (hc : Spec P c Q E' C)
    (hcleanup : Spec E' cleanup (fun _ => E) E C) : Spec P (Proc.onError c cleanup) Q E C := by
  refine ⟨fun {s fates a s' rest} hs h => ?_, fun {s fates e s' rest} hs h => ?_,
    fun {s fates s' rest} hs h => ?_⟩
  all_goals
    rw [Proc.onError] at h
    rcases hr : c s fates with ⟨a | e | _, s₁, rest₁⟩ <;> simp only [hr] at h
  · cases h
    exact hc.returned hs hr
  · exact absurd ((bind hcleanup fun _ => raise (Q := fun (_ : α) _ => False) fun _ h => h).returned
      (hc.raised hs hr) h) id
  · cases h
  · cases h
  · exact (bind hcleanup fun _ => raise (Q := fun (_ : α) _ => False) fun _ h => h).raised
      (hc.raised hs hr) h
  · cases h
  · cases h
  · exact (bind hcleanup fun _ => raise (Q := fun (_ : α) _ => False) fun _ h => h).died
      (hc.raised hs hr) h
  · cases h
    exact hc.died hs hr

/-- A loop. What holds after some of the items carries it. -/
theorem sweep {I : List α → σ → Prop} {g : α → Proc σ ε Unit} {xs : List α}
    (h : ∀ pre x post, xs = pre ++ x :: post → Spec (I pre) (g x) (fun _ => I (pre ++ [x])) E C) :
    Spec (I []) (Proc.sweep g xs) (fun _ => I xs) E C := by
  have hrest : ∀ pre post, xs = pre ++ post →
      Spec (I pre) (Proc.sweep g post) (fun _ => I xs) E C := by
    intro pre post
    induction post generalizing pre with
    | nil =>
      rintro rfl
      rw [List.append_nil]
      exact pure fun _ => id
    | cons x post ih =>
      intro hxs
      exact bind (h pre x post hxs) fun _ => ih (pre ++ [x]) (by rw [hxs, List.append_assoc]; rfl)
  exact hrest [] xs rfl

/-- A loop whose body keeps an invariant. -/
theorem sweep_keeps {I : σ → Prop} {g : α → Proc σ ε Unit} {xs : List α}
    (h : ∀ x ∈ xs, Spec I (g x) (fun _ => I) E C) :
    Spec I (Proc.sweep g xs) (fun _ => I) E C :=
  sweep (I := fun _ => I) fun _ x _ hx => h x (by rw [hx]; simp)

end Spec

/-! ## Calls -/

/-- Calls one after the other, each on what the one before has left. -/
def run (calls : List (Proc σ ε α × List Fate)) (s : σ) : σ :=
  calls.foldl (fun s call => (call.1 s call.2).2.1) s

/-- Wherever it ends, a call that keeps an invariant leaves it. -/
theorem Spec.kept {I : σ → Prop} {c : Proc σ ε α} (h : Keeps I c) {s : σ} (hs : I s)
    (fates : List Fate) : I (c s fates).2.1 := by
  rcases hr : c s fates with ⟨a | e | _, s', rest⟩
  · exact h.returned hs hr
  · exact h.raised hs hr
  · exact h.died hs hr

/-- What every call keeps, however it ends, a run of calls keeps. -/
theorem run_invariant {I : σ → Prop} {calls : List (Proc σ ε α × List Fate)} {s : σ}
    (h : ∀ call ∈ calls, Keeps I call.1) (hs : I s) : I (run calls s) := by
  induction calls generalizing s with
  | nil => exact hs
  | cons call calls ih =>
    exact ih (fun c hc => h c (List.mem_cons_of_mem _ hc))
      ((h call List.mem_cons_self).kept hs call.2)

end Proc

end Durable
