import AnKla.Durable.Write

/-!
# Where a run stops

What a disk holds after a list of writes of which some were done.

* `execs`: all the writes, none of which refuses.
* `perform_split`: a run is done, or it stopped in one write, or one refused;
  the writes before were done.
* `keeps_content`: a file that is only ever created with one content keeps it.
* `perform_reached`: a run that has changed a path has done the writes before.
* `Traces`: what runs of one list of writes, stopped anywhere, leave behind.
* `perform_contents`: what is true of every content that is written.
-/

namespace Durable

variable {P C ε : Type*} [DecidableEq P] [DecidableEq C] (fs : Fs P C ε)

/-- All the writes in order, none of which refuses. -/
def execs : List (Write P C ε) → Disk P C → Except ε (Disk P C)
  | [], d => .ok d
  | w :: ws, d =>
    match w.exec fs d with
    | .error e => .error e
    | .ok d' => execs ws d'

variable {fs}

theorem execs_cons {w : Write P C ε} {ws : List (Write P C ε)} {d d' : Disk P C} :
    execs fs (w :: ws) d = .ok d' ↔ ∃ e, w.exec fs d = .ok e ∧ execs fs ws e = .ok d' := by
  rw [execs]
  cases h : w.exec fs d with
  | error e => simp
  | ok e => simp

theorem execs_append {ws vs : List (Write P C ε)} {d d' : Disk P C} :
    execs fs (ws ++ vs) d = .ok d' ↔ ∃ e, execs fs ws d = .ok e ∧ execs fs vs e = .ok d' := by
  induction ws generalizing d with
  | nil => simp [execs]
  | cons w ws ih =>
    simp only [List.cons_append, execs_cons, ih]
    constructor
    · rintro ⟨e, he, e', he', h⟩
      exact ⟨e', ⟨e, he, he'⟩, h⟩
    · rintro ⟨e', ⟨e, he, he'⟩, h⟩
      exact ⟨e, he, e', he', h⟩

/-- What every write keeps when it is done, all of them keep. -/
theorem execs_invariant {I : Disk P C → Prop} {ws : List (Write P C ε)} {d d' : Disk P C}
    (hws : ∀ w ∈ ws, ∀ e e', I e → w.exec fs e = .ok e' → I e')
    (h : execs fs ws d = .ok d') (hd : I d) : I d' := by
  induction ws generalizing d with
  | nil =>
    cases h
    exact hd
  | cons w ws ih =>
    obtain ⟨e, he, h⟩ := execs_cons.1 h
    exact ih (fun v hv => hws v (List.mem_cons_of_mem _ hv)) h
      (hws w List.mem_cons_self d e hd he)

theorem execs_frame {ws : List (Write P C ε)} {d d' : Disk P C} {q : P}
    (h : execs fs ws d = .ok d') (hws : ∀ w ∈ ws, w.target ≠ some q) (ha : ¬fs.aside q) :
    d'.read q = d.read q :=
  execs_invariant (I := fun e => e.read q = d.read q)
    (fun w hw _ _ he hexec => (Write.exec_frame hexec (hws w hw) ha).trans he) h rfl

/-- A run without a fault, of writes that do not refuse. -/
theorem perform_execs {ws : List (Write P C ε)} {d d' : Disk P C} (h : execs fs ws d = .ok d') :
    perform fs ws none d = (d', .done) := by
  induction ws generalizing d with
  | nil =>
    cases h
    rfl
  | cons w ws ih =>
    obtain ⟨e, he, h⟩ := execs_cons.1 h
    rw [perform, he]
    simp only [ih h, Progress.succ]

/-- How a run of writes ended. -/
inductive Ended (fs : Fs P C ε) (ws : List (Write P C ε)) (f : Option Fault) (d : Disk P C) :
    Disk P C → Progress ε → Prop
  | done {d'} (all : execs fs ws d = .ok d') : Ended fs ws f d d' .done
  | stopped (pre) {w post e pt} (split : ws = pre ++ w :: post) (before : execs fs pre d = .ok e)
      (fault : f = some (pre.length, pt)) :
      Ended fs ws f d (w.left fs pt e) (.stopped pre.length)
  | failed (pre) {w post e err} (split : ws = pre ++ w :: post) (before : execs fs pre d = .ok e)
      (refused : w.exec fs e = .error err) : Ended fs ws f d e (.failed pre.length err)

theorem Ended.cons {w : Write P C ε} {ws : List (Write P C ε)} {f g : Option Fault}
    {d e d' : Disk P C} {p : Progress ε} (hw : w.exec fs d = .ok e)
    (hf : ∀ n pt, f = some (n, pt) → g = some (n + 1, pt))
    (h : Ended fs ws f e d' p) : Ended fs (w :: ws) g d d' p.succ := by
  cases h with
  | done all => exact .done (execs_cons.2 ⟨e, hw, all⟩)
  | @stopped pre v post e' pt split before fault =>
    subst split
    exact .stopped (w :: pre) rfl (execs_cons.2 ⟨e, hw, before⟩) (hf _ _ fault)
  | @failed pre v post e' err split before refused =>
    subst split
    exact .failed (w :: pre) rfl (execs_cons.2 ⟨e, hw, before⟩) refused

/-- A run is done, or it stopped in one write, or one refused. -/
theorem perform_split (ws : List (Write P C ε)) (f : Option Fault) (d : Disk P C) :
    Ended fs ws f d (perform fs ws f d).1 (perform fs ws f d).2 := by
  induction ws generalizing f d with
  | nil => exact .done rfl
  | cons w ws ih =>
    match f with
    | some (0, pt) => exact .stopped [] rfl rfl rfl
    | some (n + 1, pt) =>
      rw [perform]
      split
      · next err h => exact .failed [] rfl rfl h
      · next e h =>
        refine (ih (some (n, pt)) e).cons h fun m pt' hm => ?_
        cases hm
        rfl
    | none =>
      rw [perform]
      split
      · next err h => exact .failed [] rfl rfl h
      · next e h =>
        refine (ih none e).cons h fun m pt' hm => ?_
        cases hm

/-- The part of a fault that falls after so many writes. -/
def faultAfter (n : ℕ) : Option Fault → Option Fault :=
  Option.map fun f => (f.1 - n, f.2)

/-- A run either stops in its first part, or does it and goes on. -/
theorem perform_append (pre post : List (Write P C ε)) (f : Option Fault) (d : Disk P C) :
    (perform fs (pre ++ post) f d).1 = (perform fs pre f d).1 ∨
      ∃ e, execs fs pre d = .ok e ∧
        (perform fs (pre ++ post) f d).1 = (perform fs post (faultAfter pre.length f) e).1 := by
  induction pre generalizing f d with
  | nil =>
    refine .inr ⟨d, rfl, ?_⟩
    cases f with
    | none => rfl
    | some f => rfl
  | cons w pre ih =>
    match f with
    | some (0, pt) => exact .inl rfl
    | some (n + 1, pt) =>
      rw [List.cons_append, perform, perform]
      split
      · exact .inl rfl
      · next e h =>
        obtain hi | ⟨e', he, hi⟩ := ih (some (n, pt)) e
        · exact .inl hi
        · refine .inr ⟨e', execs_cons.2 ⟨e, h, he⟩, ?_⟩
          simpa [faultAfter] using hi
    | none =>
      rw [List.cons_append, perform, perform]
      split
      · exact .inl rfl
      · next e h =>
        obtain hi | ⟨e', he, hi⟩ := ih none e
        · exact .inl hi
        · exact .inr ⟨e', execs_cons.2 ⟨e, h, he⟩, hi⟩

/-- A run that has changed a path has done the writes before the ones that write it. -/
theorem perform_reached {pre post : List (Write P C ε)} {f : Option Fault} {d : Disk P C} {q : P}
    (hpre : ∀ w ∈ pre, w.target ≠ some q) (ha : ¬fs.aside q)
    (hne : (perform fs (pre ++ post) f d).1.read q ≠ d.read q) :
    ∃ e, execs fs pre d = .ok e ∧
      (perform fs (pre ++ post) f d).1 = (perform fs post (faultAfter pre.length f) e).1 := by
  have hsplit : (perform fs (pre ++ post) f d).1 = (perform fs pre f d).1 ∨ _ :=
    perform_append pre post f d
  obtain h | h := hsplit
  · rw [h, perform_frame f hpre ha] at hne
    exact absurd rfl hne
  · exact h

/-! ## Files that are only created -/

namespace Write

/-- A write leaves what a path that is not its own reads as. -/
theorem keeps_read {w : Write P C ε} {p : P} {x : Option C} (hw : w.target ≠ some p)
    (ha : ¬fs.aside p) : w.Keeps fs fun e => e.read p = x := fun _ he =>
  ⟨fun _ h => (exec_frame h hw ha).trans he, fun _ => (left_frame hw ha).trans he⟩

/-- A write of another path keeps what is true of the content of a path. -/
theorem keeps_of_target {w : Write P C ε} {p : P} {I : Option C → Prop} (hw : w.target ≠ some p)
    (ha : ¬fs.aside p) : w.Keeps fs fun e => I (e.read p) := by
  intro e he
  refine ⟨fun e' h => ?_, fun pt => ?_⟩
  · show I (e'.read p)
    rw [exec_frame h hw ha]
    exact he
  · show I ((w.left fs pt e).read p)
    rw [left_frame hw ha]
    exact he

/-- A replaced file holds its old content or the new one. -/
theorem keeps_replace {p : P} {c : C} {I : Option C → Prop} (hc : I (some c)) :
    (Write.replace p c : Write P C ε).Keeps fs fun e => I (e.read p) := by
  intro e he
  refine ⟨fun e' h => ?_, fun pt => ?_⟩
  · have hr := exec_target (.inl rfl) h
    show I (e'.read p)
    rw [hr]
    exact hc
  · cases pt with
    | after =>
      show I ((e.write p c).read p)
      rw [Disk.read_write]
      exact hc
    | _ => exact he

/-- The write puts nothing but one content at a path, and only creates it there. -/
def OnlyCreates (p : P) (c : C) (w : Write P C ε) : Prop := w.target = some p → w = .create p c

/-- A file that is only created with one content keeps it. -/
theorem keeps_content {p : P} {c : C} {w : Write P C ε} (hw : w.OnlyCreates p c)
    (ha : ¬fs.aside p) : w.Keeps fs fun d => d.read p = some c := by
  intro d hd
  by_cases ht : w.target = some p
  · obtain rfl := hw ht
    have hclear : clear fs p c d = .ok d := by
      rw [clear, hd]
      exact if_pos rfl
    have hplace (c' : C) : place p c c' d = d := by rw [place, if_pos hd]
    refine ⟨fun d' h => exec_target (.inr rfl) h, fun pt => ?_⟩
    cases pt with
    | before => exact hd
    | moved =>
      rw [left, hclear]
      exact hd
    | torn k =>
      rw [left, hclear]
      simp only [Except.map, hplace]
      exact hd
    | after =>
      rw [left, exec, hclear]
      simp only [Except.map, hplace]
      exact hd
  · exact ⟨fun d' h => (exec_frame h ht ha).trans hd, fun pt => (left_frame ht ha).trans hd⟩

end Write

/-- A run keeps a file that its writes only create with the content it has. -/
theorem perform_content {ws : List (Write P C ε)} (f : Option Fault) {d : Disk P C} {p : P} {c : C}
    (hws : ∀ w ∈ ws, w.OnlyCreates p c) (ha : ¬fs.aside p) (hd : d.read p = some c) :
    (perform fs ws f d).1.read p = some c :=
  perform_invariant f (fun w hw => Write.keeps_content (hws w hw) ha) hd

theorem execs_content {ws : List (Write P C ε)} {d d' : Disk P C} {p : P} {c : C}
    (h : execs fs ws d = .ok d') (hws : ∀ w ∈ ws, w.OnlyCreates p c) (ha : ¬fs.aside p)
    (hd : d.read p = some c) : d'.read p = some c :=
  execs_invariant (I := fun e => e.read p = some c)
    (fun w hw e e' he hexec => (Write.keeps_content (hws w hw) ha e he).1 e' hexec) h hd

/-- After all the writes, the files that were created are there. -/
theorem execs_created {ws : List (Write P C ε)} {d d' : Disk P C} {p : P} {c : C}
    (h : execs fs ws d = .ok d') (hmem : Write.create p c ∈ ws)
    (hws : ∀ w ∈ ws, w.OnlyCreates p c) (ha : ¬fs.aside p) : d'.read p = some c := by
  obtain ⟨pre, post, rfl⟩ := List.append_of_mem hmem
  obtain ⟨e, -, h⟩ := execs_append.1 h
  obtain ⟨e', he, h⟩ := execs_cons.1 h
  refine execs_content h (fun w hw => hws w ?_) ha (Write.exec_target (.inr rfl) he)
  exact List.mem_append_right _ (List.mem_cons_of_mem _ hw)

/-! ## What interrupted runs leave -/

/-- What a write can leave at a path. -/
def Write.Trace (fs : Fs P C ε) (p : P) (found : Option C) : Write P C ε → Prop
  | .replace q c => q = p ∧ found = some c
  | .create q c => q = p ∧ (found = some c ∨ found = none ∨ ∃ k, found = some (fs.cut c k))
  | .remove q => q = p ∧ found = none
  | .check _ => False

/-- Every path is as it was, or as one of the writes can have left it. -/
def Traces (fs : Fs P C ε) (ws : List (Write P C ε)) (d₀ d : Disk P C) : Prop :=
  ∀ p, ¬fs.aside p → d.read p = d₀.read p ∨ ∃ w ∈ ws, w.Trace fs p (d.read p)

omit [DecidableEq C] in
theorem Traces.refl (ws : List (Write P C ε)) (d : Disk P C) : Traces fs ws d d :=
  fun _ _ => .inl rfl

/-- A write leaves at its path what was there, or a trace of it. -/
theorem Write.trace_left {w : Write P C ε} {p : P} (ht : w.target = some p) (pt : Point)
    (d : Disk P C) : (w.left fs pt d).read p = d.read p ∨ w.Trace fs p ((w.left fs pt d).read p) := by
  cases w with
  | replace q c =>
    obtain rfl : q = p := Option.some.inj ht
    cases pt with
    | after => exact .inr ⟨rfl, Disk.read_write d q c⟩
    | _ => exact .inl rfl
  | create q c =>
    obtain rfl : q = p := Option.some.inj ht
    obtain h | h | h | h := left_create fs q c pt d
    · exact .inl h
    · exact .inr ⟨rfl, .inr (.inl h)⟩
    · exact .inr ⟨rfl, .inr (.inr h)⟩
    · exact .inr ⟨rfl, .inl h⟩
  | remove q =>
    obtain rfl : q = p := Option.some.inj ht
    cases pt with
    | after => exact .inr ⟨rfl, Disk.read_remove d q⟩
    | _ => exact .inl rfl
  | check f => cases ht

theorem Write.trace_exec {w : Write P C ε} {p : P} {d d' : Disk P C} (ht : w.target = some p)
    (h : w.exec fs d = .ok d') : w.Trace fs p (d'.read p) := by
  cases w with
  | replace q c =>
    obtain rfl : q = p := Option.some.inj ht
    exact ⟨rfl, exec_target (.inl rfl) h⟩
  | create q c =>
    obtain rfl : q = p := Option.some.inj ht
    exact ⟨rfl, .inl (exec_target (.inr rfl) h)⟩
  | remove q =>
    obtain rfl : q = p := Option.some.inj ht
    cases h
    exact ⟨rfl, Disk.read_remove d q⟩
  | check f => cases ht

/-- Another run of the writes leaves traces of them, wherever it stops. -/
theorem Traces.perform {ws : List (Write P C ε)} {d₀ d : Disk P C} (h : Traces fs ws d₀ d)
    (f : Option Fault) : Traces fs ws d₀ (perform fs ws f d).1 := by
  refine perform_invariant f (fun w hw e he => ⟨fun e' hexec p ha => ?_, fun pt p ha => ?_⟩) h
  · by_cases ht : w.target = some p
    · exact .inr ⟨w, hw, Write.trace_exec ht hexec⟩
    · rw [Write.exec_frame hexec ht ha]
      exact he p ha
  · by_cases ht : w.target = some p
    · obtain hl | hl := Write.trace_left ht pt e
      · rw [hl]
        exact he p ha
      · exact .inr ⟨w, hw, hl⟩
    · rw [Write.left_frame ht ha]
      exact he p ha

omit [DecidableEq C] in
/-- A path that no write has is as it was. -/
theorem Traces.frame {ws : List (Write P C ε)} {d₀ d : Disk P C} (h : Traces fs ws d₀ d) {p : P}
    (ha : ¬fs.aside p) (hws : ∀ w ∈ ws, w.target ≠ some p) : d.read p = d₀.read p := by
  obtain h | ⟨w, hw, h⟩ := h p ha
  · exact h
  · cases w with
    | replace q c => exact absurd (congrArg some h.1) (hws _ hw)
    | create q c => exact absurd (congrArg some h.1) (hws _ hw)
    | remove q => exact absurd (congrArg some h.1) (hws _ hw)
    | check f => exact absurd h id

/-- What is true of every content, and of every cut one, a run keeps true. -/
theorem perform_contents {W : P → C → Prop} {ws : List (Write P C ε)} (f : Option Fault)
    {d : Disk P C} (hws : ∀ w ∈ ws, ∀ p c, w = .replace p c ∨ w = .create p c → W p c)
    (hcut : ∀ p c k, Write.create p c ∈ ws → W p (fs.cut c k)) (hd : ∀ p c, ¬fs.aside p →
      d.read p = some c → W p c) :
    ∀ p c, ¬fs.aside p → (perform fs ws f d).1.read p = some c → W p c := by
  intro p c ha hc
  obtain h | ⟨w, hw, h⟩ := (Traces.refl ws d).perform f p ha
  · exact hd p c ha (h ▸ hc)
  · cases w with
    | replace q x =>
      obtain ⟨rfl, hx⟩ := h
      obtain rfl : c = x := Option.some.inj (hc.symm.trans hx)
      exact hws _ hw q c (.inl rfl)
    | create q x =>
      obtain ⟨rfl, hx | hx | ⟨k, hx⟩⟩ := h
      · obtain rfl : c = x := Option.some.inj (hc.symm.trans hx)
        exact hws _ hw q c (.inr rfl)
      · rw [hx] at hc
        cases hc
      · obtain rfl : c = fs.cut x k := Option.some.inj (hc.symm.trans hx)
        exact hcut q x k hw
    | remove q =>
      rw [h.2] at hc
      cases hc
    | check g => exact absurd h id

end Durable
