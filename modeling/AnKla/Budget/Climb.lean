import AnKla.Budget.Bands

/-!
# Climbing to the least budget

Where a budget changes more than its digits, its size is measured anew for every candidate:
a candidate that is too small is replaced by the size measured for it. Such a size need not
be what is needed, but it is never above it while the candidate fails. So no budget that is
enough is left out.

* `Approximates`: sizes that tell whether a budget is enough.
* `climb`: the candidates of one band. `climbBands`: one band after the other.
* `isLeast_of_climbBands`.
-/

namespace Budget

/-- The sizes tell whether a budget is enough. While it is not, they stay within what is
    needed. -/
structure Approximates (size need : ℕ → ℕ) : Prop where
  enough_iff : ∀ c, size c ≤ c ↔ need (width c) ≤ c
  le_need : ∀ c, c < size c → size c ≤ need (width c)

/-- What becomes of the candidates of one band. -/
inductive Climb
  | found (candidate : ℕ)
  /-- The next candidate is beyond the band. -/
  | beyond
  /-- Too many candidates. -/
  | unsettled

/-- The candidates from one on, up to the last of the band. -/
def climb (size : ℕ → ℕ) (last : ℕ) : ℕ → ℕ → Climb
  | 0, _ => .unsettled
  | n + 1, candidate =>
    if size candidate ≤ candidate then .found candidate
    else if last < size candidate then .beyond
    else climb size last n (size candidate)

/-- The bands from a lower bound on, up to `most`. -/
def climbBands (size : ℕ → ℕ) (most : ℕ) : ℕ → ℕ → Option ℕ
  | 0, _ => none
  | bands + 1, lower =>
    if most < lower then none
    else match climb size (min most (bandEnd lower)) 64 lower with
      | .found candidate => some candidate
      | .beyond => climbBands size most bands (min most (bandEnd lower) + 1)
      | .unsettled => none

variable {size need : ℕ → ℕ} {lower last m : ℕ}

/-- In a band, a candidate is found that is the least, or none is enough. -/
theorem climb_spec (h : Approximates size need) (hlast : last ≤ bandEnd lower) {n candidate : ℕ}
    (hlower : lower ≤ candidate) (hcandidate : candidate ≤ last)
    (hskip : ∀ c, lower ≤ c → c < candidate → c < need (width c)) :
    match climb size last n candidate with
    | .found m => m ≤ last ∧ IsLeast (enough need lower) m
    | .beyond => ∀ c, lower ≤ c → c ≤ last → c < need (width c)
    | .unsettled => True := by
  induction n generalizing candidate with
  | zero => trivial
  | succ n ih =>
    -- up to the last of the band, the need is the candidate's
    have hneed (c : ℕ) (hc : candidate ≤ c) (hle : c ≤ last) (hlt : c < size candidate) :
        c < need (width c) := by
      have hfails : candidate < size candidate := hc.trans_lt hlt
      rw [width_of_band (hlower.trans hc) (hle.trans hlast),
        ← width_of_band hlower (hcandidate.trans hlast)]
      exact hlt.trans_le (h.le_need candidate hfails)
    rw [climb]
    split_ifs with hfits hbeyond
    · refine ⟨hcandidate, ⟨hlower, (h.enough_iff candidate).1 hfits⟩, fun c hc => ?_⟩
      exact not_lt.1 fun hlt => (hskip c hc.1 hlt).not_ge hc.2
    · intro c hc hle
      rcases lt_or_ge c candidate with hlt | hge
      · exact hskip c hc hlt
      · exact hneed c hge hle (hle.trans_lt hbeyond)
    · refine ih (hlower.trans (not_le.1 hfits).le) (not_lt.1 hbeyond) fun c hc hlt => ?_
      rcases lt_or_ge c candidate with hbelow | hge
      · exact hskip c hc hbelow
      · exact hneed c hge (hlt.le.trans (not_lt.1 hbeyond)) hlt

/-- What is found is the least budget that is enough. -/
theorem isLeast_of_climbBands (h : Approximates size need) {most bands : ℕ}
    (hm : climbBands size most bands lower = some m) :
    m ≤ most ∧ IsLeast (enough need lower) m := by
  induction bands generalizing lower with
  | zero => cases hm
  | succ bands ih =>
    rw [climbBands] at hm
    split_ifs at hm with hmost
    have hspec := climb_spec h (min_le_right most (bandEnd lower)) (n := 64) le_rfl
      (le_min (not_lt.1 hmost) (le_bandEnd lower)) fun c hc hlt => absurd hlt hc.not_gt
    cases hclimb : climb size (min most (bandEnd lower)) 64 lower with
    | found candidate =>
      rw [hclimb] at hm hspec
      cases hm
      exact ⟨hspec.1.trans (min_le_left _ _), hspec.2⟩
    | beyond =>
      rw [hclimb] at hm hspec
      obtain ⟨hle, hleast⟩ := ih hm
      refine ⟨hle, isLeast_of_skip ?_ (fun c hc hlt => hspec c hc (Nat.lt_succ_iff.1 hlt)) hleast⟩
      exact Nat.le_succ_of_le (le_min (not_lt.1 hmost) (le_bandEnd lower))
    | unsettled =>
      rw [hclimb] at hm
      cases hm

end Budget
