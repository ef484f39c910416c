import AnKla.Budget.Exact
import Mathlib.Order.Bounds.Basic

/-!
# The least budget

A text that names the budget it was made for takes more bytes as the budget gets
more digits. Let `need w` be the bytes it takes for a budget of `w` digits; a
budget is enough if `need (width b) ≤ b`. The numbers of so many digits form a
*band*, in which what is needed does not change, so the least budget that is
enough is the first one in its band, or what its band needs (`leastEnough`).
-/

namespace Budget

/-- The last number with as many digits. -/
def bandEnd (n : ℕ) : ℕ := 10 ^ width n - 1

theorem le_bandEnd (n : ℕ) : n ≤ bandEnd n := Nat.le_sub_one_of_lt (lt_pow_width n)

/-- From a number to the end of its band, all have as many digits. -/
theorem width_of_band {n c : ℕ} (h : n ≤ c) (hc : c ≤ bandEnd n) : width c = width n := by
  refine le_antisymm ((width_le_iff (width_pos n)).2 ?_) (width_mono h)
  have hpos : 0 < 10 ^ width n := Nat.pow_pos (by decide)
  rw [bandEnd] at hc
  omega

/-- The next band has one digit more. -/
theorem width_bandEnd_succ (n : ℕ) : width (bandEnd n + 1) = width n + 1 := by
  have hpos : 0 < 10 ^ width n := Nat.pow_pos (by decide)
  have hend : bandEnd n + 1 = 10 ^ width n := by rw [bandEnd]; omega
  refine le_antisymm ?_ ?_
  · have := width_succ_le (bandEnd n)
    rwa [width_of_band (le_bandEnd n) le_rfl] at this
  · rw [Nat.succ_le_iff]
    by_contra hle
    have := (width_le_iff (width_pos n)).1 (not_lt.1 hle)
    omega

/-- The budgets from `lower` on that are enough. -/
def enough (need : ℕ → ℕ) (lower : ℕ) : Set ℕ := {c | lower ≤ c ∧ need (width c) ≤ c}

variable {need : ℕ → ℕ} {lower m : ℕ}

/-- Budgets that are not enough may be left out of the search. -/
theorem isLeast_of_skip {lower' : ℕ} (hle : lower ≤ lower')
    (hskip : ∀ c, lower ≤ c → c < lower' → c < need (width c))
    (h : IsLeast (enough need lower') m) : IsLeast (enough need lower) m := by
  refine ⟨⟨hle.trans h.1.1, h.1.2⟩, fun c hc => ?_⟩
  by_cases hlt : c < lower'
  · exact absurd hc.2 (hskip c hc.1 hlt).not_ge
  · exact h.2 ⟨not_lt.1 hlt, hc.2⟩

/-- Where a band has room for what it needs, the least budget lies in it. -/
theorem isLeast_of_band (h : max lower (need (width lower)) ≤ bandEnd lower) :
    IsLeast (enough need lower) (max lower (need (width lower))) := by
  refine ⟨⟨le_max_left _ _, ?_⟩, fun c hc => max_le hc.1 ?_⟩
  · rw [width_of_band (le_max_left _ _) h]
    exact le_max_right _ _
  · by_cases hlast : c ≤ bandEnd lower
    · rw [← width_of_band hc.1 hlast]
      exact hc.2
    · exact (le_max_right _ _).trans (h.trans (not_le.1 hlast).le)

/-- Where it has no room, no budget of the band is enough. -/
theorem skip_band (h : bandEnd lower < need (width lower)) {c : ℕ} (hc : lower ≤ c)
    (hlast : c ≤ bandEnd lower) : c < need (width c) := by
  rw [width_of_band hc hlast]
  exact hlast.trans_lt h

/-- The search, band by band, among the budgets up to `most`. -/
def leastEnough (need : ℕ → ℕ) (most : ℕ) : ℕ → ℕ → Option ℕ
  | 0, _ => none
  | bands + 1, lower =>
    if most < lower then none
    else if max lower (need (width lower)) ≤ min most (bandEnd lower) then
      some (max lower (need (width lower)))
    else leastEnough need most bands (min most (bandEnd lower) + 1)

/-- It finds the least budget that is enough. -/
theorem isLeast_of_leastEnough {most bands : ℕ}
    (h : leastEnough need most bands lower = some m) : IsLeast (enough need lower) m ∧ m ≤ most := by
  induction bands generalizing lower with
  | zero => cases h
  | succ bands ih =>
    rw [leastEnough] at h
    split_ifs at h with hmost hband
    · cases h
      exact ⟨isLeast_of_band (hband.trans (min_le_right _ _)), hband.trans (min_le_left _ _)⟩
    · obtain ⟨hleast, hle⟩ := ih h
      have hend : min most (bandEnd lower) = bandEnd lower := by
        refine min_eq_right (not_lt.1 fun hlt => ?_)
        have := hleast.1.1
        rw [min_eq_left hlt.le] at this
        omega
      rw [hend] at hleast hband
      have hneed : bandEnd lower < need (width lower) :=
        (lt_max_iff.1 (not_le.1 hband)).resolve_left (le_bandEnd lower).not_gt
      exact ⟨isLeast_of_skip (Nat.le_succ_of_le (le_bandEnd lower))
        (fun c hc hlt => skip_band hneed hc (Nat.lt_succ_iff.1 hlt)) hleast, hle⟩

end Budget
