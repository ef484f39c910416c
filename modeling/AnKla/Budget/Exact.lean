import Mathlib.Order.Basic
import Mathlib.Data.Nat.Basic
import Mathlib.Tactic.Linarith

/-!
# Texts that state their own size

A text of `base` bytes besides a decimal number, the number being the size of
the whole text: the size is a fixed point of `u ↦ base + width u`.

* `width`: the decimal digits of a number.
* `selfSize`: the least fixed point. Measuring the text again and again, starting
  with a size of nought, reaches it in three measurements, as a measurement makes
  the text longer by at most one digit after the first.
* `selfSize_le_iff`: the text fits in a budget if and only if it would fit with the
  budget itself as the number.
-/

namespace Budget

/-- How many decimal digits a number has. -/
def width (n : ℕ) : ℕ := (Nat.toDigits 10 n).length

theorem width_pos (n : ℕ) : 0 < width n := Nat.length_toDigits_pos

theorem width_le_iff {n k : ℕ} (hk : 0 < k) : width n ≤ k ↔ n < 10 ^ k :=
  Nat.length_toDigits_le_iff (by decide) hk

theorem lt_pow_width (n : ℕ) : n < 10 ^ width n := (width_le_iff (width_pos n)).1 le_rfl

theorem width_mono {m n : ℕ} (h : m ≤ n) : width m ≤ width n :=
  (width_le_iff (width_pos n)).2 (h.trans_lt (lt_pow_width n))

theorem width_zero : width 0 = 1 := by decide

/-- A step up adds one digit at most. -/
theorem width_succ_le (n : ℕ) : width (n + 1) ≤ width n + 1 := by
  rw [width_le_iff (Nat.succ_pos _), pow_succ]
  have := lt_pow_width n
  omega

theorem width_add_le (n d : ℕ) : width (n + d) ≤ width n + d := by
  induction d with
  | zero => exact le_rfl
  | succ d ih =>
    have := width_succ_le (n + d)
    rw [← Nat.add_assoc]
    omega

/-- A number has no more digits than its value, but for zero. -/
theorem width_le_succ (n : ℕ) : width n ≤ n + 1 := by
  have := width_add_le 0 n
  rw [Nat.zero_add, width_zero] at this
  omega

/-- Adding less than nine tenths of the number itself adds one digit at most. -/
theorem width_add_width_le (n : ℕ) : width (n + width n) ≤ width n + 1 := by
  rw [width_le_iff (Nat.succ_pos _), pow_succ]
  have h1 := lt_pow_width n
  have h2 : width n < 10 ^ width n := Nat.lt_pow_self (by decide)
  omega

/-! ## The fixed point -/

/-- The size of a text that states its own size, with `base` bytes besides it. -/
def selfSize (base : ℕ) : ℕ := base + width (base + width (base + 1))

theorem selfSize_pos (base : ℕ) : 0 < selfSize base := Nat.add_pos_right _ (width_pos _)

theorem lt_selfSize (base : ℕ) : base < selfSize base := Nat.lt_add_of_pos_right (width_pos _)

/-- The second measurement is not below the first. -/
theorem first_le_second (base : ℕ) : base + 1 ≤ base + width (base + 1) :=
  Nat.add_le_add_left (width_pos _) _

/-- The third measurement is not below the second. -/
theorem second_le_selfSize (base : ℕ) : base + width (base + 1) ≤ selfSize base :=
  Nat.add_le_add_left (width_mono (first_le_second base)) _

/-- Measured once more, the text keeps its size. -/
theorem selfSize_eq (base : ℕ) : base + width (selfSize base) = selfSize base := by
  have h1 := first_le_second base
  have h2 := second_le_selfSize base
  have hmono := width_mono h2
  have hone : width (base + width (base + 1)) ≤ width (base + 1) + 1 := by
    have := width_mono (show base + width (base + 1) ≤ base + 1 + width (base + 1) by omega)
    exact this.trans (width_add_width_le _)
  -- The third measurement is the second, or one more than it.
  by_cases heq : width (base + width (base + 1)) = width (base + 1)
  · have : selfSize base = base + width (base + 1) := by rw [selfSize, heq]
    rw [this, heq]
  · have hw : width (base + width (base + 1)) = width (base + 1) + 1 := by
      have := width_mono h1
      omega
    refine congrArg (base + ·) (le_antisymm ?_ (width_mono h2))
    have hsize : selfSize base = base + width (base + 1) + 1 := by rw [selfSize, hw]; omega
    rw [hw, width_le_iff (Nat.succ_pos _), hsize, pow_succ]
    have hlt : base + 1 < 10 ^ width (base + 1) := lt_pow_width _
    have hself : width (base + 1) < 10 ^ width (base + 1) := Nat.lt_pow_self (by decide)
    omega

/-- The text fits if and only if it would with the budget as its size. -/
theorem selfSize_le_iff {base b : ℕ} : selfSize base ≤ b ↔ base + width b ≤ b := by
  constructor
  · intro h
    obtain ⟨d, rfl⟩ := Nat.exists_eq_add_of_le h
    have h1 := width_add_le (selfSize base) d
    have h2 := selfSize_eq base
    omega
  · intro h
    have h0 : base + 1 ≤ b := (Nat.add_le_add_left (width_pos b) base).trans h
    have h1 : base + width (base + 1) ≤ b := (Nat.add_le_add_left (width_mono h0) base).trans h
    exact (Nat.add_le_add_left (width_mono h1) base).trans h

theorem selfSize_mono {base base' : ℕ} (h : base ≤ base') : selfSize base ≤ selfSize base' := by
  rw [selfSize_le_iff]
  exact (Nat.add_le_add_right h _).trans (selfSize_eq base').le

theorem selfSize_strictMono {base base' : ℕ} (h : base < base') : selfSize base < selfSize base' := by
  have hmono := selfSize_mono h.le
  have hw := width_mono hmono
  rw [← selfSize_eq base, ← selfSize_eq base']
  omega

end Budget
