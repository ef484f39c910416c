import AnKla.Json.Loads
import AnKla.Policy.Formats

/-!
# Numbers of a fixed width

A number in a fixed number of decimal digits. Such texts are read back, and compare as
the numbers do.

* `digits_lt_iff`: texts of digits, of one length, compare as their numbers.
* `take_digits_padded`: a padded number is read back.
* `padded_append_lt_iff`: texts that start with padded numbers compare by the numbers
  first.
-/

namespace AnKla

open PyJson

/-! ## Texts of digits -/

theorem digit_lt_iff {c d : Char} (hc : c.isDigit = true) (hd : d.isDigit = true) :
    c < d ↔ c.toNat - '0'.toNat < d.toNat - '0'.toNat := by
  simp only [Char.isDigit, Bool.and_eq_true, decide_eq_true_eq] at hc hd
  have h0 : '0'.toNat = 48 := rfl
  have hc0 : 48 ≤ c.toNat := hc.1
  have hd0 : 48 ≤ d.toNat := hd.1
  rw [Char.lt_def, UInt32.lt_iff_toNat_lt]
  change c.toNat < d.toNat ↔ _
  omega

/-- Texts of digits, of one length, compare as their numbers. -/
theorem digits_lt_iff {s t : List Char} (hs : ∀ c ∈ s, c.isDigit = true)
    (ht : ∀ c ∈ t, c.isDigit = true) (hlen : s.length = t.length) :
    s < t ↔ Nat.ofDigitChars 10 s 0 < Nat.ofDigitChars 10 t 0 := by
  induction s generalizing t with
  | nil =>
    cases t with
    | nil => simp
    | cons d t => cases hlen
  | cons c s ih =>
    cases t with
    | nil => cases hlen
    | cons d t =>
      have hlen' : s.length = t.length := Nat.succ.inj hlen
      have ih := ih (fun x hx => hs x (List.mem_cons_of_mem _ hx))
        (fun x hx => ht x (List.mem_cons_of_mem _ hx)) hlen'
      have hc := hs c List.mem_cons_self
      have hd := ht d List.mem_cons_self
      -- The rest is less than one unit of the first digit.
      have hsl := ofDigitChars_lt (fun x hx => hs x (List.mem_cons_of_mem _ hx)) 0
      have htl := ofDigitChars_lt (fun x hx => ht x (List.mem_cons_of_mem _ hx)) 0
      rw [Nat.ofDigitChars_cons, Nat.ofDigitChars_cons, Nat.ofDigitChars_eq_ofDigitChars_zero,
        @Nat.ofDigitChars_eq_ofDigitChars_zero t, List.cons_lt_cons_iff, ih, digit_lt_iff hc hd,
        ← hlen', mul_zero, zero_add, zero_add]
      rw [zero_add, one_mul] at hsl htl
      rw [← hlen'] at htl
      set p := 10 ^ s.length
      set x := c.toNat - '0'.toNat with hx
      set y := d.toNat - '0'.toNat with hy
      have heq : c = d ↔ x = y := by
        constructor
        · rintro rfl
          rfl
        · intro h
          have hnc : ¬c < d := fun hlt => absurd ((digit_lt_iff hc hd).1 hlt) (by omega)
          have hnd : ¬d < c := fun hlt => absurd ((digit_lt_iff hd hc).1 hlt) (by omega)
          exact le_antisymm (not_lt.1 hnd) (not_lt.1 hnc)
      rw [heq]
      constructor
      · rintro (h | ⟨h, hr⟩)
        · calc p * x + Nat.ofDigitChars 10 s 0 < p * x + p := by omega
            _ = p * (x + 1) := by ring
            _ ≤ p * y := Nat.mul_le_mul_left _ h
            _ ≤ _ := Nat.le_add_right _ _
        · rw [h]
          omega
      · intro h
        rcases lt_trichotomy x y with hlt | heq | hgt
        · exact .inl hlt
        · rw [heq] at h
          exact .inr ⟨heq, by omega⟩
        · have hle : p * (y + 1) ≤ p * x := Nat.mul_le_mul_left _ hgt
          rw [mul_add, mul_one] at hle
          omega

/-- Texts whose first parts have one length compare by these first. -/
theorem append_lt_append_iff {s t s' t' : List Char} (hlen : s.length = t.length) :
    s ++ s' < t ++ t' ↔ s < t ∨ s = t ∧ s' < t' := by
  induction s generalizing t with
  | nil =>
    cases t with
    | nil => simp
    | cons d t => cases hlen
  | cons c s ih =>
    cases t with
    | nil => cases hlen
    | cons d t =>
      rw [List.cons_append, List.cons_append, List.cons_lt_cons_iff, List.cons_lt_cons_iff,
        ih (Nat.succ.inj hlen), List.cons.injEq]
      tauto

/-! ## Padded numbers -/

section Padded

variable {w n : ℕ}

theorem isDigit_padded : ∀ c ∈ padded w n, c.isDigit = true := by
  intro c hc
  rw [padded, List.leftpad, List.mem_append] at hc
  obtain hc | hc := hc
  · rw [List.eq_of_mem_replicate hc]
    rfl
  · exact Nat.isDigit_of_mem_toDigits (by decide) (by decide) hc

theorem length_padded (hw : 0 < w) (hn : n < 10 ^ w) : (padded w n).length = w := by
  rw [padded, List.length_leftpad]
  exact max_eq_left ((Nat.length_toDigits_le_iff (by decide) hw).2 hn)

theorem ofDigitChars_padded : Nat.ofDigitChars 10 (padded w n) 0 = n := by
  rw [padded, List.leftpad, Nat.ofDigitChars_append, Nat.ofDigitChars_replicate_zero, mul_zero,
    Nat.ofDigitChars_ten_toDigits]

theorem digits_value_eq {s : List Char} (hne : s ≠ []) (hs : ∀ c ∈ s, c.isDigit = true) :
    digits_value s = some (Nat.ofDigitChars 10 s 0) := by
  have hall : s.all (fun c => '0' ≤ c && c ≤ '9') = true := by
    rw [List.all_eq_true]
    intro c hc
    have := hs c hc
    rw [Char.isDigit, Bool.and_eq_true, decide_eq_true_eq, decide_eq_true_eq] at this
    rw [Bool.and_eq_true, decide_eq_true_eq, decide_eq_true_eq]
    exact this
  rw [digits_value, if_pos ⟨hne, hall⟩, Nat.ofDigitChars_eq_foldl]

theorem padded_ne_nil : padded w n ≠ [] := by
  rw [padded, List.leftpad]
  exact List.append_ne_nil_of_right_ne_nil _ Nat.toDigits_ne_nil

/-- A padded number is read back. -/
theorem take_digits_padded (hw : 0 < w) (hn : n < 10 ^ w) (s : List Char) :
    take_digits w (padded w n ++ s) = some (n, s) := by
  have hlen := length_padded hw hn
  rw [take_digits, List.take_left' hlen, List.drop_left' hlen, if_pos hlen,
    digits_value_eq padded_ne_nil isDigit_padded, ofDigitChars_padded]
  rfl

theorem padded_inj {m : ℕ} (h : padded w n = padded w m) : n = m := by
  rw [← @ofDigitChars_padded w n, h, ofDigitChars_padded]

/-- Texts that start with padded numbers compare by the numbers first. -/
theorem padded_append_lt_iff {m : ℕ} (hw : 0 < w) (hn : n < 10 ^ w) (hm : m < 10 ^ w)
    {s t : List Char} : padded w n ++ s < padded w m ++ t ↔ n < m ∨ n = m ∧ s < t := by
  have hlen : (padded w n).length = (padded w m).length := by
    rw [length_padded hw hn, length_padded hw hm]
  rw [append_lt_append_iff hlen, digits_lt_iff isDigit_padded isDigit_padded hlen,
    ofDigitChars_padded, ofDigitChars_padded]
  refine or_congr Iff.rfl (and_congr_left fun _ => ⟨padded_inj, fun h => h ▸ rfl⟩)

end Padded

end AnKla
