import Mathlib.Data.List.Basic

/-!
# Packing under a budget

Items are taken in their order while they fit. Whether they fit depends on the items
kept and on how many are left out, as a package also states that number.

* `FirstFit`, `pack`: an item is kept if it fits with those left out *so far*. The
  packing that comes out need not fit, as items left out later are stated too.
* `packReserved`: an item is kept if it fits with all other items left out that are not
  kept yet. What comes out fits if the empty package does (`packReserved_fits`).
-/

namespace Budget

variable {α : Type*} (fits : List α → ℕ → Prop)

/-- The items kept, and how many are left out, when every item is kept that fits with
    those kept before it and the number left out before it. -/
inductive FirstFit : List α → List α → ℕ → Prop
  | nil : FirstFit [] [] 0
  | keep {xs kept left x} : FirstFit xs kept left → fits (kept ++ [x]) left →
    FirstFit (xs ++ [x]) (kept ++ [x]) left
  | leave {xs kept left x} : FirstFit xs kept left → ¬fits (kept ++ [x]) left →
    FirstFit (xs ++ [x]) kept (left + 1)

variable {fits}

/-- Every item is kept or left out. -/
theorem FirstFit.length {xs kept : List α} {left : ℕ} (h : FirstFit fits xs kept left) :
    kept.length + left = xs.length := by
  induction h with
  | nil => rfl
  | keep _ _ ih =>
    rw [List.length_append, List.length_append, List.length_singleton]
    omega
  | leave _ _ ih =>
    rw [List.length_append, List.length_singleton]
    omega

/-- The items kept are in their order. -/
theorem FirstFit.sublist {xs kept : List α} {left : ℕ} (h : FirstFit fits xs kept left) :
    kept.Sublist xs := by
  induction h with
  | nil => exact .refl _
  | keep _ _ ih => exact ih.append (.refl _)
  | leave _ _ ih => exact ih.trans (List.sublist_append_left _ _)

/-- There is one such packing. -/
theorem FirstFit.unique {xs kept kept' : List α} {left left' : ℕ}
    (h : FirstFit fits xs kept left) (h' : FirstFit fits xs kept' left') :
    kept = kept' ∧ left = left' := by
  induction h generalizing kept' left' with
  | nil =>
    generalize hxs : ([] : List α) = xs at h'
    cases h' with
    | nil => exact ⟨rfl, rfl⟩
    | keep _ _ => simp at hxs
    | leave _ _ => simp at hxs
  | @keep xs kept left x _ hfit ih =>
    generalize hxs : xs ++ [x] = ys at h'
    cases h' with
    | nil => simp at hxs
    | keep h' _ =>
      obtain ⟨rfl, hx⟩ := List.append_inj' hxs rfl
      obtain ⟨rfl, rfl⟩ := ih h'
      exact ⟨by rw [hx], rfl⟩
    | leave h' hno =>
      obtain ⟨rfl, hx⟩ := List.append_inj' hxs rfl
      obtain ⟨rfl, rfl⟩ := ih h'
      exact absurd (hx ▸ hfit) hno
  | @leave xs kept left x _ hno ih =>
    generalize hxs : xs ++ [x] = ys at h'
    cases h' with
    | nil => simp at hxs
    | keep h' hfit =>
      obtain ⟨rfl, hx⟩ := List.append_inj' hxs rfl
      obtain ⟨rfl, rfl⟩ := ih h'
      exact absurd (hx ▸ hfit) hno
    | leave h' _ =>
      obtain ⟨rfl, -⟩ := List.append_inj' hxs rfl
      obtain ⟨rfl, rfl⟩ := ih h'
      exact ⟨rfl, rfl⟩

variable (fits) [∀ kept left, Decidable (fits kept left)]

/-- First fit, from what is kept and left out so far. -/
def pack : List α → List α → ℕ → List α × ℕ
  | [], kept, left => (kept, left)
  | x :: xs, kept, left =>
    if fits (kept ++ [x]) left then pack xs (kept ++ [x]) left else pack xs kept (left + 1)

/-- First fit with room for all that is not kept yet. -/
def packReserved : List α → List α → ℕ → List α × ℕ
  | [], kept, left => (kept, left)
  | x :: xs, kept, left =>
    if fits (kept ++ [x]) (left - 1) then packReserved xs (kept ++ [x]) (left - 1)
    else packReserved xs kept left

variable {fits}

theorem firstFit_pack_from {xs pre kept : List α} {left : ℕ} (h : FirstFit fits pre kept left) :
    FirstFit fits (pre ++ xs) (pack fits xs kept left).1 (pack fits xs kept left).2 := by
  induction xs generalizing pre kept left with
  | nil => rwa [List.append_nil, pack]
  | cons x xs ih =>
    rw [pack, List.append_cons]
    split_ifs with hx
    · exact ih (h.keep hx)
    · exact ih (h.leave hx)

/-- What `pack` packs is the first fit. -/
theorem firstFit_pack (xs : List α) :
    FirstFit fits xs (pack fits xs [] 0).1 (pack fits xs [] 0).2 :=
  firstFit_pack_from .nil

/-- With room reserved, what comes out fits if the start does. -/
theorem packReserved_fits {xs kept : List α} {left : ℕ} (h : fits kept left) :
    fits (packReserved fits xs kept left).1 (packReserved fits xs kept left).2 := by
  induction xs generalizing kept left with
  | nil => exact h
  | cons x xs ih =>
    rw [packReserved]
    split_ifs with hx
    · exact ih hx
    · exact ih h

/-- It keeps some of the items in their order, and counts the others. -/
theorem packReserved_spec {xs kept : List α} {left : ℕ} (hleft : xs.length ≤ left) :
    ∃ more, more.Sublist xs ∧ (packReserved fits xs kept left).1 = kept ++ more ∧
      (packReserved fits xs kept left).2 + more.length = left := by
  induction xs generalizing kept left with
  | nil => exact ⟨[], .refl _, (List.append_nil _).symm, rfl⟩
  | cons x xs ih =>
    rw [List.length_cons] at hleft
    rw [packReserved]
    split_ifs with hx
    · obtain ⟨more, hsub, hkept, hcount⟩ := @ih (kept ++ [x]) (left - 1) (by omega)
      refine ⟨x :: more, hsub.cons_cons x, by rw [hkept, List.append_assoc]; rfl, ?_⟩
      rw [List.length_cons]
      omega
    · obtain ⟨more, hsub, hkept, hcount⟩ := @ih kept left (by omega)
      exact ⟨more, hsub.cons x, hkept, hcount⟩

end Budget
