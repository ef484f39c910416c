import AnKla.Guarantees.Resume
import AnKla.Json.Hole

/-!
# Payloads that state their own size

Whatever a payload looks like, as long as its size is written at one place of it, both loops that
look for the size find it.

* `measurable_sized_payload`: such payloads differ by the digits of the size only.
* `Converges`: both loops end within their turns, with the size that the payload states.
* `self_sizing_converges`.
-/

namespace AnKla

open PyJson Budget

/-- A payload whose size goes to one place. -/
def sized_payload (hole : Hole) (used : ℕ) : Json := hole.fill (.int used)

theorem measurable_sized_payload (hole : Hole) : Measurable (sized_payload hole) := by
  obtain ⟨base, hbase⟩ := hole.exists_size_fill
  have hself : SelfSized (sized_payload hole) base := fun used => by
    rw [sized_payload, hbase, size_count]
  exact hself.measurable

/-- The value of `_size_at_fixed_point`, with its bytes counted so far. -/
def resume_sized (items : List (String × Json)) (used : ℕ) : Json :=
  (Json.obj items).set "used_bytes" (.int used)

theorem measurable_resume_sized (items : List (String × Json)) :
    Measurable (resume_sized items) := by
  obtain ⟨hole, hhole⟩ := exists_hole_set items "used_bytes"
  have hsame : resume_sized items = sized_payload hole := funext fun used => hhole (.int used)
  rw [hsame]
  exact measurable_sized_payload hole

/-- Both loops end within their turns, and the size they find is the length of the payload that
states it. -/
structure Converges (build : ℕ → Json) : Prop where
  exact : ∃ used, exact_sized_payload build = .ok (build used, used) ∧
    canonical_length (build used) = used
  fixed : ∃ used, size_at_fixed_point build = .ok used ∧ canonical_length (build used) = used

theorem Measurable.converges {build : ℕ → Json} (h : Measurable build) : Converges build :=
  ⟨⟨_, h.payload, h.size⟩, ⟨_, h.fixed_point, h.size⟩⟩

/-- The loops converge for a size at any place of any payload, for the item of a resume, and for
the envelope of a view. -/
theorem self_sizing_converges :
    (∀ hole, Converges (sized_payload hole)) ∧ (∀ items, Converges (resume_sized items)) ∧
      ∀ (H : Crypto) (v : ViewIdentity) (u : Universe) (limit : ℕ) (selected : List Json)
        (next_index budget : ℕ), Converges (build_page H v u limit selected next_index budget) := by
  refine ⟨fun hole => (measurable_sized_payload hole).converges,
    fun items => (measurable_resume_sized items).converges,
    fun H v u limit selected next_index budget => ?_⟩
  obtain ⟨base, hbase⟩ := size_build_page H v u limit selected next_index
  exact (hbase budget).measurable.converges

end AnKla
