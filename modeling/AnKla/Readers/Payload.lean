import AnKla.Budget.Bands
import AnKla.Json.Size
import AnKla.Policy.Checkpoint

/-!
# Payloads of an exact size

A payload that a reader returns under a byte budget states its own canonical
size in one of its items.

* `exact_sized_payload`: the payload is built and measured until its item says
  its size.
* `SelfSized`: payloads that differ in the digits of that item only. Of these
  `exact_sized_payload` never gives up (`exact_sized_payload_eq`).
-/

namespace AnKla

open PyJson Budget

/-! ## Measuring -/

/-- The loop of `exact_sized_payload`, with the sizes observed so far. -/
def exact_sized_loop (build : ℕ → Json) : ℕ → List ℕ → ℕ → Except Failure (Json × ℕ)
  | 0, _, _ => .error (.value "payload_size_not_converged")
  | iterations + 1, observed, used =>
    let payload := build used
    let measured := canonical_length payload
    if measured = used then .ok (payload, measured)
    else if measured ∈ observed then .error (.value "payload_size_not_converged")
    else exact_sized_loop build iterations (measured :: observed) measured

/-- `exact_sized_payload(build)`. -/
def exact_sized_payload (build : ℕ → Json) : Except Failure (Json × ℕ) :=
  exact_sized_loop build 16 [] 0

theorem canonical_length_eq (v : Json) : canonical_length v = v.size := rfl

/-- Payloads that differ in the digits of their stated size only, with `base` bytes
    besides these digits. -/
def SelfSized (build : ℕ → Json) (base : ℕ) : Prop :=
  ∀ used, (build used).size = base + width used

variable {build : ℕ → Json} {base : ℕ}

/-- Measurements that grow and settle at the third are followed to it. -/
theorem exact_sized_of_measured {u v w : ℕ} (h0 : (build 0).size = u) (hu : (build u).size = v)
    (hv : (build v).size = w) (hw : (build w).size = w) (hpos : 0 < u) (huv : u ≤ v)
    (hvw : v ≤ w) : exact_sized_payload build = .ok (build w, w) := by
  simp only [exact_sized_payload, exact_sized_loop, canonical_length_eq, h0, List.not_mem_nil]
  rw [if_neg hpos.ne', if_neg not_false, hu]
  by_cases h1 : v = u
  · have hwv : w = v := by rw [← hv, h1, hu, h1]
    rw [if_pos h1, hwv, h1]
  · rw [if_neg h1, if_neg (by simpa using h1), hv]
    by_cases h2 : w = v
    · rw [if_pos h2, h2]
    · have h3 : w ≠ u := by omega
      rw [if_neg h2, if_neg (by simp [h2, h3]), hw, if_pos rfl]

/-- The payload that states its own size is found. -/
theorem exact_sized_payload_eq (h : SelfSized build base) :
    exact_sized_payload build = .ok (build (selfSize base), selfSize base) :=
  exact_sized_of_measured (v := base + width (base + 1)) (by rw [h, width_zero]) (h _) (h _)
    ((h _).trans (selfSize_eq base)) (Nat.succ_pos base) (first_le_second base)
    (second_le_selfSize base)

/-! ## Fitting in a budget -/

/-- The bytes of a payload besides the digits of its size. -/
def base_size (build : ℕ → Json) : ℕ := (build 0).size - 1

/-- The size of the payload that states its own size. -/
def exact_size (build : ℕ → Json) : ℕ := selfSize (base_size build)

/-- The payload that states its own size fits in the budget. -/
def FitsIn (build : ℕ → Json) (budget : ℤ) : Prop :=
  ∃ used : ℕ, (build used).size = used ∧ (used : ℤ) ≤ budget

/-- Payloads that differ in the digits of their stated size only. -/
def Measurable (build : ℕ → Json) : Prop := SelfSized build (base_size build)

theorem SelfSized.base_eq (h : SelfSized build base) : base_size build = base := by
  rw [base_size, h 0, width_zero, Nat.add_sub_cancel]

theorem SelfSized.measurable (h : SelfSized build base) : Measurable build := by
  rw [Measurable, h.base_eq]
  exact h

theorem Measurable.payload (h : Measurable build) :
    exact_sized_payload build = .ok (build (exact_size build), exact_size build) :=
  exact_sized_payload_eq h

/-- The payload that is found states its own size. -/
theorem Measurable.size (h : Measurable build) :
    (build (exact_size build)).size = exact_size build := (h _).trans (selfSize_eq _)

theorem Measurable.fits_iff (h : Measurable build) {budget : ℤ} :
    FitsIn build budget ↔ (exact_size build : ℤ) ≤ budget := by
  refine ⟨?_, fun hle => ⟨exact_size build, h.size, hle⟩⟩
  rintro ⟨used, hused, hle⟩
  have : exact_size build ≤ used := selfSize_le_iff.2 ((h used).symm.trans hused).le
  omega

/-! ## Sizes of objects -/

theorem size_dict {kvs : List (String × Json)} (hk : (kvs.map Prod.fst).Nodup) (h : kvs ≠ []) :
    (dict kvs).size = 1 + Json.itemsSize kvs := Json.size_ofItems hk h

/-- A count takes as many bytes as it has digits. -/
theorem size_count (n : ℕ) : (Json.int n).size = width n := Json.size_natCast n

/-- An object with an item that states a size. -/
theorem selfSized_dict {kvs lws : List (String × Json)} {key : String}
    (hk : ((kvs ++ (key, Json.int 0) :: lws).map Prod.fst).Nodup) :
    SelfSized (fun used => dict (kvs ++ (key, .int used) :: lws))
      (3 + textSize (dumpStr key) + Json.itemsSize kvs + Json.itemsSize lws) := by
  intro used
  have hkeys : ((kvs ++ (key, Json.int used) :: lws).map Prod.fst).Nodup := by
    rw [List.map_append, List.map_cons] at hk ⊢
    exact hk
  rw [size_dict hkeys (by simp), Json.itemsSize_append, Json.itemsSize_cons, size_count]
  omega

end AnKla
