import AnKla.Guarantees.Retrieval
import AnKla.Policy.Proposals
import AnKla.Readers.Assembly

/-!
# Packing records into a payload

Both packers serve what fits and count the rest. `assemble_context` keeps room for the
counts, and fails exactly when its required sections do not fit with all candidates
counted. The payload of the MCP tool keeps none: a record that has just fitted may leave no
room for the count of those that come after it.

* `assembly_budget_law`.
* `Degrades`: what the MCP payload should do instead of failing.
* `degrades_iff`: it does unless its first fit does not fit with the final count.
* `payload_fails`: two candidates, of which the first one fits alone.
-/

namespace AnKla

open PyJson Budget

/-- The exclusions for the budget that a payload counts. -/
def budget_count (payload : Json) : ℤ :=
  match item (item payload "excluded_summary") "budget" with
  | .int n => n
  | _ => 0

/-- The candidates of a source, as they are shown. -/
def candidates (source : RetrievalResult) : List Json :=
  source.selected.map (shown_record source.freshness.isSome)

/-! ## Counts -/

theorem Reason.name_injective : Function.Injective Reason.name := by
  intro a b h
  cases a <;> cases b <;> first | rfl | exact absurd h (by decide)

theorem nodup_summary (x : Exclusions) :
    ((x.summary.map fun e => (e.1.name, Json.int e.2)).map Prod.fst).Nodup := by
  have hsub : ((x.summary.map fun e => (e.1.name, Json.int e.2)).map Prod.fst).Sublist
      (REASONS.map Reason.name) := by
    rw [List.map_map]
    exact (List.Sublist.map _ List.filter_sublist).trans (List.Sublist.refl _)
  exact hsub.nodup (by decide)

/-- The exclusions for the budget that the source has counted. -/
theorem item_excluded_json (x : Exclusions) : item (excluded_json x.summary) "budget" =
    if x.count .budget = 0 then .null else .int (x.count .budget) := by
  split_ifs with h
  · refine item_of_not_mem ?_
    rw [excluded_json, mem_keys_dict (nodup_summary x), List.map_map, List.mem_map]
    rintro ⟨⟨reason, n⟩, hmem, hname⟩
    obtain rfl : reason = .budget := Reason.name_injective hname
    obtain ⟨rfl, hne⟩ := Exclusions.mem_summary.1 hmem
    exact hne h
  · refine item_dict (nodup_summary x) (List.mem_map.2 ⟨(.budget, x.count .budget), ?_, rfl⟩)
    exact Exclusions.mem_summary.2 ⟨rfl, h⟩

theorem item_set_budget (x : Exclusions) (v : Json) :
    item ((excluded_json x.summary).set "budget" v) "budget" = v := by
  rw [item, Json.get?_set rfl, Option.getD_some]

/-- The count in a value that is an item of the exclusions. -/
def count_of (v : Json) : ℤ :=
  match v with
  | .int n => n
  | _ => 0

theorem budget_count_eq (payload : Json) :
    budget_count payload = count_of (item (item payload "excluded_summary") "budget") := rfl

theorem count_context (source : RetrievalResult) (left : ℕ) :
    count_of (item (context_exclusions source left) "budget") =
      (source.excluded.count .budget + left : ℕ) := by
  rw [context_exclusions]
  split_ifs with h
  · rw [item_excluded_json, h, Nat.add_zero]
    split_ifs with h0
    · rw [h0]
      rfl
    · rfl
  · rw [item_set_budget]
    rfl

theorem count_payload (source : RetrievalResult) (left : ℕ) :
    count_of (item (payload_exclusions source left) "budget") =
      (if left = 0 then source.excluded.count .budget else left : ℕ) := by
  rw [payload_exclusions]
  split_ifs with h
  · rw [item_excluded_json]
    split_ifs with h0
    · rw [h0]
      rfl
    · rfl
  · rw [item_set_budget]
    rfl

/-! ## Payloads -/

theorem keys_freshness_items (source : RetrievalResult) (records : List Json) :
    (freshness_items source records).map Prod.fst =
      if source.freshness.isSome then ["freshness_profile", "freshness"] else [] := by
  rw [freshness_items]
  cases source.freshness <;> rfl

theorem nodup_context (source : RetrievalResult) (required : Required) (budget : ℤ)
    (records : List Json) (left used : ℕ) :
    ((context_items source required budget records left used).map Prod.fst).Nodup := by
  simp only [context_items, List.map_append, List.map_cons, keys_freshness_items]
  cases source.freshness <;> simp

theorem nodup_payload (source : RetrievalResult) (budget : ℤ) (selected : List Json)
    (left used : ℕ) : ((payload_items source budget selected left used).map Prod.fst).Nodup := by
  simp only [payload_items, List.map_append, List.map_cons, keys_freshness_items]
  cases source.freshness <;>
    cases empty_reason_for source.selected source.excluded left <;> simp

theorem measurable_context (source : RetrievalResult) (required : Required) (budget : ℤ)
    (records : List Json) (left : ℕ) :
    Measurable (build_context source required budget records left) :=
  (selfSized_dict (nodup_context source required budget records left 0)).measurable

theorem measurable_payload (source : RetrievalResult) (budget : ℤ) (selected : List Json)
    (left : ℕ) : Measurable (build_payload source budget selected left) :=
  (selfSized_dict (nodup_payload source budget selected left 0)).measurable

/-! ## Context assembly -/

/-- The loop packs with room for all candidates that are not kept yet. -/
theorem context_loop_eq {build : List Json → ℕ → ℕ → Json} (h : ∀ rs n, Measurable (build rs n))
    (budget : ℤ) [∀ rs n, Decidable (FitsIn (build rs n) budget)] (xs rs : List Json) (n : ℕ) :
    context_loop build budget xs rs n =
      .ok (packReserved (fun rs n => FitsIn (build rs n) budget) xs rs n) := by
  induction xs generalizing rs n with
  | nil => rfl
  | cons x xs ih =>
    have hfits : FitsIn (build (rs ++ [x]) (n - 1)) budget ↔ _ := (h _ _).fits_iff
    rw [context_loop, (h _ _).payload, packReserved]
    simp only [bind, Except.bind]
    by_cases hx : FitsIn (build (rs ++ [x]) (n - 1)) budget
    · rw [if_pos hx, if_neg (not_lt.2 (hfits.1 hx)), ih]
    · rw [if_neg hx, if_pos (not_le.1 fun hle => hx (hfits.2 hle)), ih]

/-- What `assemble_context` returns. -/
structure Assembled (source : RetrievalResult) (budget : ℤ) (payload : Json) : Prop where
  /-- Its size is within the budget, and stated. -/
  size : (payload.size : ℤ) ≤ budget
  used : item payload "used_bytes" = .int payload.size
  /-- The records are candidates in their order, and the others are counted, besides those
      that the source has counted. -/
  records : ∃ records : List Json,
    item (item payload "sections") "retrieved_records" = .arr records ∧
    records.Sublist (candidates source) ∧
    records.length + budget_count payload =
      source.selected.length + source.excluded.count .budget

/-- The payload that is returned for some records and their count. -/
theorem assembled_of_fits {source : RetrievalResult} {required : Required} {budget : ℤ}
    {records : List Json} {left : ℕ}
    (hfits : FitsIn (build_context source required budget records left) budget)
    (hsub : records.Sublist (candidates source))
    (hcount : left + records.length = source.selected.length) : Assembled source budget
      (build_context source required budget records left
        (exact_size (build_context source required budget records left))) := by
  have hm := measurable_context source required budget records left
  generalize hused : exact_size (build_context source required budget records left) = used
  have hnodup := nodup_context source required budget records left used
  have hsize : (build_context source required budget records left used).size = used :=
    hused ▸ hm.size
  have hsections : item (build_context source required budget records left used) "sections" =
      dict [("working_state", required.working_state),
        ("new_information", (required.new_information.map Json.str).getD .null),
        ("retrieved_records", .arr records)] := item_dict hnodup (by simp [context_items])
  have hexcluded : item (build_context source required budget records left used)
      "excluded_summary" = context_exclusions source left :=
    item_dict hnodup (by simp [context_items])
  refine ⟨?_, ?_, records, ?_, hsub, ?_⟩
  · rw [hsize, ← hused]
    exact hm.fits_iff.1 hfits
  · rw [hsize]
    exact item_dict hnodup (by simp [context_items])
  · rw [hsections]
    exact item_dict (by simp) (by simp)
  · rw [budget_count_eq, hexcluded, count_context]
    omega

/-- Context is assembled exactly when the required sections fit with all candidates counted;
    otherwise the budget is reported to be too small. -/
theorem assembly_budget_law (source : RetrievalResult) (required : Required) (budget : ℤ) :
    (FitsIn (build_context source required budget [] source.selected.length) budget →
      ∃ payload, assemble_source source required budget = .ok payload ∧
        Assembled source budget payload) ∧
    (¬FitsIn (build_context source required budget [] source.selected.length) budget →
      assemble_source source required budget =
        .error (.value "budget_too_small_for_required_context")) := by
  classical
  have hm (rs : List Json) (n : ℕ) := measurable_context source required budget rs n
  have hmeasure (rs : List Json) (n : ℕ) := (hm rs n).payload
  rw [assemble_source]
  simp only [hmeasure, bind, Except.bind, context_loop_eq hm]
  constructor
  · intro hfits
    let fits (rs : List Json) (n : ℕ) :=
      FitsIn (build_context source required budget rs n) budget
    obtain ⟨records, hsub, hkept, hcount⟩ := @packReserved_spec _ fits _ (candidates source) []
      source.selected.length (List.length_map _).le
    have hlast : fits _ _ := @packReserved_fits _ fits _ (candidates source) [] _ hfits
    rw [candidates] at hkept hcount hlast
    rw [hkept, List.nil_append] at hlast
    rw [ensure, if_pos (decide_eq_true ((hm _ _).fits_iff.1 hfits))]
    refine ⟨_, ?_, assembled_of_fits hlast hsub hcount⟩
    rw [hkept, List.nil_append, ensure, if_pos (decide_eq_true ((hm _ _).fits_iff.1 hlast))]
    rfl
  · intro hno
    have hlt : ¬(exact_size (build_context source required budget [] source.selected.length) : ℤ) ≤
        budget := fun hle => hno ((hm _ _).fits_iff.2 hle)
    rw [ensure, if_neg (by simpa using hlt)]

/-! ## The payload of the MCP tool -/

/-- The loop packs first fit: the count is of the candidates left out so far. -/
theorem payload_loop_eq {build : List Json → ℕ → ℕ → Json} (h : ∀ rs n, Measurable (build rs n))
    (budget : ℤ) [∀ rs n, Decidable (FitsIn (build rs n) budget)] (xs rs : List Json) (n : ℕ) :
    payload_loop build budget xs rs n =
      .ok (pack (fun rs n => FitsIn (build rs n) budget) xs rs n) := by
  induction xs generalizing rs n with
  | nil => rfl
  | cons x xs ih =>
    have hfits : FitsIn (build (rs ++ [x]) n) budget ↔ _ := (h _ _).fits_iff
    rw [payload_loop, (h _ _).payload, pack]
    simp only [bind, Except.bind]
    by_cases hx : FitsIn (build (rs ++ [x]) n) budget
    · rw [if_pos hx, if_neg (not_lt.2 (hfits.1 hx)), ih]
    · rw [if_neg hx, if_pos (not_le.1 fun hle => hx (hfits.2 hle)), ih]

/-- The payload with these records and this count fits in the budget. -/
def PayloadFits (source : RetrievalResult) (budget : ℤ) (records : List Json) (left : ℕ) : Prop :=
  FitsIn (build_payload source budget records left) budget

/-- A payload within the budget whose records, and the exclusions for the budget that it
    counts, are the candidates. -/
structure ServedWithin (source : RetrievalResult) (budget : ℤ) (payload : Json) : Prop where
  size : (payload.size : ℤ) ≤ budget
  records : ∃ records : List Json, item payload "records" = .arr records ∧
    records.Sublist (candidates source) ∧
    records.length + budget_count payload = source.selected.length

/-- If the envelope without records and with all candidates counted fits, then a payload is
    returned. -/
def Degrades (source : RetrievalResult) (budget : ℤ) : Prop :=
  PayloadFits source budget [] source.selected.length →
    ∃ payload, payload_of_source source budget = .ok payload ∧ ServedWithin source budget payload

/-- The payload is the first fit, if it fits. -/
theorem payload_of_source_ok {source : RetrievalResult} {budget : ℤ} {records : List Json}
    {left : ℕ} (h : FirstFit (PayloadFits source budget) (candidates source) records left)
    {payload : Json} : payload_of_source source budget = .ok payload ↔
      PayloadFits source budget records left ∧ payload =
        build_payload source budget records left
          (exact_size (build_payload source budget records left)) := by
  classical
  have hm (rs : List Json) (n : ℕ) := measurable_payload source budget rs n
  have hmeasure (rs : List Json) (n : ℕ) := (hm rs n).payload
  obtain ⟨hrecords, hleft⟩ := h.unique (firstFit_pack (candidates source))
  have hloop : payload_loop (build_payload source budget) budget (candidates source) [] 0 =
      .ok (records, left) := by
    rw [payload_loop_eq hm budget, hrecords, hleft]
    rfl
  rw [candidates] at hloop
  simp only [payload_of_source, bind_ok, hloop, hmeasure, Except.ok.injEq, exists_eq_left',
    ensure_ok, exists_const, decide_eq_true_eq, pure_ok]
  exact and_congr (hm records left).fits_iff.symm eq_comm

/-- What the payload of the first fit serves. -/
theorem served_within_iff {source : RetrievalResult} {budget : ℤ} {records : List Json} {left : ℕ}
    (h : FirstFit (PayloadFits source budget) (candidates source) records left)
    (hfits : PayloadFits source budget records left) : ServedWithin source budget
      (build_payload source budget records left
        (exact_size (build_payload source budget records left))) ↔
      (left = 0 → source.excluded.count .budget = 0) := by
  have hm := measurable_payload source budget records left
  generalize hused : exact_size (build_payload source budget records left) = used
  have hnodup := nodup_payload source budget records left used
  have hrecords : item (build_payload source budget records left used) "records" =
      .arr records := item_dict hnodup (by simp [payload_items])
  have hcount : budget_count (build_payload source budget records left used) =
      (if left = 0 then source.excluded.count .budget else left : ℕ) := by
    rw [budget_count_eq, ← count_payload]
    exact congrArg count_of (congrArg (item · "budget")
      (item_dict hnodup (by simp [payload_items])))
  have hlength : records.length + left = source.selected.length := by
    rw [h.length, candidates, List.length_map]
  constructor
  · rintro ⟨-, records', hrecords', -, hsum⟩ rfl
    obtain rfl : records = records' := Json.arr.inj (hrecords.symm.trans hrecords')
    rw [hcount, if_pos rfl] at hsum
    omega
  · intro hzero
    refine ⟨?_, records, hrecords, h.sublist, ?_⟩
    · rw [← hused, hm.size]
      exact hm.fits_iff.1 hfits
    · rw [hcount]
      split_ifs with h0
      · rw [hzero h0]
        omega
      · exact_mod_cast hlength

/-- The payload degrades unless the first fit, once the candidates that it leaves out are all
    counted, no longer fits. -/
theorem degrades_iff (source : RetrievalResult) (budget : ℤ) : Degrades source budget ↔
    (PayloadFits source budget [] source.selected.length →
      ∀ records left, FirstFit (PayloadFits source budget) (candidates source) records left →
        PayloadFits source budget records left ∧
          (left = 0 → source.excluded.count .budget = 0)) := by
  classical
  refine forall_congr' fun _ => ?_
  constructor
  · rintro ⟨payload, hok, hserved⟩ records left hfirst
    obtain ⟨hfits, rfl⟩ := (payload_of_source_ok hfirst).1 hok
    exact ⟨hfits, (served_within_iff hfirst hfits).1 hserved⟩
  · intro h
    have hfirst := @firstFit_pack _ (PayloadFits source budget) _ (candidates source)
    obtain ⟨hfits, hzero⟩ := h _ _ hfirst
    exact ⟨_, (payload_of_source_ok hfirst).2 ⟨hfits, rfl⟩,
      (served_within_iff hfirst hfits).2 hzero⟩

/-- Two facts with the text `alpha`, found for this word. -/
def two_facts : RetrievalResult where
  schema := "an-kla/retrieval-result-v1"
  revision := 0
  requested_profile := SCAN_PROFILE
  profile := SCAN_PROFILE
  degradation := "none"
  streams_searched := [.facts]
  budget_bytes := no_budget
  used_bytes := 10
  fixed_overhead_bytes := 0
  per_record_overhead_bytes := 0
  excluded := .none
  selected := [⟨"a", .facts, 1, "alpha", 5, []⟩, ⟨"b", .facts, 1, "alpha", 5, []⟩]
  freshness := none
  empty_reason := none

/-- The first fact alone takes 286 bytes; to count the second one takes more. -/
theorem payload_fails : ¬∀ source budget, Degrades source budget := by
  intro h
  have hfits : PayloadFits two_facts 286 [] 2 :=
    (measurable_payload _ _ _ _).fits_iff.2 (by decide +kernel)
  obtain ⟨payload, hok, -⟩ := h two_facts 286 hfits
  have hfails : (payload_of_source two_facts 286).toOption = none := by decide +kernel
  rw [hok] at hfails
  exact Option.some_ne_none _ hfails

end AnKla
