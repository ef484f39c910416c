import AnKla.Guarantees.Minimum
import AnKla.Guarantees.Packing
import AnKla.Readers.Resume

/-!
# Resuming within a budget

What a resume shows under a budget depends on the budget by the records that retrieval
selects under it. But what makes it fail does not: it fails exactly when the payload without
evidence, with all scored records counted, does not fit.

* `project_spec`: a projection takes no more than this payload, if it fails, and fits if this
  payload does.
* `resume_minimum_least`: the minimum that is reported is the least budget that is enough.
* `resume_exact`.
-/

namespace AnKla

open PyJson Budget

variable {L : Lexicon} {I : Index} {store_snapshot : Option Digest → Except Failure Snapshot}

/-! ## Sizes -/

theorem fixed_point_of_measured {build : ℕ → Json} {u v w : ℕ} (h0 : (build 0).size = u)
    (hu : (build u).size = v) (hv : (build v).size = w) (hw : (build w).size = w) :
    size_at_fixed_point build = .ok w := by
  simp only [size_at_fixed_point, fixed_point_loop, canonical_length_eq, Option.getD_none, h0,
    Option.getD_some, hu]
  rw [if_neg (by simp)]
  by_cases h1 : v = u
  · have hwv : w = v := by rw [← hv, h1, hu, h1]
    rw [if_pos (congrArg some h1), hwv]
  · rw [if_neg (by simpa using h1), hv]
    by_cases h2 : w = v
    · rw [if_pos (congrArg some h2)]
    · rw [if_neg (by simpa using h2), hw, if_pos rfl]

/-- The size that states itself is found. -/
theorem Measurable.fixed_point {build : ℕ → Json} (h : Measurable build) :
    size_at_fixed_point build = .ok (exact_size build) :=
  fixed_point_of_measured (v := base_size build + width (base_size build + 1))
    (by rw [h, width_zero]) (h _) (h _) ((h _).trans (selfSize_eq _))

theorem size_pos (v : Json) : 0 < v.size := by
  obtain ⟨c, s, h, -⟩ := dumps_head v
  rw [Json.size, h, textSize_cons]
  exact Nat.add_pos_left c.utf8Size_pos _

/-- An array takes a byte for each of its elements, besides its brackets. -/
theorem length_le_size_arr (xs : List Json) : 2 + xs.length ≤ (Json.arr xs).size := by
  have helems (ys : List Json) : 2 * ys.length ≤ Json.elemsSize ys := by
    induction ys with
    | nil => exact le_rfl
    | cons y ys ih =>
      have := size_pos y
      rw [Json.elemsSize_cons, List.length_cons]
      omega
  rw [Json.size_arr]
  split_ifs with h
  · rw [h]
    rfl
  · have := helems xs
    have := List.length_pos_iff.2 h
    omega

theorem size_resume_exclusions (retrieval : Option RetrievalResult) :
    ∃ c, ∀ n, (resume_exclusions retrieval n).size = c + width n := by
  let count (reason : Reason) : Json :=
    .int ((retrieval.map fun r => r.excluded.count reason).getD 0 : ℕ)
  refine ⟨1 + Json.itemsSize [("inactive", count .inactive), ("zero_score", count .zero_score),
    ("invalid_record", count .invalid_record), ("no_text", count .no_text)] +
      textSize (dumpStr "budget") + 2, fun n => ?_⟩
  have hitems : (REASONS.map fun reason => (reason.name, Json.int
      (if reason = .budget then n
        else (retrieval.map fun r => r.excluded.count reason).getD 0 : ℕ))) =
      [("inactive", count .inactive), ("zero_score", count .zero_score), ("budget", .int n),
        ("invalid_record", count .invalid_record), ("no_text", count .no_text)] := rfl
  rw [resume_exclusions, hitems, size_dict (by simp) (by simp)]
  simp only [Json.itemsSize_cons, Json.itemsSize_nil, size_count]
  omega

/-- The bytes of a payload besides the budget, the count of the budget, the evidence and its
    own size. -/
theorem size_resume_value (c : Resumed) (retrieval : Option RetrievalResult) :
    ∃ base, ∀ limit evidence n, SelfSized (resume_value c retrieval limit evidence n)
      (base + width limit + (Json.arr evidence).size + width n) := by
  obtain ⟨e, he⟩ := size_resume_exclusions retrieval
  refine ⟨1 + Json.itemsSize [("schema", .str "an-kla/resume-v1"),
      ("untrusted_memory_data", .bool true), ("revision", .str (ident c.revision)),
      ("snapshot", c.snapshot), ("live_delta", .null),
      ("warnings", .arr ((resume_warnings c retrieval).map .str)),
      ("provenance", resume_provenance c.revision retrieval)] +
    textSize (dumpStr "budget_bytes") + textSize (dumpStr "used_bytes") +
    textSize (dumpStr "retrieved_evidence") + textSize (dumpStr "excluded_summary") + 8 + e,
    fun limit evidence n used => ?_⟩
  rw [resume_value, size_dict (by simp [resume_items]) (by simp [resume_items]), resume_items]
  simp only [List.cons_append, List.nil_append, Json.itemsSize_cons, Json.itemsSize_nil, he,
    size_count]
  omega

theorem measurable_resume (c : Resumed) (retrieval : Option RetrievalResult) (limit : ℕ)
    (evidence : List Json) (n : ℕ) : Measurable (resume_value c retrieval limit evidence n) :=
  let ⟨_, h⟩ := size_resume_value c retrieval
  (h limit evidence n).measurable

/-! ## One projection -/

/-- The records that are scored: selected by the retrieval, or over its budget. -/
def scored_total (retrieval : Option RetrievalResult) : ℕ :=
  (retrieval.map fun r => r.selected.length + r.excluded.count .budget).getD 0

/-- The size of the payload without evidence, with all scored records counted. -/
def resume_need (c : Resumed) (retrieval : Option RetrievalResult) (limit : ℕ) : ℕ :=
  exact_size (resume_value c retrieval limit [] (scored_total retrieval))

/-- To show a record takes no less than to count it. -/
theorem need_le_size {c : Resumed} {retrieval : Option RetrievalResult} {limit n : ℕ}
    {evidence : List Json} (h : evidence.length + n = scored_total retrieval) :
    resume_need c retrieval limit ≤ exact_size (resume_value c retrieval limit evidence n) := by
  obtain ⟨base, hbase⟩ := size_resume_value c retrieval
  rw [resume_need, exact_size, exact_size, (hbase _ _ _).base_eq, (hbase _ _ _).base_eq]
  refine selfSize_mono ?_
  have hwidth := width_add_le n evidence.length
  have harr := length_le_size_arr evidence
  have hempty : (Json.arr []).size = 2 := rfl
  rw [← h, Nat.add_comm evidence.length]
  omega

theorem size_le_need {c : Resumed} {retrieval : Option RetrievalResult} {limit n : ℕ}
    (h : n ≤ scored_total retrieval) :
    exact_size (resume_value c retrieval limit [] n) ≤ resume_need c retrieval limit := by
  obtain ⟨base, hbase⟩ := size_resume_value c retrieval
  rw [resume_need, exact_size, exact_size, (hbase _ _ _).base_eq, (hbase _ _ _).base_eq]
  exact selfSize_mono (Nat.add_le_add_left (width_mono h) _)

/-- The loop keeps some of the records as evidence, and counts the others. -/
theorem evidence_loop_ok {build : List Json → ℕ → ℕ → Json} (h : ∀ xs n, Measurable (build xs n))
    (limit : ℕ) (xs evidence : List Json) (n : ℕ) : ∃ evidence' n',
      evidence_loop build limit xs evidence n = .ok (evidence', n') ∧
        evidence'.length + n' = evidence.length + n + xs.length := by
  induction xs generalizing evidence n with
  | nil => exact ⟨evidence, n, rfl, rfl⟩
  | cons x xs ih =>
    rw [evidence_loop, (h _ _).fixed_point]
    simp only [bind, Except.bind]
    split_ifs
    · obtain ⟨evidence', n', hloop, hcount⟩ := ih (evidence ++ [x]) n
      refine ⟨evidence', n', hloop, ?_⟩
      rw [hcount, List.length_append, List.length_singleton, List.length_cons]
      omega
    · obtain ⟨evidence', n', hloop, hcount⟩ := ih evidence (n + 1)
      refine ⟨evidence', n', hloop, ?_⟩
      rw [hcount, List.length_cons]
      omega

/-- Evidence is taken back until the payload fits or there is none left. -/
theorem take_back_ok {build : List Json → ℕ → ℕ → Json} (h : ∀ xs n, Measurable (build xs n))
    (limit : ℕ) (turns : ℕ) (evidence : List Json) (n : ℕ) (hturns : evidence.length = turns) :
    ∃ evidence' n', take_back build limit turns evidence n =
        .ok (build evidence' n' (exact_size (build evidence' n')), exact_size (build evidence' n')) ∧
      evidence'.length + n' = evidence.length + n ∧
      (exact_size (build evidence' n') ≤ limit ∨ evidence' = []) := by
  induction turns generalizing evidence n with
  | zero =>
    refine ⟨evidence, n, ?_, rfl, .inr (List.length_eq_zero_iff.1 hturns)⟩
    rw [take_back, (h _ _).fixed_point]
    rfl
  | succ turns ih =>
    rw [take_back, (h _ _).fixed_point]
    simp only [bind, Except.bind]
    split_ifs with hover
    · obtain ⟨evidence', n', hloop, hcount, hfits⟩ := ih evidence.dropLast (n + 1)
        (by rw [List.length_dropLast, hturns]; rfl)
      refine ⟨evidence', n', hloop, ?_, hfits⟩
      rw [hcount, List.length_dropLast]
      omega
    · refine ⟨evidence, n, rfl, rfl, ?_⟩
      rw [not_and_or, not_lt, not_not] at hover
      exact hover

/-- What a projection returns. It fits exactly when the payload without evidence, with all
    scored records counted, does; and if it does not fit, it is not larger. -/
structure Projected (c : Resumed) (retrieval : Option RetrievalResult) (limit : ℕ)
    (result : Json × ℕ) : Prop where
  value : ∃ evidence n, result.1 = resume_value c retrieval limit evidence n result.2 ∧
    (result.2 ≤ limit → evidence.length + n = scored_total retrieval)
  size : result.1.size = result.2
  fits_iff : result.2 ≤ limit ↔ resume_need c retrieval limit ≤ limit
  le_need : limit < result.2 → result.2 ≤ resume_need c retrieval limit

theorem project_spec {c : Resumed} {limit : ℕ} {retrieval : Option RetrievalResult}
    (hr : resume_retrieval L I store_snapshot c limit = .ok retrieval) :
    ∃ result, project L I store_snapshot c limit = .ok result ∧
      Projected c retrieval limit result := by
  have hm (xs : List Json) (n : ℕ) := measurable_resume c retrieval limit xs n
  have hcounted : (retrieval.map fun r => r.excluded.count .budget).getD 0 ≤
      scored_total retrieval := by
    cases retrieval with
    | none => exact le_rfl
    | some r => exact Nat.le_add_left _ _
  rw [project, hr]
  simp only [bind, Except.bind, (hm _ _).fixed_point]
  split_ifs with hbase
  · refine ⟨_, rfl, ⟨[], _, rfl, fun hle => absurd hle hbase.not_ge⟩, (hm _ _).size, ?_,
      fun _ => size_le_need hcounted⟩
    have hneed := @size_le_need c retrieval limit _ hcounted
    exact ⟨fun hle => absurd hle hbase.not_ge, fun hle => hneed.trans hle⟩
  · obtain ⟨evidence, n, hloop, hcount⟩ := evidence_loop_ok hm limit
      ((retrieval.map fun r => r.selected.map (resume_evidence c.revision)).getD []) []
      ((retrieval.map fun r => r.excluded.count .budget).getD 0)
    obtain ⟨evidence', n', htake, hcount', hfits⟩ := take_back_ok hm limit _ evidence n rfl
    have htotal : evidence'.length + n' = scored_total retrieval := by
      rw [hcount', hcount]
      cases retrieval with
      | none => rfl
      | some r =>
        simp only [List.length_nil, Option.map_some, Option.getD_some, List.length_map,
          scored_total]
        omega
    have hlast (hover : limit < exact_size (resume_value c retrieval limit evidence' n')) :
        exact_size (resume_value c retrieval limit evidence' n') =
          resume_need c retrieval limit := by
      have hnil := hfits.resolve_left hover.not_ge
      rw [hnil, List.length_nil, Nat.zero_add] at htotal
      rw [hnil, htotal, resume_need]
    rw [hloop]
    simp only [htake]
    refine ⟨_, rfl, ⟨evidence', n', rfl, fun _ => htotal⟩, (hm _ _).size, ?_,
      fun hover => (hlast hover).le⟩
    refine ⟨(need_le_size htotal).trans, fun hneed => ?_⟩
    by_contra hover
    rw [← hlast (not_le.1 hover)] at hneed
    exact hover hneed

/-! ## All limits -/

/-- Two retrievals differ by the records that fit in their budgets only. -/
structure AlikeBut (r r' : RetrievalResult) : Prop where
  profile : r.profile = r'.profile
  degradation : r.degradation = r'.degradation
  count : ∀ reason, reason ≠ .budget → r.excluded.count reason = r'.excluded.count reason
  scored : r.selected.length + r.excluded.count .budget =
    r'.selected.length + r'.excluded.count .budget

/-- The arguments of the retrieval of a resume under a limit. -/
def resume_args (c : Resumed) (query : String) (limit : ℕ) : RetrieveArgs :=
  { query := query, budget := limit, profile := c.profile
    streams := some ["facts", "events", "episodes"], revision_id := some c.revision }

/-- The retrieval searches all streams of the revision that is resumed. -/
theorem resume_retrieval_some {c : Resumed} {query : String} (hq : c.query = some query)
    {limit : ℕ} {retrieval : Option RetrievalResult}
    (h : resume_retrieval L I store_snapshot c limit = .ok retrieval) :
    ∃ s, store_snapshot (some c.revision) = .ok s ∧
      retrieval = some (retrieve_from L I s (resume_args c query limit) STREAMS none) ∧
      (c.profile = SCAN_PROFILE || c.profile = INDEX_PROFILE) = true := by
  rw [resume_retrieval] at h
  simp only [hq] at h
  obtain ⟨r, hr, rfl⟩ := map_ok.1 h
  rw [retrieve_under_gate] at hr
  obtain ⟨_, -, hr⟩ := bind_ok.1 hr
  obtain ⟨_, -, hr⟩ := bind_ok.1 hr
  obtain ⟨_, -, hr⟩ := bind_ok.1 hr
  obtain ⟨_, hprofile, hr⟩ := bind_ok.1 hr
  obtain ⟨freshness, hfreshness, hr⟩ := bind_ok.1 hr
  obtain ⟨streams, hstreams, hr⟩ := bind_ok.1 hr
  obtain ⟨s, hs, hr⟩ := bind_ok.1 hr
  obtain rfl := pure_ok.1 hr
  obtain rfl : none = freshness := Except.ok.inj hfreshness
  obtain rfl : STREAMS = streams := by
    have hall : selected_streams (some ["facts", "events", "episodes"]) = .ok STREAMS := by
      decide
    exact Except.ok.inj (hall.symm.trans hstreams)
  exact ⟨s, hs, rfl, ensure_ok.1 hprofile⟩

theorem resume_retrieval_of {c : Resumed} {query : String} (hq : c.query = some query)
    {s : Snapshot} (hs : store_snapshot (some c.revision) = .ok s)
    (hprofile : (c.profile = SCAN_PROFILE || c.profile = INDEX_PROFILE) = true) (limit : ℕ) :
    resume_retrieval L I store_snapshot c limit =
      .ok (some (retrieve_from L I s (resume_args c query limit) STREAMS none)) := by
  have hall : selected_streams (some ["facts", "events", "episodes"]) = .ok STREAMS := by
    decide
  rw [resume_retrieval]
  simp only [hq]
  refine map_ok.2 ⟨_, ?_, rfl⟩
  rw [retrieve_under_gate]
  simp only [bind_ok, ensure_ok, exists_const, pure_ok]
  exact ⟨by simp, by simp, by simp, hprofile, none, rfl, STREAMS, hall, s, hs, rfl⟩

/-- The retrievals of a resume succeed under every limit or none, and are alike. -/
theorem resume_retrieval_alike {c : Resumed} {limit : ℕ} {retrieval : Option RetrievalResult}
    (h : resume_retrieval L I store_snapshot c limit = .ok retrieval) (limit' : ℕ) :
    ∃ retrieval', resume_retrieval L I store_snapshot c limit' = .ok retrieval' ∧
      Option.Rel AlikeBut retrieval retrieval' := by
  cases hq : c.query with
  | none =>
    rw [resume_retrieval] at h ⊢
    simp only [hq] at h ⊢
    cases h
    exact ⟨none, rfl, .none⟩
  | some query =>
    obtain ⟨s, hs, rfl, hprofile⟩ := resume_retrieval_some hq h
    refine ⟨_, resume_retrieval_of hq hs hprofile limit', .some ⟨rfl, rfl, ?_, ?_⟩⟩
    · intro reason hne
      rw [(counted_retrieve I s _ STREAMS none).excluded reason hne,
        (counted_retrieve I s _ STREAMS none).excluded reason hne]
      rfl
    · rw [(counted_retrieve I s _ STREAMS none).scored, (counted_retrieve I s _ STREAMS none).scored]
      rfl

/-- Alike retrievals are shown alike. -/
theorem resume_value_congr (c : Resumed) {r r' : Option RetrievalResult}
    (h : Option.Rel AlikeBut r r') : resume_value c r = resume_value c r' := by
  cases h with
  | none => rfl
  | @some r r' h =>
    have hexclusions : resume_exclusions (some r) = resume_exclusions (some r') := by
      funext n
      refine congrArg dict (List.map_congr_left fun reason _ => ?_)
      by_cases hb : reason = .budget
      · rw [if_pos hb, if_pos hb]
      · rw [if_neg hb, if_neg hb]
        simp only [Option.map_some, Option.getD_some, h.count reason hb]
    have hwarnings : resume_warnings c (some r) = resume_warnings c (some r') := by
      simp only [resume_warnings, Option.any_some, h.degradation]
    have hprovenance : resume_provenance c.revision (some r) =
        resume_provenance c.revision (some r') := by
      simp only [resume_provenance, Option.map_some, Option.getD_some, h.profile,
        Option.isSome_some]
    funext limit evidence n used
    simp only [resume_value, resume_items, hexclusions, hwarnings, hprovenance]

theorem scored_total_congr {r r' : Option RetrievalResult} (h : Option.Rel AlikeBut r r') :
    scored_total r = scored_total r' := by
  cases h with
  | none => rfl
  | some h => exact h.scored

/-- What the projections under all limits return: whether they fit is a matter of the digits
    of the limit. -/
structure Projections (L : Lexicon) (I : Index)
    (store_snapshot : Option Digest → Except Failure Snapshot) (c : Resumed)
    (result : ℕ → Json × ℕ) (need : ℕ → ℕ) : Prop where
  project : ∀ limit, project L I store_snapshot c limit = .ok (result limit)
  projected : ∀ limit, ∃ retrieval,
    resume_retrieval L I store_snapshot c limit = .ok retrieval ∧
      Projected c retrieval limit (result limit)
  approximates : Approximates (fun limit => (result limit).2) need

theorem projections_of_retrieval {c : Resumed} {limit : ℕ} {retrieval : Option RetrievalResult}
    (h : resume_retrieval L I store_snapshot c limit = .ok retrieval) :
    ∃ result need, Projections L I store_snapshot c result need := by
  obtain ⟨base, hbase⟩ := size_resume_value c retrieval
  have hall (limit' : ℕ) : ∃ result, project L I store_snapshot c limit' = .ok result ∧
      ∃ retrieval', resume_retrieval L I store_snapshot c limit' = .ok retrieval' ∧
        Projected c retrieval' limit' result ∧
        resume_need c retrieval' limit' =
          selfSize (base + width limit' + 2 + width (scored_total retrieval)) := by
    obtain ⟨retrieval', hr, halike⟩ := resume_retrieval_alike h limit'
    obtain ⟨result, hproject, hspec⟩ := project_spec hr
    refine ⟨result, hproject, retrieval', hr, hspec, ?_⟩
    rw [resume_need, ← resume_value_congr c halike, ← scored_total_congr halike, exact_size,
      (hbase _ _ _).base_eq]
    rfl
  choose result hproject retrievals hr hspec hneed using hall
  refine ⟨result, fun w => selfSize (base + w + 2 + width (scored_total retrieval)), hproject,
    fun limit' => ⟨retrievals limit', hr limit', hspec limit'⟩, fun limit' => ?_,
    fun limit' hlt => ?_⟩
  · rw [← hneed]
    exact (hspec limit').fits_iff
  · rw [← hneed]
    exact (hspec limit').le_need hlt

/-! ## The minimum -/

theorem candidates_loop_eq {size : ℕ → Except Failure ℕ} {measured : ℕ → ℕ}
    (h : ∀ limit, size limit = .ok (measured limit)) (band_end n candidate : ℕ) :
    candidates_loop size band_end n candidate = .ok (climb measured band_end n candidate) := by
  induction n generalizing candidate with
  | zero => rfl
  | succ n ih =>
    rw [candidates_loop, climb, h]
    simp only [bind, Except.bind]
    split_ifs
    · rfl
    · rfl
    · exact ih _

/-- The loop climbs through the bands. -/
theorem resume_minimum_loop_eq {size : ℕ → Except Failure ℕ} {measured : ℕ → ℕ}
    (h : ∀ limit, size limit = .ok (measured limit)) (bands lower : ℕ) :
    resume_minimum_loop size bands lower =
      .ok (climbBands measured MAX_BUDGET_BYTES bands lower) := by
  induction bands generalizing lower with
  | zero => rfl
  | succ bands ih =>
    rw [resume_minimum_loop, climbBands]
    simp only [candidates_loop_eq h, bandEnd, bind, Except.bind]
    split_ifs
    · rfl
    · cases climb measured (min MAX_BUDGET_BYTES (10 ^ width lower - 1)) 64 lower with
      | found candidate => rfl
      | beyond => exact ih _
      | unsettled => rfl

section

variable {c : Resumed} {result : ℕ → Json × ℕ} {need : ℕ → ℕ}

theorem resume_within_ok (h : Projections L I store_snapshot c result need) {budget : ℕ}
    {json : Json} : resume_within L I store_snapshot c budget = .ok json ↔
      (result budget).2 ≤ budget ∧ (result budget).1 = json := by
  rw [resume_within, h.project]
  have hsizes (limit : ℕ) : (project L I store_snapshot c limit).map Prod.snd =
      .ok (result limit).2 := by rw [h.project]; rfl
  simp only [Except.mapError, bind, Except.bind, resume_minimum, resume_minimum_loop_eq hsizes]
  split_ifs with hlt
  · exact ⟨fun h => (nomatch h), fun h => absurd h.1 hlt.not_ge⟩
  · exact ⟨fun h => ⟨not_lt.1 hlt, Except.ok.inj h⟩, fun h => congrArg Except.ok h.2⟩

theorem resume_within_budget (h : Projections L I store_snapshot c result need) {budget b : ℕ}
    {m : Option ℕ} : resume_within L I store_snapshot c budget = .error (.budget b m) ↔
      budget < (result budget).2 ∧ b = budget ∧
        m = climbBands (fun limit => (result limit).2) MAX_BUDGET_BYTES 10 (budget + 1) := by
  rw [resume_within, h.project]
  have hsizes (limit : ℕ) : (project L I store_snapshot c limit).map Prod.snd =
      .ok (result limit).2 := by rw [h.project]; rfl
  simp only [Except.mapError, bind, Except.bind, resume_minimum, resume_minimum_loop_eq hsizes]
  split_ifs with hlt
  · rw [Except.error.injEq, ResumeFailure.budget.injEq]
    exact ⟨fun h => ⟨hlt, h.1.symm, h.2.symm⟩, fun h => ⟨h.2.1.symm, h.2.2.symm⟩⟩
  · exact ⟨fun h => (nomatch h), fun h => absurd h.1 hlt⟩

/-- The minimum that is reported is above the budget, is enough, and no budget between them
    is. -/
theorem resume_minimum_least (h : Projections L I store_snapshot c result need) {budget b m : ℕ}
    (hfails : resume_within L I store_snapshot c budget = .error (.budget b (some m))) :
    budget < m ∧ (∃ json, resume_within L I store_snapshot c m = .ok json) ∧
      ∀ b', budget < b' → b' < m →
        ∃ m', resume_within L I store_snapshot c b' = .error (.budget b' m') := by
  obtain ⟨-, -, hm⟩ := (resume_within_budget h).1 hfails
  obtain ⟨-, hleast⟩ := isLeast_of_climbBands h.approximates hm.symm
  refine ⟨hleast.1.1, ⟨_, (resume_within_ok h).2 ⟨?_, rfl⟩⟩, fun b' habove hbelow => ?_⟩
  · exact (h.approximates.enough_iff m).2 hleast.1.2
  · refine ⟨_, (resume_within_budget h).2 ⟨?_, rfl, rfl⟩⟩
    by_contra hfits
    have henough := (h.approximates.enough_iff b').1 (not_lt.1 hfits)
    exact absurd (hleast.2 ⟨habove, henough⟩) hbelow.not_ge

end

/-! ## Conservation -/

/-- The evidence of a resume, and the exclusions that it counts. -/
def resume_counted (json : Json) : ℤ :=
  (match item json "retrieved_evidence" with
    | .arr evidence => (evidence.length : ℤ)
    | _ => 0) +
  (REASONS.map fun reason => count_of (item (item json "excluded_summary") reason.name)).sum

/-- The records of the three streams. -/
def stream_records (s : Snapshot) : ℕ := (STREAMS.map fun stream => (s.records.get stream).length).sum

theorem length_searched (s : Snapshot) : (searched s STREAMS).length = stream_records s := by
  rw [searched, List.length_flatMap, stream_records]
  simp only [List.length_map]

theorem nodup_resume_items (c : Resumed) (retrieval : Option RetrievalResult) (limit : ℕ)
    (evidence : List Json) (n used : ℕ) :
    ((resume_items c retrieval limit evidence n used).map Prod.fst).Nodup := by
  simp [resume_items]

theorem used_resume_value (c : Resumed) (retrieval : Option RetrievalResult) (limit : ℕ)
    (evidence : List Json) (n used : ℕ) :
    item (resume_value c retrieval limit evidence n used) "used_bytes" = .int used :=
  item_dict (nodup_resume_items _ _ _ _ _ _) (by simp [resume_items])

theorem counted_resume_value (c : Resumed) (retrieval : Option RetrievalResult) (limit : ℕ)
    (evidence : List Json) (n used : ℕ) :
    resume_counted (resume_value c retrieval limit evidence n used) =
      evidence.length + (REASONS.map fun reason => ((if reason = .budget then n
        else (retrieval.map fun r => r.excluded.count reason).getD 0 : ℕ) : ℤ)).sum := by
  have hevidence : item (resume_value c retrieval limit evidence n used) "retrieved_evidence" =
      .arr evidence := item_dict (nodup_resume_items _ _ _ _ _ _) (by simp [resume_items])
  have hexcluded : item (resume_value c retrieval limit evidence n used) "excluded_summary" =
      resume_exclusions retrieval n :=
    item_dict (nodup_resume_items _ _ _ _ _ _) (by simp [resume_items])
  rw [resume_counted, hevidence, hexcluded]
  refine congrArg ((evidence.length : ℤ) + ·) (congrArg List.sum (List.map_congr_left fun reason _ => ?_))
  have hnames : (REASONS.map Reason.name).Nodup := by decide
  rw [resume_exclusions, item_dict (by rwa [List.map_map]) (List.mem_map.2 ⟨reason, mem_REASONS reason, rfl⟩)]
  rfl

/-- With a query, every record of the streams is shown or counted. -/
theorem counted_of_query {c : Resumed} {query : String} (hq : c.query = some query) {limit : ℕ}
    {retrieval : Option RetrievalResult}
    (hr : resume_retrieval L I store_snapshot c limit = .ok retrieval) {evidence : List Json}
    {n : ℕ} (hn : evidence.length + n = scored_total retrieval) (used : ℕ) :
    ∃ s, store_snapshot (some c.revision) = .ok s ∧
      resume_counted (resume_value c retrieval limit evidence n used) = stream_records s := by
  obtain ⟨s, hs, rfl, -⟩ := resume_retrieval_some hq hr
  refine ⟨s, hs, ?_⟩
  have htotal := (counted_retrieve (L := L) I s (resume_args c query limit) STREAMS none).total
  rw [scored_total, Option.map_some, Option.getD_some] at hn
  rw [counted_resume_value, ← length_searched, ← htotal]
  simp only [REASONS, List.map_cons, List.map_nil, List.sum_cons, List.sum_nil, reduceCtorEq,
    if_true, if_false, Option.map_some, Option.getD_some]
  push_cast
  omega

/-- Without a query, there is one payload under each limit. -/
theorem project_without_query {c : Resumed} (hq : c.query = none) (limit : ℕ) :
    project L I store_snapshot c limit =
      .ok (resume_value c none limit [] 0 (exact_size (resume_value c none limit [] 0)),
        exact_size (resume_value c none limit [] 0)) := by
  have hm := measurable_resume c none limit [] 0
  rw [project, resume_retrieval]
  simp only [hq, bind, Except.bind, Option.map_none, Option.getD_none, hm.fixed_point]
  split_ifs
  · rfl
  · rw [evidence_loop]
    simp only [List.length_nil]
    rw [take_back, hm.fixed_point]
    rfl

/-- Without a query, nothing is shown and nothing is counted. -/
theorem counted_without_query (c : Resumed) (limit used : ℕ) :
    resume_counted (resume_value c none limit [] 0 used) = 0 := by
  rw [counted_resume_value]
  rfl

/-! ## The guarantee -/

/-- What is resumed is a matter of the budget only by its sign. -/
theorem resumed_ok {current : Except Failure Digest} {args : ResumeArgs} {c : Resumed} :
    resumed store_snapshot current args = .ok c ↔ 0 ≤ args.budget ∧ args.query ≠ some "" ∧
      ∃ revision, current = .ok revision ∧ ∃ s, store_snapshot (some revision) = .ok s ∧
        ∃ value, resume_snapshot s = .ok value ∧
          (⟨revision, value.1, value.2, args.query, args.profile⟩ : Resumed) = c := by
  rw [resumed]
  simp only [bind_ok, ensure_ok, exists_const, pure_ok, decide_eq_true_eq]

theorem resumed_budget {current : Except Failure Digest} {args : ResumeArgs} {c : Resumed}
    (h : resumed store_snapshot current args = .ok c) {budget : ℤ} (hb : 0 ≤ budget) :
    resumed store_snapshot current { args with budget := budget } = .ok c :=
  resumed_ok.2 ⟨hb, (resumed_ok.1 h).2⟩

/-- A resume that is served, or fails for its budget, has a retrieval. -/
theorem projections_of_within {c : Resumed} {budget : ℕ} {result : Except ResumeFailure Json}
    (h : resume_within L I store_snapshot c budget = result)
    (hresult : ∀ f, result ≠ .error (.failure f)) :
    ∃ value need, Projections L I store_snapshot c value need := by
  cases hr : resume_retrieval L I store_snapshot c budget with
  | ok retrieval => exact projections_of_retrieval hr
  | error f =>
    refine absurd ?_ (hresult f)
    rw [← h, resume_within, project, hr]
    rfl

/-- A resume has what it resumes, or fails otherwise. -/
theorem resume_under_gate_cases {current : Except Failure Digest} {args : ResumeArgs}
    {result : Except ResumeFailure Json}
    (h : resume_under_gate L I store_snapshot current args = result)
    (hresult : ∀ f, result ≠ .error (.failure f)) :
    ∃ c value need, resumed store_snapshot current args = .ok c ∧
      resume_within L I store_snapshot c args.budget.toNat = result ∧
      Projections L I store_snapshot c value need := by
  rw [resume_under_gate] at h
  cases hc : resumed store_snapshot current args with
  | error f =>
    rw [hc] at h
    exact absurd h.symm (hresult f)
  | ok c =>
    rw [hc] at h
    obtain ⟨value, need, hp⟩ := projections_of_within h hresult
    exact ⟨c, value, need, rfl, h, hp⟩

/-- A resume of the same under another budget. -/
theorem resume_under_gate_budget {current : Except Failure Digest} {args : ResumeArgs}
    {c : Resumed} (h : resumed store_snapshot current args = .ok c) {budget : ℤ}
    (hb : 0 ≤ budget) :
    resume_under_gate L I store_snapshot current { args with budget := budget } =
      resume_within L I store_snapshot c budget.toNat := by
  rw [resume_under_gate, resumed_budget h hb]
  rfl

/-- Packing a resume is exact: what is returned states its own size, within the budget, and
    with a query it shows or counts every record; without one, it shows and counts none. What
    fails for its budget reports the least budget that is enough, if it reports one. -/
theorem resume_exact (L : Lexicon) (I : Index)
    (store_snapshot : Option Digest → Except Failure Snapshot) (current : Except Failure Digest)
    (args : ResumeArgs) :
    (∀ json, resume_under_gate L I store_snapshot current args = .ok json →
      item json "used_bytes" = .int json.size ∧ (json.size : ℤ) ≤ args.budget ∧
      (args.query.isSome = true → ∃ revision s, current = .ok revision ∧
        store_snapshot (some revision) = .ok s ∧ resume_counted json = stream_records s) ∧
      (args.query = none → resume_counted json = 0)) ∧
    (∀ b m, resume_under_gate L I store_snapshot current args = .error (.budget b (some m)) →
      args.budget < m ∧
      (∃ json, resume_under_gate L I store_snapshot current { args with budget := m } =
        .ok json) ∧
      ∀ b' : ℤ, args.budget < b' → b' < m → ∃ b'' m', resume_under_gate L I store_snapshot current
        { args with budget := b' } = .error (.budget b'' m')) := by
  constructor
  · intro json h
    obtain ⟨c, value, need, hc, hwithin, hp⟩ := resume_under_gate_cases h fun _ => by simp
    obtain ⟨hbudget, -, revision, hcurrent, s, hs, shown, -, rfl⟩ := resumed_ok.1 hc
    obtain ⟨hfits, rfl⟩ := (resume_within_ok hp).1 hwithin
    obtain ⟨retrieval, hr, hprojected⟩ := hp.projected args.budget.toNat
    obtain ⟨evidence, n, hvalue, hcount⟩ := hprojected.value
    refine ⟨?_, ?_, fun hquery => ⟨revision, s, hcurrent, hs, ?_⟩, fun hnone => ?_⟩
    · rw [hprojected.size, hvalue]
      exact used_resume_value _ _ _ _ _ _
    · rw [hprojected.size]
      omega
    · obtain ⟨query, hq⟩ := Option.isSome_iff_exists.1 hquery
      obtain ⟨s', hs', hcounted⟩ := counted_of_query hq hr (hcount hfits)
        (value args.budget.toNat).2
      obtain rfl := Except.ok.inj (hs.symm.trans hs')
      rw [hvalue]
      exact hcounted
    · have heq := (hp.project args.budget.toNat).symm.trans (project_without_query hnone _)
      rw [Except.ok.inj heq]
      exact counted_without_query _ _ _
  · intro b m h
    obtain ⟨c, value, need, hc, hwithin, hp⟩ := resume_under_gate_cases h fun _ => by simp
    obtain ⟨habove, ⟨json, hjson⟩, hbelow⟩ := resume_minimum_least hp hwithin
    have hbudget := (resumed_ok.1 hc).1
    refine ⟨by omega, ⟨json, ?_⟩, fun b' hb' hlt => ?_⟩
    · rw [resume_under_gate_budget hc (by omega), Int.toNat_natCast]
      exact hjson
    · obtain ⟨m', hm'⟩ := hbelow b'.toNat (by omega) (by omega)
      exact ⟨b'.toNat, m', (resume_under_gate_budget hc (by omega)).trans hm'⟩

/-! ## One record -/

namespace OneRecord

def record : Json := dict [("id", .str "f"), ("text", .str "a fact")]

/-- A fact, under a checkpoint of the first version. -/
def revision : Snapshot where
  revision_id := 0
  manifest := OneSubject.manifest
  checkpoint := dict [("schema", .str "an-kla/checkpoint-v1")]
  records := ⟨[record], [], []⟩
  raw_records := ⟨[record], [], []⟩

def snapshots : Option Digest → Except Failure Snapshot := fun _ => .ok revision

/-- What is resumed of it. -/
def resumes (query : Option String) : Resumed where
  revision := 0
  snapshot := dict [("schema", .str "an-kla/resume-snapshot-v1"),
    ("checkpoint_digest", .str (ident 0)), ("checkpoint_schema", .str "an-kla/checkpoint-v1"),
    ("legacy_checkpoint_json", .str (String.ofList (dumps revision.checkpoint)))]
  warnings := ["legacy_checkpoint_v1"]
  query := query
  profile := SCAN_PROFILE

/-- A resume without a query. -/
def plain (budget : ℤ) : ResumeArgs := { budget := budget }

/-- A resume with a query that the fact matches. -/
def about (budget : ℤ) : ResumeArgs := { budget := budget, query := some "fact" }

theorem resumed_plain {budget : ℤ} (h : 0 ≤ budget) :
    resumed snapshots (.ok 0) (plain budget) = .ok (resumes none) :=
  resumed_ok.2 ⟨h, by simp [plain], 0, rfl, revision, rfl, _, rfl, rfl⟩

theorem resumed_about {budget : ℤ} (h : 0 ≤ budget) :
    resumed snapshots (.ok 0) (about budget) = .ok (resumes (some "fact")) :=
  resumed_ok.2 ⟨h, by simp [about], 0, rfl, revision, rfl, _, rfl, rfl⟩

/-- The retrieval under two thousand bytes. -/
def retrieved : RetrievalResult := retrieve_from OneFact.lexicon OneFact.without_index revision
  (resume_args (resumes (some "fact")) "fact" 2000) STREAMS none

theorem size_plain : (resume_value (resumes none) none 0 [] 0 0).size = 843 := by decide +kernel

theorem size_about : (resume_value (resumes (some "fact")) (some retrieved) 0 [] 0 0).size = 927 := by
  decide +kernel

/-- Without a query, the sizes are those of the envelope and the digits of the budget. -/
theorem need_plain (limit : ℕ) :
    exact_size (resume_value (resumes none) none limit [] 0) = selfSize (841 + width limit) := by
  obtain ⟨base, hbase⟩ := size_resume_value (resumes none) none
  have hsize := hbase 0 [] 0 0
  rw [size_plain] at hsize
  have hempty : (Json.arr []).size = 2 := rfl
  rw [exact_size, (hbase _ _ _).base_eq]
  refine congrArg selfSize ?_
  have hwidth := width_zero
  omega

theorem need_about :
    resume_need (resumes (some "fact")) (some retrieved) 2000 ≤ 2000 := by
  obtain ⟨base, hbase⟩ := size_resume_value (resumes (some "fact")) (some retrieved)
  have hsize := hbase 0 [] 0 0
  rw [size_about] at hsize
  have hempty : (Json.arr []).size = 2 := rfl
  have hscored : scored_total (some retrieved) = 1 := by decide +kernel
  have hwidth : width 0 = 1 ∧ width 1 = 1 ∧ width 2000 = 4 := by decide
  rw [resume_need, hscored, exact_size, (hbase _ _ _).base_eq, selfSize_le_iff]
  omega

/-- The fact is resumed under two thousand bytes. -/
theorem about_ok : ∃ json, resume_under_gate OneFact.lexicon OneFact.without_index snapshots (.ok 0)
    (about 2000) = .ok json := by
  have hr : resume_retrieval OneFact.lexicon OneFact.without_index snapshots
      (resumes (some "fact")) 2000 = .ok (some retrieved) :=
    @resume_retrieval_of _ _ _ (resumes (some "fact")) "fact" rfl revision rfl rfl 2000
  obtain ⟨result, need, hp⟩ := projections_of_retrieval hr
  obtain ⟨retrieval, hr', hprojected⟩ := hp.projected 2000
  obtain rfl := Except.ok.inj (hr.symm.trans hr')
  refine ⟨(result 2000).1, (resume_under_gate_budget (resumed_about le_rfl) (by decide)).trans ?_⟩
  exact (resume_within_ok hp).2 ⟨hprojected.fits_iff.2 need_about, rfl⟩

/-- Without a query, the envelope is resumed under the bytes it takes. -/
theorem within_plain (budget : ℕ) :
    resume_within OneFact.lexicon OneFact.without_index snapshots (resumes none) budget =
      if budget < selfSize (841 + width budget) then
        .error (.budget budget (climbBands (fun limit => selfSize (841 + width limit))
          MAX_BUDGET_BYTES 10 (budget + 1)))
      else .ok (resume_value (resumes none) none budget [] 0 (selfSize (841 + width budget))) := by
  have hproject (limit : ℕ) :
      project OneFact.lexicon OneFact.without_index snapshots (resumes none) limit =
        .ok (resume_value (resumes none) none limit [] 0 (selfSize (841 + width limit)),
          selfSize (841 + width limit)) := by
    rw [project_without_query rfl, need_plain]
  have hsizes (limit : ℕ) : (project OneFact.lexicon OneFact.without_index snapshots
      (resumes none) limit).map Prod.snd = .ok (selfSize (841 + width limit)) := by
    rw [hproject]
    rfl
  rw [resume_within, hproject]
  simp only [Except.mapError, bind, Except.bind, resume_minimum, resume_minimum_loop_eq hsizes]
  rfl

theorem plain_fails : resume_under_gate OneFact.lexicon OneFact.without_index snapshots (.ok 0)
    (plain 1) = .error (.budget 1 (some 847)) := by
  have hclimb : climbBands (fun limit => selfSize (841 + width limit)) MAX_BUDGET_BYTES 10 2 =
      some 847 := by decide
  refine (resume_under_gate_budget (resumed_plain le_rfl) (by decide)).trans ?_
  rw [Int.toNat_one, within_plain, if_pos (by decide), hclimb]

theorem plain_ok : ∃ json, resume_under_gate OneFact.lexicon OneFact.without_index snapshots (.ok 0)
    (plain 2000) = .ok json ∧ resume_counted json = 0 := by
  refine ⟨_, (resume_under_gate_budget (resumed_plain le_rfl) (by decide)).trans ?_,
    counted_without_query (resumes none) 2000 (selfSize (841 + width 2000))⟩
  have hbudget : (2000 : ℤ).toNat = 2000 := rfl
  rw [hbudget, within_plain, if_neg (by decide)]

end OneRecord

/-- The fact is counted with the query, and what is reported for one byte is enough. -/
theorem resume_exact_one_record :
    (∃ json, resume_under_gate OneFact.lexicon OneFact.without_index OneRecord.snapshots (.ok 0)
      (OneRecord.about 2000) = .ok json ∧ (json.size : ℤ) ≤ 2000 ∧ resume_counted json = 1) ∧
    (∃ json, resume_under_gate OneFact.lexicon OneFact.without_index OneRecord.snapshots (.ok 0)
      (OneRecord.plain 847) = .ok json ∧ resume_counted json = 0) := by
  have hexact := resume_exact OneFact.lexicon OneFact.without_index OneRecord.snapshots (.ok 0)
  constructor
  · obtain ⟨json, hjson⟩ := OneRecord.about_ok
    obtain ⟨-, hbudget, hquery, -⟩ := (hexact (OneRecord.about 2000)).1 json hjson
    obtain ⟨revision, s, -, hs, hcounted⟩ := hquery rfl
    obtain rfl := Except.ok.inj hs
    exact ⟨json, hjson, hbudget, hcounted⟩
  · obtain ⟨-, ⟨json, hjson⟩, -⟩ := (hexact (OneRecord.plain 1)).2 _ _ OneRecord.plain_fails
    exact ⟨json, hjson, ((hexact (OneRecord.plain 847)).1 json hjson).2.2.2 rfl⟩

/-- Without a query, the record of the streams is neither shown nor counted. -/
theorem uncounted_without_query : ¬∀ (L : Lexicon) (I : Index)
    (store_snapshot : Option Digest → Except Failure Snapshot) (revision : Digest) (s : Snapshot)
    (args : ResumeArgs) (json : Json), store_snapshot (some revision) = .ok s →
      resume_under_gate L I store_snapshot (.ok revision) args = .ok json →
        resume_counted json = stream_records s := by
  intro h
  obtain ⟨json, hjson, hcounted⟩ := OneRecord.plain_ok
  have hall := h _ _ OneRecord.snapshots 0 OneRecord.revision _ json rfl hjson
  rw [hcounted] at hall
  exact absurd hall (by decide)

end AnKla
