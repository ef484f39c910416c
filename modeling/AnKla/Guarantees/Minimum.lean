import AnKla.Crypto.Table
import AnKla.Readers.Cursor

/-!
# The minimum budget of the context view

A page of the view names its budget twice, and its size. So the bytes it takes depend on its
budget by the number of digits only (`size_build_page`), and the search for the minimum is
the one for the least budget that is enough (`Budgeted.minimum_loop`).

* `page_from_spec`: a request fails for its envelope, fails for its first subject, or serves
  some subjects.
* `view_minimum`: the minimum that is reported for a subject is exact. The one for the
  envelope is of the envelope only.
* `minimum_not_enough`: a view that fails at the minimum that it has reported.
-/

namespace AnKla

open PyJson Budget

variable {H : Crypto}

/-! ## Sizes -/

/-- Two items of an object cost their own sizes. -/
theorem exists_size_dict {kvs lws mws : List (String × Json)} {k l : String}
    (hk : (kvs.map Prod.fst ++ k :: (lws.map Prod.fst ++ l :: mws.map Prod.fst)).Nodup) :
    ∃ c, ∀ v w, (dict (kvs ++ (k, v) :: (lws ++ (l, w) :: mws))).size = c + v.size + w.size := by
  refine ⟨5 + textSize (dumpStr k) + textSize (dumpStr l) + Json.itemsSize kvs +
    Json.itemsSize lws + Json.itemsSize mws, fun v w => ?_⟩
  rw [size_dict (by simpa using hk) (by simp)]
  simp only [Json.itemsSize_append, Json.itemsSize_cons]
  omega

theorem size_public_inputs (v : ViewIdentity) (limit : ℕ) :
    ∃ c, ∀ budget, (public_inputs v limit budget).size = c + width budget := by
  obtain ⟨c, hc⟩ := @exists_size_dict v.items [] [] "limit" "budget_bytes"
    (by simp [ViewIdentity.items])
  exact ⟨c + width limit, fun budget => by rw [← size_count, ← size_count]; exact hc _ _⟩

theorem size_pagination (next_cursor : Option String) (served total truncated limit : ℕ) :
    ∃ c, ∀ budget used, (pagination next_cursor served total truncated limit budget used).size =
      c + width used + width budget := by
  obtain ⟨c, hc⟩ := @exists_size_dict [("complete", .bool next_cursor.isNone),
    ("next_cursor", nullable .str next_cursor), ("served_subjects", .int served),
    ("total_subjects", .int total), ("truncated_subjects", .int truncated)] []
    [("limit", .int limit)] "budget_used_bytes" "budget_bytes" (by simp)
  exact ⟨c, fun budget used => by rw [← size_count, ← size_count]; exact hc _ _⟩

/-- Payloads that name their budget twice, besides their size. -/
def Budgeted (build : ℕ → ℕ → Json) (base : ℕ) : Prop :=
  ∀ budget, SelfSized (build budget) (base + 2 * width budget)

/-- The bytes of such a payload under a budget of so many digits. -/
def budget_need (base w : ℕ) : ℕ := selfSize (base + 2 * w)

variable (H) in
/-- A page names its budget twice, besides its size. -/
theorem size_build_page (v : ViewIdentity) (u : Universe) (limit : ℕ) (selected : List Json)
    (next_index : ℕ) : ∃ base, Budgeted (build_page H v u limit selected next_index) base := by
  obtain ⟨c, hc⟩ := size_public_inputs v limit
  obtain ⟨e, he⟩ := size_pagination (next_cursor H v u next_index) selected.length u.refs.length
    (u.refs.length - next_index) limit
  obtain ⟨b, hb⟩ := @exists_size_dict (base_items v u limit 0 selected none 0 0 |>.take 9)
    [("freshness", view_freshness v),
      ("subjects_without_subject_ref",
        dict (v.streams.map fun stream => (stream.name, .int (u.missing stream)))),
      ("subjects", .arr selected), ("warnings", .arr ((u.warnings v.streams).map .str))] []
    "inputs" "pagination" (by simp [base_items])
  refine ⟨b + c + e, fun budget used => ?_⟩
  refine (hb _ _).trans ?_
  rw [hc, he]
  omega

/-- The payload that is found under a budget. -/
def measured_page (build : ℕ → ℕ → Json) (budget : ℕ) : Json :=
  build budget (exact_size (build budget))

section

variable {build : ℕ → ℕ → Json} {base : ℕ} (h : Budgeted build base)

include h

theorem Budgeted.exact_size_eq (budget : ℕ) :
    exact_size (build budget) = budget_need base (width budget) := by
  rw [exact_size, (h budget).base_eq, budget_need]

theorem Budgeted.payload (budget : ℕ) : exact_sized_payload (build budget) =
    .ok (measured_page build budget, budget_need base (width budget)) := by
  rw [(h budget).measurable.payload, measured_page, h.exact_size_eq]

theorem Budgeted.size (budget : ℕ) :
    (measured_page build budget).size = budget_need base (width budget) := by
  rw [measured_page, (h budget).measurable.size, h.exact_size_eq]

theorem Budgeted.fixed (budget : ℕ) : fixed (build budget) = .ok (measured_page build budget) := by
  rw [AnKla.fixed, h.payload]

/-- The loop is the search for the least budget that is enough: a candidate of the band needs
    no other size. -/
theorem Budgeted.minimum_loop (bands lower : ℕ) : minimum_budget_loop build bands lower =
    leastEnough (budget_need base) MAX_BUDGET_BYTES bands lower := by
  induction bands generalizing lower with
  | zero => rfl
  | succ bands ih =>
    rw [minimum_budget_loop, leastEnough, ← bandEnd]
    simp only [h.payload, h.size, ih]
    by_cases hmost : MAX_BUDGET_BYTES < lower
    · rw [if_pos hmost, if_pos hmost]
    · rw [if_neg hmost, if_neg hmost]
      by_cases hband : max lower (budget_need base (width lower)) ≤
          min MAX_BUDGET_BYTES (bandEnd lower)
      · rw [if_pos hband, if_pos hband, if_pos]
        rw [width_of_band (le_max_left _ _) (hband.trans (min_le_right _ _))]
        exact le_max_right _ _
      · rw [if_neg hband, if_neg hband]

/-- The reported minimum is the least budget above the provided one that is enough. -/
theorem Budgeted.minimum {provided m : ℕ} (hm : minimum_budget build provided = some m) :
    IsLeast (enough (budget_need base) (provided + 1)) m ∧ m ≤ MAX_BUDGET_BYTES :=
  isLeast_of_leastEnough ((h.minimum_loop _ _).symm.trans hm)

end

/-! ## Packing a page -/

/-- The loop takes the first subjects that are left, as many as fit and the limit allows. -/
theorem page_loop_spec {build : List Json → ℕ → ℕ → Json} (h : ∀ xs n, Measurable (build xs n))
    (show_subject : String → Json) (limit budget : ℕ) (refs : List String) (selected : List Json)
    (index : ℕ) : ∃ n ≤ refs.length,
      page_loop build show_subject limit budget refs selected index =
        .ok (selected ++ (refs.take n).map show_subject, index + n) ∧
      (0 < n → exact_size (build (selected ++ (refs.take n).map show_subject) (index + n)) ≤
        budget) ∧
      (0 < n → ∀ ref ∈ refs.head?,
        exact_size (build (selected ++ [show_subject ref]) (index + 1)) ≤ budget) ∧
      (n = 0 → selected.length < limit → ∀ ref ∈ refs.head?,
        budget < exact_size (build (selected ++ [show_subject ref]) (index + 1))) := by
  induction refs generalizing selected index with
  | nil => exact ⟨0, le_rfl, by simp [page_loop], by simp, by simp, by simp⟩
  | cons ref refs ih =>
    by_cases hlimit : selected.length < limit
    · have hloop : page_loop build show_subject limit budget (ref :: refs) selected index =
          if budget < exact_size (build (selected ++ [show_subject ref]) (index + 1)) then
            .ok (selected, index)
          else page_loop build show_subject limit budget refs (selected ++ [show_subject ref])
            (index + 1) := by
        rw [page_loop, if_pos hlimit]
        simp only [fixed, (h _ _).payload, bind, Except.bind, (h _ _).size]
      by_cases hfits : budget < exact_size (build (selected ++ [show_subject ref]) (index + 1))
      · refine ⟨0, Nat.zero_le _, ?_, by simp, by simp, fun _ _ => by simpa using hfits⟩
        rw [hloop, if_pos hfits, List.take_zero, List.map_nil, List.append_nil, Nat.add_zero]
      · obtain ⟨n, hn, hrest, hsize, -⟩ := ih (selected ++ [show_subject ref]) (index + 1)
        have happend : selected ++ ((ref :: refs).take (n + 1)).map show_subject =
            selected ++ [show_subject ref] ++ (refs.take n).map show_subject := by simp
        refine ⟨n + 1, Nat.succ_le_succ hn, ?_, fun _ => ?_, fun _ => by simpa using hfits, by simp⟩
        · rw [hloop, if_neg hfits, hrest, happend, Nat.add_right_comm, Nat.add_assoc]
        · rw [happend, Nat.add_comm n, ← Nat.add_assoc]
          rcases Nat.eq_zero_or_pos n with rfl | hpos
          · simpa using not_lt.1 hfits
          · exact hsize hpos
    · refine ⟨0, Nat.zero_le _, ?_, by simp, by simp, fun _ hlt => absurd hlt hlimit⟩
      rw [page_loop, if_neg hlimit, List.take_zero, List.map_nil, List.append_nil, Nat.add_zero]

variable (H) in
/-- The size of the page that serves these subjects before an index, under a budget. -/
def page_size (v : ViewIdentity) (u : Universe) (limit : ℕ) (selected : List Json)
    (next_index budget : ℕ) : ℕ := exact_size (build_page H v u limit selected next_index budget)

theorem page_size_eq {v : ViewIdentity} {u : Universe} {limit : ℕ} {selected : List Json}
    {next_index base : ℕ} (h : Budgeted (build_page H v u limit selected next_index) base)
    (budget : ℕ) : page_size H v u limit selected next_index budget =
      budget_need base (width budget) := h.exact_size_eq budget

variable (H) in
/-- So many subjects from an index on, as they are shown. -/
def served (s : Snapshot) (v : ViewIdentity) (u : Universe) (start n : ℕ) : List Json :=
  ((u.refs.drop start).take n).map (projected H s v u)

/-- What becomes of a request for a page. -/
inductive PageFrom (H : Crypto) (s : Snapshot) (v : ViewIdentity) (u : Universe) (page : ViewPage)
    (cursor : Option String) (start : ℕ) : Except ViewError Json → Prop
  /-- The page without subjects does not fit. -/
  | envelope : page.budget_bytes < page_size H v u page.limit [] start page.budget_bytes →
    PageFrom H s v u page cursor start
      (.error (budget_error (.envelope_exceeds_budget · page.budget_bytes cursor)
        page.budget_bytes cursor
        (minimum_budget (build_page H v u page.limit [] start) page.budget_bytes)))
  /-- It fits, the first subject does not. -/
  | subject {first} : u.refs[start]? = some first →
    page_size H v u page.limit [] start page.budget_bytes ≤ page.budget_bytes →
    page.budget_bytes <
      page_size H v u page.limit [projected H s v u first] (start + 1) page.budget_bytes →
    PageFrom H s v u page cursor start
      (.error (budget_error (.subject_exceeds_budget first · page.budget_bytes cursor)
        page.budget_bytes cursor
        (minimum_budget (build_page H v u page.limit [projected H s v u first] (start + 1))
          page.budget_bytes)))
  /-- Some subjects are served, if any is left. -/
  | served {n} : page_size H v u page.limit [] start page.budget_bytes ≤ page.budget_bytes →
    (∀ first, u.refs[start]? = some first → 0 < n ∧
      page_size H v u page.limit [projected H s v u first] (start + 1) page.budget_bytes ≤
        page.budget_bytes) →
    n ≤ u.refs.length - start →
    page_size H v u page.limit (served H s v u start n) (start + n) page.budget_bytes ≤
      page.budget_bytes →
    PageFrom H s v u page cursor start (.ok (measured_page
      (build_page H v u page.limit (AnKla.served H s v u start n) (start + n)) page.budget_bytes))

theorem page_from_spec (s : Snapshot) (v : ViewIdentity) (u : Universe) (page : ViewPage)
    (cursor : Option String) (start : ℕ) :
    PageFrom H s v u page cursor start (page_from H s v u page cursor start) := by
  have hm (xs : List Json) (n : ℕ) :
      Measurable (build_page H v u page.limit xs n page.budget_bytes) :=
    let ⟨_, hb⟩ := size_build_page H v u page.limit xs n
    (hb _).measurable
  have hfixed (xs : List Json) (n : ℕ) :
      fixed (build_page H v u page.limit xs n page.budget_bytes) =
        .ok (measured_page (build_page H v u page.limit xs n) page.budget_bytes) :=
    let ⟨_, hb⟩ := size_build_page H v u page.limit xs n
    hb.fixed _
  have hsize (xs : List Json) (n : ℕ) :
      (measured_page (build_page H v u page.limit xs n) page.budget_bytes).size =
        page_size H v u page.limit xs n page.budget_bytes := (hm xs n).size
  obtain ⟨n, hn, hloop, hfits, hfirst, hnone⟩ := @page_loop_spec
    (fun xs n => build_page H v u page.limit xs n page.budget_bytes) hm (projected H s v u)
    page.limit page.budget_bytes (u.refs.drop start) [] start
  rw [page_from]
  simp only [hfixed, bind, Except.bind, hsize, hloop, List.nil_append]
  by_cases henvelope :
      page.budget_bytes < page_size H v u page.limit [] start page.budget_bytes
  · rw [if_pos henvelope]
    exact .envelope henvelope
  · rw [if_neg henvelope]
    have henvelope := not_lt.1 henvelope
    rw [List.head?_drop] at hfirst hnone
    rcases Nat.eq_zero_or_pos n with rfl | hpos
    · cases hget : u.refs[start]? with
      | none => exact .served henvelope (by simp [hget]) (Nat.zero_le _) henvelope
      | some first => exact .subject hget henvelope (hnone rfl page.limit_pos first hget)
    · have hserved : PageFrom H s v u page cursor start (.ok (measured_page
          (build_page H v u page.limit (served H s v u start n) (start + n)) page.budget_bytes)) :=
        .served henvelope (fun first hget => ⟨hpos, hfirst hpos first hget⟩) (by simpa using hn)
          (hfits hpos)
      have hne : served H s v u start n ≠ [] := by
        rw [List.length_drop] at hn
        rw [served, Ne, ← List.length_eq_zero_iff, List.length_map, List.length_take,
          List.length_drop]
        omega
      rw [served] at hserved hne
      cases hs : ((u.refs.drop start).take n).map (projected H s v u) with
      | nil => exact absurd hs hne
      | cons x xs =>
        rw [hs] at hserved
        exact hserved

/-! ## The minimum -/

theorem derive_universe_error {s : Snapshot} {v : ViewIdentity} {e : ViewError}
    (h : derive_universe H s v = .error e) :
    ∃ stream record, e = .invalid_subject_ref_in_revision stream record := by
  rw [derive_universe] at h
  generalize (⟨[], fun _ => 0, []⟩ : Universe) = u at h
  generalize view_rows s v.streams = rows at h
  induction rows generalizing u with
  | nil => cases h
  | cons x rows ih =>
    rw [List.foldlM_cons] at h
    cases hstep : universe_step H v.subject_filter u x with
    | ok u' =>
      rw [hstep] at h
      exact ih u' h
    | error e' =>
      rw [hstep] at h
      cases h
      rw [universe_step] at hstep
      split at hstep
      · cases hstep
      · split at hstep
        · cases hstep
          exact ⟨_, _, rfl⟩
        · split_ifs at hstep

theorem decode_cursor_error {cursor : Option String} {revision identity_digest : Digest}
    {subjects : List String} {e : ViewError}
    (h : decode_cursor H cursor revision identity_digest subjects = .error e) :
    e = .cursor_invalid := by
  cases cursor with
  | none => cases h
  | some text =>
    rw [decode_cursor.eq_def] at h
    cases hread : read_cursor H revision identity_digest text with
    | none =>
      simp only [hread] at h
      exact (Except.error.inj h).symm
    | some next_subject =>
      simp only [hread] at h
      split_ifs at h
      exact (Except.error.inj h).symm

/-- A request fails for every page, and not for its budget; or it has a start. -/
theorem context_page_cases (s : Snapshot) (v : ViewIdentity) (cursor : Option String) :
    (∃ e, (∀ page, context_page H s v page cursor = .error e) ∧
      ((∃ stream record, e = .invalid_subject_ref_in_revision stream record) ∨
        e = .cursor_invalid)) ∨
    ∃ u start, derive_universe H s v = .ok u ∧
      decode_cursor H cursor v.revision (H.digest_json v.json) u.refs = .ok start ∧
      ∀ page, context_page H s v page cursor = page_from H s v u page cursor start := by
  simp only [context_page]
  cases hu : derive_universe H s v with
  | error e => exact .inl ⟨e, fun _ => rfl, .inl (derive_universe_error hu)⟩
  | ok u =>
    simp only [bind, Except.bind]
    cases hstart : decode_cursor H cursor v.revision (H.digest_json v.json) u.refs with
    | error e => exact .inl ⟨e, fun _ => rfl, .inr (decode_cursor_error hstart)⟩
    | ok start => exact .inr ⟨u, start, rfl, hstart, fun _ => rfl⟩

variable (H) in
/-- What a reported minimum is: above the budget, and no budget below it serves the page. -/
structure LeastBudget (s : Snapshot) (v : ViewIdentity) (page : ViewPage) (cursor : Option String)
    (m : ℕ) : Prop where
  above : page.budget_bytes < m
  within : m ≤ MAX_BUDGET_BYTES
  below : ∀ b (hb : b ≤ MAX_BUDGET_BYTES), page.budget_bytes < b → b < m →
    ∀ json, context_page H s v (page.retry b hb) cursor ≠ .ok json

section

variable {s : Snapshot} {v : ViewIdentity} {u : Universe} {page : ViewPage}
  {cursor : Option String} {start : ℕ}

/-- A served page leaves room for the page without subjects, and for the first subject. -/
theorem room_of_served {json : Json} (h : page_from H s v u page cursor start = .ok json) :
    page_size H v u page.limit [] start page.budget_bytes ≤ page.budget_bytes ∧
      ∀ first, u.refs[start]? = some first →
        page_size H v u page.limit [projected H s v u first] (start + 1) page.budget_bytes ≤
          page.budget_bytes := by
  have hspec := @page_from_spec H s v u page cursor start
  rw [h] at hspec
  cases hspec with
  | served henvelope hfirst _ _ => exact ⟨henvelope, fun first hget => (hfirst first hget).2⟩

/-- What fails for its envelope has no room for it, and reports its minimum. -/
theorem envelope_of_error {m b : ℕ} {c : Option String}
    (h : page_from H s v u page cursor start = .error (.envelope_exceeds_budget m b c)) :
    page.budget_bytes < page_size H v u page.limit [] start page.budget_bytes ∧
      minimum_budget (build_page H v u page.limit [] start) page.budget_bytes = some m := by
  have hspec := @page_from_spec H s v u page cursor start
  generalize page_from H s v u page cursor start = result at h hspec
  cases hspec with
  | envelope hlt =>
    cases hmin : minimum_budget (build_page H v u page.limit [] start) page.budget_bytes <;>
      rw [hmin] at h <;> cases h
    exact ⟨hlt, rfl⟩
  | @subject first =>
    cases hmin : minimum_budget (build_page H v u page.limit [projected H s v u first]
      (start + 1)) page.budget_bytes <;> rw [hmin] at h <;> cases h
  | served => cases h

/-- What fails for its first subject has room for the envelope only, and reports its minimum. -/
theorem subject_of_error {ref : String} {m b : ℕ} {c : Option String}
    (h : page_from H s v u page cursor start = .error (.subject_exceeds_budget ref m b c)) :
    u.refs[start]? = some ref ∧
      page_size H v u page.limit [] start page.budget_bytes ≤ page.budget_bytes ∧
      page.budget_bytes <
        page_size H v u page.limit [projected H s v u ref] (start + 1) page.budget_bytes ∧
      minimum_budget (build_page H v u page.limit [projected H s v u ref] (start + 1))
        page.budget_bytes = some m := by
  have hspec := @page_from_spec H s v u page cursor start
  generalize page_from H s v u page cursor start = result at h hspec
  cases hspec with
  | envelope =>
    cases hmin : minimum_budget (build_page H v u page.limit [] start) page.budget_bytes <;>
      rw [hmin] at h <;> cases h
  | @subject first hget henvelope hfirst =>
    cases hmin : minimum_budget (build_page H v u page.limit [projected H s v u first]
      (start + 1)) page.budget_bytes <;> rw [hmin] at h <;> cases h
    exact ⟨hget, henvelope, hfirst, hmin⟩
  | served => cases h

/-- Without room for the envelope, its minimum is reported. -/
theorem error_of_envelope
    (h : page.budget_bytes < page_size H v u page.limit [] start page.budget_bytes) :
    page_from H s v u page cursor start =
      .error (budget_error (.envelope_exceeds_budget · page.budget_bytes cursor)
        page.budget_bytes cursor
        (minimum_budget (build_page H v u page.limit [] start) page.budget_bytes)) := by
  have hspec := @page_from_spec H s v u page cursor start
  generalize page_from H s v u page cursor start = result at hspec
  cases hspec with
  | envelope => rfl
  | subject _ henvelope => exact absurd henvelope h.not_ge
  | served henvelope => exact absurd henvelope h.not_ge

/-- Without room for the first subject, its minimum is reported. -/
theorem error_of_subject {first : String} (hget : u.refs[start]? = some first)
    (henvelope : page_size H v u page.limit [] start page.budget_bytes ≤ page.budget_bytes)
    (h : page.budget_bytes <
      page_size H v u page.limit [projected H s v u first] (start + 1) page.budget_bytes) :
    page_from H s v u page cursor start =
      .error (budget_error (.subject_exceeds_budget first · page.budget_bytes cursor)
        page.budget_bytes cursor
        (minimum_budget (build_page H v u page.limit [projected H s v u first] (start + 1))
          page.budget_bytes)) := by
  have hspec := @page_from_spec H s v u page cursor start
  generalize page_from H s v u page cursor start = result at hspec
  cases hspec with
  | envelope hlt => exact absurd henvelope hlt.not_ge
  | subject hget' =>
    obtain rfl := Option.some.inj (hget.symm.trans hget')
    rfl
  | served _ hfirst => exact absurd (hfirst first hget).2 h.not_ge

/-- With room for the envelope and the first subject, a page is served. -/
theorem served_of_room
    (henvelope : page_size H v u page.limit [] start page.budget_bytes ≤ page.budget_bytes)
    (hfirst : ∀ first, u.refs[start]? = some first →
      page_size H v u page.limit [projected H s v u first] (start + 1) page.budget_bytes ≤
        page.budget_bytes) : ∃ json, page_from H s v u page cursor start = .ok json := by
  have hspec := @page_from_spec H s v u page cursor start
  generalize page_from H s v u page cursor start = result at hspec
  cases hspec with
  | envelope hlt => exact absurd henvelope hlt.not_ge
  | subject hget _ hlt => exact absurd (hfirst _ hget) hlt.not_ge
  | served => exact ⟨_, rfl⟩

end

/-- What the view reports as the minimum for a subject is the least budget that serves the
    page. What it reports for the envelope is above the budget, no budget below it serves the
    page, and under it the envelope fits. -/
theorem view_minimum (s : Snapshot) (v : ViewIdentity) (page : ViewPage)
    (cursor : Option String) :
    (∀ ref m b c, context_page H s v page cursor = .error (.subject_exceeds_budget ref m b c) →
      LeastBudget H s v page cursor m ∧
        ∀ hm, ∃ json, context_page H s v (page.retry m hm) cursor = .ok json) ∧
    (∀ m b c, context_page H s v page cursor = .error (.envelope_exceeds_budget m b c) →
      LeastBudget H s v page cursor m ∧ ∀ hm m' b' c',
        context_page H s v (page.retry m hm) cursor ≠
          .error (.envelope_exceeds_budget m' b' c')) := by
  rcases context_page_cases s v cursor with ⟨e, he, hkind⟩ | ⟨u, start, -, -, hpage⟩
  · constructor
    · intro ref m b c h
      cases (he page).symm.trans h
      simp at hkind
    · intro m b c h
      cases (he page).symm.trans h
      simp at hkind
  · obtain ⟨base, hbase⟩ := size_build_page H v u page.limit [] start
    constructor
    · intro ref m b c h
      obtain ⟨hget, henvelope, hlt, hmin⟩ := subject_of_error ((hpage page).symm.trans h)
      obtain ⟨base', hbase'⟩ :=
        size_build_page H v u page.limit [projected H s v u ref] (start + 1)
      obtain ⟨hleast, hle⟩ := hbase'.minimum hmin
      have hbases : base ≤ base' := by
        -- else the first subject would fit as well
        refine (not_lt.1 fun hle => ?_)
        rw [page_size_eq hbase] at henvelope
        rw [page_size_eq hbase'] at hlt
        have := selfSize_mono (Nat.add_le_add_right hle.le (2 * width page.budget_bytes))
        exact absurd (this.trans henvelope) hlt.not_ge
      refine ⟨⟨hleast.1.1, hle, fun b' hb' habove hbelow json hok => ?_⟩, fun hm => ?_⟩
      · obtain ⟨-, hroom⟩ := room_of_served ((hpage _).symm.trans hok)
        have hfits := (page_size_eq hbase' b').symm.trans_le (hroom ref hget)
        exact absurd (hleast.2 ⟨habove, hfits⟩) hbelow.not_ge
      · rw [hpage]
        refine served_of_room ?_ fun first hfirst => ?_
        · exact (page_size_eq hbase m).trans_le
            ((selfSize_mono (Nat.add_le_add_right hbases _)).trans hleast.1.2)
        · obtain rfl : ref = first := Option.some.inj (hget.symm.trans hfirst)
          exact (page_size_eq hbase' m).trans_le hleast.1.2
    · intro m b c h
      obtain ⟨hlt, hmin⟩ := envelope_of_error ((hpage page).symm.trans h)
      obtain ⟨hleast, hle⟩ := hbase.minimum hmin
      refine ⟨⟨hleast.1.1, hle, fun b' hb' habove hbelow json hok => ?_⟩,
        fun hm m' b' c' hagain => ?_⟩
      · obtain ⟨hfits, -⟩ := room_of_served ((hpage _).symm.trans hok)
        exact absurd (hleast.2 ⟨habove, (page_size_eq hbase b').symm.trans_le hfits⟩)
          hbelow.not_ge
      · obtain ⟨hlt', -⟩ := envelope_of_error ((hpage _).symm.trans hagain)
        exact absurd hleast.1.2 (hlt'.trans_eq (page_size_eq hbase m)).not_ge

/-! ## A minimum that is not enough

A revision with one fact. The envelope takes 1559 bytes, the page with the fact 1607. -/

/-- The error is about the budget. -/
def ViewError.lacks_budget : ViewError → Bool
  | .budget_measurement_unavailable .. | .envelope_exceeds_budget .. | .subject_exceeds_budget .. =>
    true
  | _ => false

/-- The minimum that an error reports. -/
def ViewError.minimum : ViewError → Option ℕ
  | .envelope_exceeds_budget minimum _ _ | .subject_exceeds_budget _ minimum _ _ => some minimum
  | _ => none

namespace OneSubject

def ref : String := "an-kla:subject:v1:doc:p-00000000000000000000000000000000:a"

/-- A fact with a hundred references. -/
def record : Json := dict [("id", .str "f"), ("subject_ref", .str ref),
  ("lineage", dict [("refs", .arr (List.replicate 100 (.int 7)))])]

def manifest : Manifest where
  schema := .v1
  revision := 1
  parent := none
  segments := ⟨[], [], []⟩
  checkpoint := 0
  transaction_id := .uuid 1
  canonicalization := "canonical-json/v1"
  integrity_claim := "content_identity_not_truth_or_authorship"
  store_identity := none
  supersedes_map := none
  features := none
  refutations_map := none
  compaction_epoch := none

def revision : Snapshot := ⟨0, manifest, dict [], ⟨[record], [], []⟩, ⟨[record], [], []⟩⟩

def view : ViewIdentity := ⟨0, STREAMS, none, .metadata, none, none⟩

/-- The records and the view, and what the digest of the cursor is of. -/
def contents : List Document :=
  [.json record, .json view.json, .json (cursor_core (.str CONTRACT_VERSION) (.str (ident 0))
    (.str (ident 1)) (.str ref))]

theorem ordered : Ordered contents := ordered_of_supposed (by decide +kernel) (by decide +kernel)

/-- A host that numbers these contents by their places. -/
noncomputable def host : Crypto := Crypto.ofTable _ ordered

def request : ViewPage := ⟨50, 1, by decide, by decide⟩

/-- The fact by its subject. -/
def subjects : Universe := ⟨[(ref, [(.facts, record)])], fun _ => 0,
  ["p-00000000000000000000000000000000"]⟩

theorem derive : derive_universe host revision view = .ok subjects := by
  rfl

theorem digest_view : host.digest_json view.json = 1 := by decide +kernel

theorem size_cursor : (Json.str (encode_cursor host 0 1 ref)).size = 636 := by
  have hd : host.json_ident (cursor_core (.str CONTRACT_VERSION) (.str (ident 0))
    (.str (ident 1)) (.str ref)) = .str (ident 2) := by decide +kernel
  rw [encode_cursor, size_hex_json, cursor_document, hd]
  decide +kernel

theorem size_pagination : (pagination (some (encode_cursor host 0 1 ref)) 0 1 1 50 1 0).size =
    781 := by
  rw [pagination, size_dict (by simp) (by simp)]
  simp only [List.cons_append, List.nil_append, Json.itemsSize_cons, Json.itemsSize_nil, nullable,
    Option.map_some, Option.getD_some, Option.isNone_some, size_cursor]
  decide +kernel

theorem size_base (served : List Json) (next_cursor : Option String) (truncated : ℕ) :
    (base_payload view subjects 50 1 served next_cursor truncated 0).size =
      767 + (Json.arr served).size +
        (pagination next_cursor served.length 1 truncated 50 1 0).size := by
  obtain ⟨c, hc⟩ := @exists_size_dict ((base_items view subjects 50 1 [] none 0 0).take 12)
    [("warnings", .arr ((subjects.warnings view.streams).map .str))] [] "subjects" "pagination"
    (by simp [base_items])
  have hnull : 775 = c + Json.null.size + Json.null.size := by
    refine Eq.trans ?_ (hc .null .null)
    decide +kernel
  have hfour : Json.null.size = 4 := by decide
  obtain rfl : c = 767 := by omega
  exact hc _ _

theorem size_envelope : (build_page host view subjects 50 [] 0 1 0).size = 1550 := by
  have hcursor : next_cursor host view subjects 0 = some (encode_cursor host 0 1 ref) := by
    rw [← digest_view]
    rfl
  have htotal : subjects.refs.length = 1 := rfl
  rw [build_page, hcursor, size_base, htotal, List.length_nil, Nat.sub_zero, size_pagination]
  rfl

theorem size_page : (build_page host view subjects 50
    [projected host revision view subjects ref] 1 1 0).size = 1598 := by
  rw [build_page, size_base]
  decide +kernel

/-- The bytes of the pages besides the digits of their budget and size. -/
theorem base_envelope : Budgeted (build_page host view subjects 50 [] 0) 1547 := by
  obtain ⟨base, hbase⟩ := size_build_page host view subjects 50 [] 0
  have hsize := hbase 1 0
  have hwidth : width 1 = 1 ∧ width 0 = 1 := by decide
  rw [size_envelope] at hsize
  obtain rfl : base = 1547 := by omega
  exact hbase

theorem base_page : Budgeted
    (build_page host view subjects 50 [projected host revision view subjects ref] 1) 1595 := by
  obtain ⟨base, hbase⟩ := size_build_page host view subjects 50
    [projected host revision view subjects ref] 1
  have hsize := hbase 1 0
  have hwidth : width 1 = 1 ∧ width 0 = 1 := by decide
  rw [size_page] at hsize
  obtain rfl : base = 1595 := by omega
  exact hbase

theorem context_page_eq (page : ViewPage) : context_page host revision view page none =
    page_from host revision view subjects page none 0 := by
  simp only [context_page, derive, bind, Except.bind, decode_cursor]

/-- Under a budget of one byte, the envelope does not fit. -/
theorem fails_at_one : context_page host revision view request none =
    .error (.envelope_exceeds_budget 1559 1 none) := by
  have hlt : request.budget_bytes <
      page_size host view subjects request.limit [] 0 request.budget_bytes := by
    rw [request, page_size_eq base_envelope]
    decide
  have hmin : minimum_budget (build_page host view subjects request.limit [] 0)
      request.budget_bytes = some 1559 := (base_envelope.minimum_loop _ _).trans (by decide)
  rw [context_page_eq, @error_of_envelope host revision view subjects request none 0 hlt, hmin,
    budget_error, request]

/-- The same request under the minimum that this reports. -/
def second_request : ViewPage := request.retry 1559 (by decide)

/-- Now the fact does not fit. -/
theorem fails_at_minimum : context_page host revision view second_request none =
    .error (.subject_exceeds_budget ref 1607 1559 none) := by
  have hbudget : second_request.budget_bytes = 1559 := rfl
  have hlimit : second_request.limit = 50 := rfl
  have hget : subjects.refs[0]? = some ref := rfl
  have henvelope : page_size host view subjects second_request.limit [] 0
      second_request.budget_bytes ≤ second_request.budget_bytes := by
    rw [hbudget, hlimit, page_size_eq base_envelope]
    decide
  have hlt : second_request.budget_bytes < page_size host view subjects second_request.limit
      [projected host revision view subjects ref] (0 + 1) second_request.budget_bytes := by
    rw [hbudget, hlimit, page_size_eq base_page]
    decide
  have hmin : minimum_budget (build_page host view subjects second_request.limit
      [projected host revision view subjects ref] (0 + 1)) second_request.budget_bytes =
        some 1607 := by
    rw [hbudget, hlimit, minimum_budget, base_page.minimum_loop]
    decide
  rw [context_page_eq, @error_of_subject host revision view subjects second_request none 0 ref
    hget henvelope hlt, hmin, budget_error, hbudget]

end OneSubject

/-- The envelope fits at the minimum that is reported for it; the first subject may not. -/
theorem minimum_not_enough : ¬∀ (H : Crypto) (s : Snapshot) (v : ViewIdentity) (page : ViewPage)
    (cursor : Option String) (e : ViewError) (m : ℕ),
      context_page H s v page cursor = .error e → e.minimum = some m →
        ∀ hm e', context_page H s v (page.retry m hm) cursor = .error e' →
          e'.lacks_budget = false := by
  intro h
  have := h _ _ _ _ _ _ _ OneSubject.fails_at_one rfl (by decide) _ OneSubject.fails_at_minimum
  cases this

/-- The fact is served under the minimum that is reported for it, and the envelope fits under
    the one that is reported for it. -/
theorem view_minimum_one_subject :
    (∃ json, context_page OneSubject.host OneSubject.revision OneSubject.view
      (OneSubject.second_request.retry 1607 (by decide)) none = .ok json) ∧
    LeastBudget OneSubject.host OneSubject.revision OneSubject.view OneSubject.request none 1559 :=
  ⟨((view_minimum OneSubject.revision OneSubject.view OneSubject.second_request none).1 _ _ _ _
      OneSubject.fails_at_minimum).2 (by decide),
    ((view_minimum OneSubject.revision OneSubject.view OneSubject.request none).2 _ _ _
      OneSubject.fails_at_one).1⟩

end AnKla
