import AnKla.Policy.Calendar
import AnKla.Policy.Proposals
import AnKla.Readers.Temporal

/-!
# The laws of time

* `days_between_mono`: complete days grow with the clock and fall with the instant that
  was verified.
* `FreshnessClass`: what a shown record is counted as.
* `temporal_laws`: canonical texts, ages and counts.
-/

namespace AnKla

open PyJson

/-! ## Ages -/

theorem days_between_eq (verified now : Instant) :
    days_between verified now = Int.tdiv ((now : ℤ) - verified) (micros_per_day : ℕ) := by
  rw [days_between]
  obtain h | h := le_total 0 ((now : ℤ) - verified)
  · obtain ⟨n, hn⟩ := Int.eq_ofNat_of_zero_le h
    rw [hn, Int.natAbs_natCast]
    obtain rfl | hpos := Nat.eq_zero_or_pos n
    · simp
    · rw [Int.sign_eq_one_of_pos (by exact_mod_cast hpos), one_mul]
      rfl
  · obtain ⟨n, hn⟩ := Int.exists_eq_neg_ofNat h
    rw [hn, Int.natAbs_neg, Int.natAbs_natCast, Int.neg_tdiv, Int.sign_neg]
    obtain rfl | hpos := Nat.eq_zero_or_pos n
    · simp
    · rw [Int.sign_eq_one_of_pos (by exact_mod_cast hpos), neg_one_mul]
      rfl

/-- Complete days grow with the clock, and fall with the instant that was verified. -/
theorem days_between_mono {t t' now now' : Instant} (ht : t' ≤ t) (hn : now ≤ now') :
    days_between t now ≤ days_between t' now' := by
  rw [days_between_eq, days_between_eq]
  refine Int.tdiv_le_tdiv (by decide) ?_
  have ht : (t' : ℤ) ≤ t := by exact_mod_cast ht
  have hn : (now : ℤ) ≤ now' := by exact_mod_cast hn
  linarith

/-- The keys of a projection are not repeated. -/
theorem nodup_freshness {verified_at : Json} (t now : Instant) (threshold : Option ℕ) :
    (([("verified_at", verified_at), ("days_since_verified", .int (days_between t now))] ++
      match threshold with
      | some threshold => if (threshold : ℤ) < days_between t now then [("stale", .bool true)] else []
      | none => []).map Prod.fst).Nodup := by
  cases threshold with
  | none => simp
  | some n =>
    dsimp only
    split_ifs <;> simp

theorem item_days_since_verified {text : String} {t : Instant}
    (h : parse_verified_at text = .ok t) (now : Instant) (threshold : Option ℕ) :
    item (dict (compute_freshness (.str text) now threshold)) "days_since_verified" =
      .int (days_between t now) := by
  rw [compute_freshness]
  simp only [h]
  exact item_dict (nodup_freshness t now threshold) (by simp)

/-! ## Counts -/

/-- A record that `summarize_freshness` counts as so many others. -/
inductive FreshnessClass
  | evaluated
  | not_evaluable
  | unparseable
  deriving DecidableEq

/-- The class of a state: a stale record is one of the evaluated ones. -/
def FreshnessState.freshness_class : FreshnessState → FreshnessClass
  | .unparseable => .unparseable
  | .evaluated _ => .evaluated
  | .not_evaluable => .not_evaluable

/-- What a shown record is counted as. -/
def freshness_class (shown : Json) : FreshnessClass := (freshness_state shown).freshness_class

/-- What a record should be counted as, by its timestamp. -/
def timestamp_class : Json → FreshnessClass
  | .str text => if (parse_verified_at text).isOk then .evaluated else .unparseable
  | _ => .not_evaluable

/-- So many records of a list are of a class. -/
def class_count (items : List Json) (c : FreshnessClass) : ℕ := (items.map freshness_class).count c

theorem class_count_eq (items : List Json) (c : FreshnessClass) : class_count items c =
    ((items.map freshness_state).map FreshnessState.freshness_class).count c := by
  rw [class_count, List.map_map]
  rfl

/-- Each state is counted in its class, and a stale record as stale too. -/
theorem count_states (states : List FreshnessState) :
    states.count (.evaluated true) + states.count (.evaluated false) =
        (states.map FreshnessState.freshness_class).count .evaluated ∧
      states.count .not_evaluable =
        (states.map FreshnessState.freshness_class).count .not_evaluable ∧
      states.count .unparseable =
        (states.map FreshnessState.freshness_class).count .unparseable := by
  induction states with
  | nil => exact ⟨rfl, rfl, rfl⟩
  | cons s states ih =>
    obtain ⟨h1, h2, h3⟩ := ih
    simp only [List.count_cons, List.map_cons, ← h1, ← h2, ← h3]
    rcases s with _ | ⟨_ | _⟩ | _ <;> simp [FreshnessState.freshness_class] <;> omega

/-- Every record is in one class. -/
theorem class_count_sum (items : List Json) : class_count items .evaluated +
    class_count items .not_evaluable + class_count items .unparseable = items.length := by
  induction items with
  | nil => rfl
  | cons x items ih =>
    simp only [class_count, List.map_cons, List.count_cons, List.length_cons] at ih ⊢
    rcases freshness_class x <;> simp <;> omega

theorem summarize_freshness_eq (items : List Json) : ∃ stale ≤ class_count items .evaluated,
    summarize_freshness items = [("evaluated", .int (class_count items .evaluated)),
      ("not_evaluable", .int (class_count items .not_evaluable)),
      ("unparseable", .int (class_count items .unparseable)), ("stale", .int stale)] := by
  obtain ⟨h1, h2, h3⟩ := count_states (items.map freshness_state)
  refine ⟨(items.map freshness_state).count (.evaluated true), ?_, ?_⟩
  · rw [class_count_eq, ← h1]
    exact Nat.le_add_right _ _
  · rw [summarize_freshness, class_count_eq, class_count_eq, class_count_eq, ← h1, ← h2, ← h3]

/-- A record is counted by its timestamp. -/
theorem freshness_class_projected (record : Json) (now : Instant) (threshold : Option ℕ) :
    freshness_class (dict (project_record_freshness record now threshold)) =
      timestamp_class (item record "verified_at") := by
  rw [project_record_freshness]
  cases item record "verified_at" with
  | str text =>
    rw [timestamp_class]
    cases hp : parse_verified_at text with
    | error e =>
      have herr : item (dict (compute_freshness (.str text) now threshold)) "freshness_error" =
          .str e.code := by
        rw [compute_freshness]
        simp only [hp]
        exact item_dict (by simp) (by simp)
      rw [freshness_class, freshness_state, herr, if_pos (by simp)]
      rfl
    | ok t =>
      have hdays := item_days_since_verified hp now threshold
      have hnone : item (dict (compute_freshness (.str text) now threshold)) "freshness_error" =
          .null := by
        refine item_of_not_mem fun hmem => ?_
        rw [compute_freshness] at hmem
        simp only [hp] at hmem
        replace hmem := (mem_keys_dict (nodup_freshness t now threshold)).1 hmem
        cases threshold with
        | none => simp at hmem
        | some n =>
          dsimp only at hmem
          split_ifs at hmem <;> simp at hmem
      have hsome : ((dict (compute_freshness (.str text) now threshold)).get?
          "days_since_verified").isSome = true := by
        by_contra hno
        rw [Option.not_isSome_iff_eq_none] at hno
        rw [item, hno] at hdays
        cases hdays
      rw [freshness_class, freshness_state, hnone, if_neg (by simp), if_pos hsome]
      rfl
  | _ => rfl

/-! ## The laws -/

/-- The laws of instants, their texts and their ages. -/
structure TemporalLaws : Prop where
  /-- The canonical text of an instant is read back. -/
  round_trip : ∀ t < max_instant, parse_verified_at (format_utc t) = .ok t
  /-- Canonical texts are in the order of their instants. -/
  order : ∀ t < max_instant, ∀ t' < max_instant, format_utc t < format_utc t' ↔ t < t'
  /-- The age that is shown grows with the clock, and falls with the timestamp. -/
  age : ∀ v v' t t', parse_verified_at v = .ok t → parse_verified_at v' = .ok t' → t' ≤ t →
    ∀ now now', now ≤ now' → ∀ threshold threshold', ∃ days days', days ≤ days' ∧
      item (dict (compute_freshness (.str v) now threshold)) "days_since_verified" =
        .int days ∧
      item (dict (compute_freshness (.str v') now' threshold')) "days_since_verified" =
        .int days'
  /-- A record that is shown is counted by its timestamp. -/
  classes : ∀ record now threshold,
    freshness_class (dict (project_record_freshness record now threshold)) =
      timestamp_class (item record "verified_at")
  /-- The counts are of the three classes, and add up. -/
  counts : ∀ items,
    (∃ stale ≤ class_count items .evaluated,
      summarize_freshness items = [("evaluated", .int (class_count items .evaluated)),
        ("not_evaluable", .int (class_count items .not_evaluable)),
        ("unparseable", .int (class_count items .unparseable)), ("stale", .int stale)]) ∧
    class_count items .evaluated + class_count items .not_evaluable +
      class_count items .unparseable = items.length

theorem temporal_laws : TemporalLaws where
  round_trip _ h := parse_format_utc h
  order _ h _ h' := format_utc_lt_iff h h'
  age _ _ t t' hv hv' ht now now' hn threshold threshold' :=
    ⟨days_between t now, days_between t' now', days_between_mono ht hn,
      item_days_since_verified hv now threshold, item_days_since_verified hv' now' threshold'⟩
  classes := freshness_class_projected
  counts items := ⟨summarize_freshness_eq items, class_count_sum items⟩

end AnKla
