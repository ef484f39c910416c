import AnKla.Guarantees.Retrieval
import AnKla.Readers.Evaluation
import Mathlib.Algebra.Order.BigOperators.Group.List
import Mathlib.Tactic.Positivity
import Mathlib.Tactic.FieldSimp

/-!
# The accounts of an evaluation

* `retrieve_call`, `Retrieved`: what a call of the evaluation selects, of the scored records.
* `eligible_eq`: the room for the ranking counts the records with a textual id.
* `ExactRanking`, `ExactRun`: what the claims of a report are.
* `evaluation_exact_iff`: the reports are exact just when every record that the query scores has
  a textual id.
-/

namespace AnKla.Evaluation

open PyJson Durable

variable {L : Lexicon} {H : Crypto}

/-! ## The calls -/

theorem EvalQuery.streams_nodup (q : EvalQuery) : q.streams.Nodup := by
  rw [← q.streams_sorted]
  exact List.Nodup.filter _ (by decide)

theorem dedupe_streams_eq {streams seen : List Stream} (h : streams.Nodup)
    (hseen : ∀ s ∈ streams, s ∉ seen) : dedupe_streams seen streams = streams := by
  induction streams generalizing seen with
  | nil => rfl
  | cons s streams ih =>
    obtain ⟨hnot, hnodup⟩ := List.nodup_cons.1 h
    rw [dedupe_streams, if_neg (hseen s List.mem_cons_self), ih hnodup fun t ht => ?_]
    exact List.not_mem_cons_of_ne_of_not_mem (fun he => hnot (he ▸ ht))
      (hseen t (List.mem_cons_of_mem _ ht))

/-- The streams of a query are searched as they are. -/
theorem selected_streams_call (q : EvalQuery) :
    selected_streams (some (q.streams.map Stream.name)) = .ok q.streams := by
  have hfound : (q.streams.map Stream.name).filterMap Stream.ofName = q.streams := by
    have hname : Stream.ofName ∘ Stream.name = some := funext Stream.ofName_name
    rw [List.filterMap_map, hname, List.filterMap_some]
  have hne : q.streams.map Stream.name ≠ [] := fun h => q.streams_ne (List.map_eq_nil_iff.1 h)
  rw [selected_streams, Option.getD_some, hfound, if_neg (by simp [hne]),
    dedupe_streams_eq q.streams_nodup fun _ _ => List.not_mem_nil]

variable {d : Disk} {revision : Digest} {s : Snapshot} {q : EvalQuery} {profile : String}

/-- A call with a budget returns what the snapshot gives. -/
theorem retrieve_call (hs : snapshot H d revision = .ok s)
    (hprofile : profile = SCAN_PROFILE ∨ profile = INDEX_PROFILE) {budget : ℤ} (hb : 0 ≤ budget)
    (I : Index) : retrieve L H I d (call_args revision q profile budget) =
      .ok (retrieve_from L I s (call_args revision q profile budget) q.streams none) := by
  have hp : (profile = SCAN_PROFILE || profile = INDEX_PROFILE : Bool) = true := by
    simpa using hprofile
  rw [retrieve, retrieve_under_gate]
  refine bind_ok.2 ⟨(), ensure_ok.2 (decide_eq_true hb), bind_ok.2 ⟨(), rfl, bind_ok.2 ⟨(),
    ensure_ok.2 (decide_eq_true hb), bind_ok.2 ⟨(), ensure_ok.2 hp, bind_ok.2 ⟨none, rfl,
    bind_ok.2 ⟨q.streams, selected_streams_call q, bind_ok.2 ⟨s, hs, rfl⟩⟩⟩⟩⟩⟩⟩

/-- What a call selects of the scored records, and what it leaves out for the budget. -/
structure Retrieved (L : Lexicon) (s : Snapshot) (q : EvalQuery) (budget : ℤ)
    (kept beyond : List Ranked) (r : RetrievalResult) : Prop where
  perm : (kept ++ beyond).Perm (scored L s q.query q.streams).1
  order : kept.Sublist (scored L s q.query q.streams).1
  ids : r.selected.map (fun x => (x.stream, x.id, x.score)) =
    kept.map fun x => (x.stream, x.identifier, x.score)
  beyond : r.excluded.count .budget = beyond.length
  within : 0 ≤ budget → r.used_bytes ≤ budget

theorem retrieved (I : Index) (budget : ℤ) : ∃ kept beyond, Retrieved L s q budget kept beyond
    (retrieve_from L I s (call_args revision q profile budget) q.streams none) := by
  have hnarrow := narrow_ranked (L := L) I s.revision_id q.query profile q.streams
    fun x hx => @score_pos_of_scored L s q.query q.streams x hx
  obtain ⟨kept, beyond, h⟩ := selects_fold budget 0 none (scored L s q.query q.streams).1
    ⟨[], 0, (scored L s q.query q.streams).2⟩
  rw [← hnarrow] at h
  refine ⟨kept, beyond, hnarrow ▸ h.perm, hnarrow ▸ h.order, ?_, ?_, h.within⟩
  · refine (congrArg (List.map _) h.selected).trans ?_
    rw [List.nil_append, List.map_map]
    rfl
  · refine (h.count .budget).trans ?_
    rw [if_pos rfl, scored_count, count_verdict_budget, Nat.zero_add]

/-- A budget with room for all records leaves none out. -/
theorem select_all {budget : ℤ} {xs : List Ranked} {acc : Selection}
    (h : acc.used + (xs.map fun x => x.cost 0).sum ≤ budget) :
    (xs.foldl (select budget 0 none) acc).excluded = acc.excluded := by
  induction xs generalizing acc with
  | nil => rfl
  | cons x xs ih =>
    rw [List.map_cons, List.sum_cons] at h
    have hrest : 0 ≤ (xs.map fun x => x.cost 0).sum := by
      refine List.sum_nonneg fun c hc => ?_
      obtain ⟨y, -, rfl⟩ := List.mem_map.1 hc
      rw [Ranked.cost]
      positivity
    have hroom : ¬budget < acc.used + x.cost 0 := by omega
    rw [List.foldl_cons, select, if_neg hroom, ih (by dsimp only; omega)]

/-! ## The records with a textual id -/

/-- The record ids of some streams are all different. -/
def Unambiguous (s : Snapshot) (streams : List Stream) : Prop :=
  ((searched s streams).map fun e => record_id e.2).Nodup

/-- The record counts for the room of the ranking. -/
def is_eligible (record : Json) : Bool :=
  (text_id record).isSome && is_active record && record_text record ≠ ""

theorem record_id_of_text_id {record : Json} {id : String} (h : text_id record = some id) :
    record_id record = id := by
  rw [text_id] at h
  split at h
  · next t ht =>
    split_ifs at h
    rw [record_id, ht]
    exact Option.some.inj h
  · cases h

theorem not_lacks_id_of_text_id {record : Json} {id : String} (h : text_id record = some id) :
    lacks_id record = false := by
  rw [text_id] at h
  split at h
  · next t ht =>
    split_ifs at h with hne
    rw [lacks_id, ht]
    split <;> simp_all
  · cases h

/-- The ids that `_eligible` looks at. -/
def text_ids (xs : List (Stream × Json)) : List String := xs.filterMap fun e => text_id e.2

theorem text_ids_cons_none {e : Stream × Json} {xs : List (Stream × Json)}
    (h : text_id e.2 = none) : text_ids (e :: xs) = text_ids xs := by
  rw [text_ids, List.filterMap_cons, h, text_ids]

theorem text_ids_cons_some {e : Stream × Json} {xs : List (Stream × Json)} {id : String}
    (h : text_id e.2 = some id) : text_ids (e :: xs) = id :: text_ids xs := by
  rw [text_ids, List.filterMap_cons, h, text_ids]

/-- They are among the record ids. -/
theorem text_ids_sublist (xs : List (Stream × Json)) :
    (text_ids xs).Sublist (xs.map fun e => record_id e.2) := by
  induction xs with
  | nil => exact .slnil
  | cons e xs ih =>
    rw [List.map_cons]
    cases hid : text_id e.2 with
    | none =>
      rw [text_ids_cons_none hid]
      exact ih.cons _
    | some id =>
      rw [text_ids_cons_some hid, record_id_of_text_id hid]
      exact ih.cons_cons _

/-- Without a repeated id, `_eligible` returns the eligible records. -/
theorem eligible_loop_eq {xs : List (Stream × Json)} {seen : List String}
    (h : (text_ids xs).Nodup) (hseen : ∀ id ∈ text_ids xs, id ∉ seen) :
    eligible_loop seen xs = .ok ((xs.filter fun e => is_eligible e.2).map fun e =>
      (e.1, e.2, record_text e.2)) := by
  induction xs generalizing seen with
  | nil => rfl
  | cons e xs ih =>
    obtain ⟨stream, record⟩ := e
    rw [eligible_loop]
    cases hid : text_id record with
    | none =>
      rw [text_ids_cons_none hid] at h hseen
      have hnot : ¬is_eligible record = true := by simp [is_eligible, hid]
      rw [List.filter_cons, if_neg hnot]
      exact ih h hseen
    | some id =>
      rw [text_ids_cons_some hid] at h hseen
      obtain ⟨hfresh, hnodup⟩ := List.nodup_cons.1 h
      have hrest : eligible_loop (id :: seen) xs = .ok ((xs.filter fun e => is_eligible e.2).map
          fun e => (e.1, e.2, record_text e.2)) := by
        refine ih hnodup fun id' hid' => List.not_mem_cons_of_ne_of_not_mem
          (fun he => hfresh (he ▸ hid')) (hseen id' (List.mem_cons_of_mem _ hid'))
      have heligible : is_eligible record = (is_active record && record_text record ≠ "") := by
        rw [is_eligible, hid, Option.isSome_some, Bool.true_and]
      dsimp only
      rw [if_neg (hseen id List.mem_cons_self)]
      split_ifs with hkeep
      · rw [List.filter_cons, if_pos (heligible.trans hkeep), hrest]
        rfl
      · rw [List.filter_cons, if_neg (heligible ▸ hkeep)]
        exact hrest

theorem eligible_eq (h : Unambiguous s q.streams) : eligible s q.streams =
    .ok (((searched s q.streams).filter fun e => is_eligible e.2).map fun e =>
      (e.1, e.2, record_text e.2)) :=
  eligible_loop_eq (h.sublist (text_ids_sublist _)) fun _ _ => List.not_mem_nil

variable (s q) in
/-- The bytes of the eligible records. -/
def room : ℕ := (((searched s q.streams).filter fun e => is_eligible e.2).map fun e =>
  utf8_length (record_text e.2)).sum

theorem ranking_budget_eq (h : Unambiguous s q.streams) :
    ranking_budget s q.streams = .ok (room s q) := by
  rw [ranking_budget, eligible_eq h]
  refine congrArg Except.ok ?_
  rw [List.map_map, room]
  rfl

variable (L s q) in
/-- Every record that the query scores has a textual id. -/
def TextIds : Prop := ∀ e ∈ searched s q.streams, verdict L q.query e.2 = none →
  (text_id e.2).isSome = true

/-- A record with a textual id is eligible and scored, or has a verdict. -/
theorem scored_iff {record : Json} : verdict L q.query record = none ∧
    (text_id record).isSome = true ↔ is_eligible record = true ∧ overlap L q.query record ≠ 0 := by
  have hbucket (hid : (text_id record).isSome = true) : (retrieval_bucket record).reason = none ↔
      is_active record = true ∧ record_text record ≠ "" := by
    obtain ⟨id, hid⟩ := Option.isSome_iff_exists.1 hid
    rw [retrieval_bucket, not_lacks_id_of_text_id hid]
    cases is_active record <;> by_cases ht : record_text record = "" <;> simp [ht, Bucket.reason]
  rw [verdict_none, is_eligible, Bool.and_eq_true, Bool.and_eq_true, decide_eq_true_eq]
  constructor
  · rintro ⟨⟨hb, ho⟩, hid⟩
    exact ⟨⟨⟨hid, ((hbucket hid).1 hb).1⟩, ((hbucket hid).1 hb).2⟩, ho⟩
  · rintro ⟨⟨⟨hid, ha⟩, ht⟩, ho⟩
    exact ⟨⟨(hbucket hid).2 ⟨ha, ht⟩, ho⟩, hid⟩

/-- The eligible records that the query scores. -/
theorem filter_scored (xs : List (Stream × Json)) :
    (xs.filter fun e => is_eligible e.2).filter (fun e => overlap L q.query e.2 ≠ 0) =
      (xs.filter fun e => verdict L q.query e.2 = none).filter fun e => (text_id e.2).isSome := by
  rw [List.filter_filter, List.filter_filter]
  refine List.filter_congr fun e _ => ?_
  rw [Bool.eq_iff_iff, Bool.and_eq_true, Bool.and_eq_true, decide_eq_true_eq, decide_eq_true_eq,
    and_comm, ← scored_iff (q := q), and_comm]

/-! ## The metrics -/

theorem mapM_eq_ok {α β : Type} {f : α → Except Failure β} {g : α → β} {xs : List α}
    (h : ∀ x ∈ xs, f x = .ok (g x)) : xs.mapM f = .ok (xs.map g) := by
  induction xs with
  | nil => rfl
  | cons x xs ih =>
    rw [List.mapM_cons]
    exact bind_ok.2 ⟨g x, h x List.mem_cons_self, bind_ok.2 ⟨xs.map g,
      ih fun y hy => h y (List.mem_cons_of_mem _ hy), rfl⟩⟩

theorem ratio_eq {numerator : ℕ} {denominator : ℤ} (h : 0 < denominator) :
    ratio numerator denominator = .ok ⟨numerator, denominator, numerator / denominator⟩ := by
  rw [ratio, if_neg (not_le.2 h)]

/-- The entry of a depth, in a vector of metrics. -/
def at_k (numerator : ℕ) (k denominator : ℤ) : AtK :=
  ⟨k, numerator, denominator, numerator / denominator⟩

/-- The metrics of a ranking are there, for depths and relevant records that there are. -/
theorem ranking_metrics_eq {ranked relevant : List String} {k_values : List ℤ}
    (hk : ∀ k ∈ k_values, 0 < k) (hr : relevant ≠ []) :
    ∃ metrics, ranking_metrics ranked relevant k_values = .ok metrics ∧
      metrics.recall_at_k = k_values.map (fun k =>
        at_k (hits (ranked.take k.toNat) relevant) k relevant.length) ∧
      metrics.unretrieved_relevant = relevant.filter (· ∉ ranked) := by
  have hpos : (0 : ℤ) < relevant.length := by
    exact_mod_cast List.length_pos_iff.2 hr
  have hprecision : (k_values.mapM fun k => do
      let metric ← ratio (hits (ranked.take k.toNat) relevant) k
      return (⟨k, metric⟩ : AtK)) =
        .ok (k_values.map fun k => at_k (hits (ranked.take k.toNat) relevant) k k) :=
    mapM_eq_ok fun k hmem => bind_ok.2 ⟨_, ratio_eq (hk k hmem), rfl⟩
  have hrecall : (k_values.mapM fun k => do
      let metric ← ratio (hits (ranked.take k.toNat) relevant) relevant.length
      return (⟨k, metric⟩ : AtK)) =
        .ok (k_values.map fun k => at_k (hits (ranked.take k.toNat) relevant) k relevant.length) :=
    mapM_eq_ok fun k _ => bind_ok.2 ⟨_, ratio_eq hpos, rfl⟩
  obtain ⟨mrr, hmrr⟩ : ∃ mrr, reciprocal_rank (first_relevant ranked relevant) = .ok mrr := by
    rw [first_relevant]
    cases ranked.findIdx? (· ∈ relevant) with
    | none => exact ⟨_, ratio_eq (by decide)⟩
    | some n => exact ⟨_, ratio_eq (Int.natCast_pos.2 n.succ_pos)⟩
  rw [ranking_metrics]
  exact ⟨_, bind_ok.2 ⟨_, hprecision, bind_ok.2 ⟨_, hrecall, bind_ok.2 ⟨mrr, hmrr, rfl⟩⟩⟩, rfl, rfl⟩

/-- So are those of a budget. -/
theorem budget_metrics_eq (selected ranked : List String) {relevant : List String}
    (hr : relevant ≠ []) : ∃ metrics, budget_metrics selected ranked relevant = .ok metrics ∧
      metrics.excluded_relevant_by_budget =
        ranked.filter fun id => id ∈ relevant && id ∉ selected := by
  have hpos : (0 : ℤ) < relevant.length := by
    exact_mod_cast List.length_pos_iff.2 hr
  have hone : (0 : ℤ) < (max selected.length 1 : ℕ) := by
    exact_mod_cast lt_of_lt_of_le Nat.one_pos (le_max_right _ _)
  rw [budget_metrics]
  exact ⟨_, bind_ok.2 ⟨_, ratio_eq hone, bind_ok.2 ⟨_, ratio_eq hpos, rfl⟩⟩, rfl⟩

/-- More of a ranking has at least as many hits. -/
theorem hits_take_le (ranked relevant : List String) {k k' : ℕ} (h : k ≤ k') :
    hits (ranked.take k) relevant ≤ hits (ranked.take k') relevant :=
  (List.take_prefix_take_left h).sublist.countP_le

/-- What is relevant is ranked or unretrieved. -/
theorem hits_add_unretrieved {ranked relevant : List String} (h : ranked.Nodup)
    (hr : relevant.Nodup) :
    hits ranked relevant + (relevant.filter (· ∉ ranked)).length = relevant.length := by
  have hperm : (ranked.filter (· ∈ relevant)).Perm (relevant.filter (· ∈ ranked)) := by
    refine (List.perm_ext_iff_of_nodup (h.filter _) (hr.filter _)).2 fun id => ?_
    simp only [List.mem_filter, decide_eq_true_eq]
    exact And.comm
  have hsplit := List.length_eq_countP_add_countP (fun id => decide (id ∈ ranked)) (l := relevant)
  rw [hits, List.countP_eq_length_filter, hperm.length_eq, ← List.countP_eq_length_filter,
    ← List.countP_eq_length_filter, hsplit]
  simp

/-- The relevant ids are split between the selected ones, those left out of the ranking by the
budget, and those that are not in the ranking. -/
theorem split_relevant {selected ranked relevant : List String} (hs : selected.Nodup)
    (h : ranked.Nodup) (hr : relevant.Nodup) (hsub : ∀ id ∈ selected, id ∈ ranked) :
    (selected.filter (· ∈ relevant) ++
      (ranked.filter fun id => id ∈ relevant && id ∉ selected) ++
      relevant.filter (· ∉ ranked)).Perm relevant := by
  refine (List.perm_ext_iff_of_nodup ?_ hr).2 fun id => ?_
  · refine List.Nodup.append (List.Nodup.append (hs.filter _) (h.filter _) ?_) (hr.filter _) ?_
    · intro id hid hid'
      simp only [List.mem_filter, Bool.and_eq_true, decide_eq_true_eq] at hid hid'
      exact hid'.2.2 hid.1
    · intro id hid hid'
      simp only [List.mem_append, List.mem_filter, Bool.and_eq_true, decide_eq_true_eq] at hid hid'
      obtain ⟨hsel, -⟩ | ⟨hrank, -⟩ := hid
      · exact hid'.2 (hsub id hsel)
      · exact hid'.2 hrank
  · simp only [List.mem_append, List.mem_filter, Bool.and_eq_true, decide_eq_true_eq]
    have := hsub id
    tauto

/-! ## The ranking -/

/-- What a record is ranked as: its stream, its id and its score. -/
def Ranked.row (x : Ranked) : Stream × String × ℕ := (x.stream, x.identifier, x.score)

variable (L q) in
/-- The row of a record of the snapshot. -/
def row_of (e : Stream × Json) : Stream × String × ℕ :=
  (e.1, record_id e.2, overlap L q.query e.2)

variable (L s q) in
/-- The rows of the scored records are those of the records without a verdict. -/
theorem scored_rows : ((scored L s q.query q.streams).1.map Ranked.row).Perm
    (((searched s q.streams).filter fun e => verdict L q.query e.2 = none).map (row_of L q)) := by
  refine ((scored_perm s q.query q.streams).map _).trans (.of_eq ?_)
  rw [List.map_map]
  rfl

/-- With textual ids, the records without a verdict are the eligible ones that are scored. -/
theorem filter_verdict (h : TextIds L s q) :
    (searched s q.streams).filter (fun e => verdict L q.query e.2 = none) =
      ((searched s q.streams).filter fun e => is_eligible e.2).filter
        fun e => overlap L q.query e.2 ≠ 0 := by
  rw [filter_scored]
  refine (List.filter_eq_self.2 fun e he => ?_).symm
  obtain ⟨he, hv⟩ := List.mem_filter.1 he
  exact h e he (of_decide_eq_true hv)

/-- With textual ids, the scored records fit into the room. -/
theorem cost_le_room (h : TextIds L s q) :
    ((scored L s q.query q.streams).1.map fun x => x.cost 0).sum ≤ (room s q : ℤ) := by
  have hperm := ((scored_perm (L := L) s q.query q.streams).map fun x => x.cost 0).sum_eq
  rw [hperm, List.map_map, filter_verdict h, room]
  have hsum (xs : List (Stream × Json)) : (xs.map ((fun x => x.cost 0) ∘ rank L q.query)).sum =
      ((xs.map fun e => utf8_length (record_text e.2)).sum : ℕ) := by
    induction xs with
    | nil => rfl
    | cons e xs ih =>
      rw [List.map_cons, List.sum_cons, ih, List.map_cons, List.sum_cons, Nat.cast_add]
      rfl
  rw [hsum, Nat.cast_le]
  exact (List.filter_sublist.map _).sum_le_sum fun _ _ => Nat.zero_le _

theorem count_scored_budget (L : Lexicon) (s : Snapshot) (q : EvalQuery) :
    (scored L s q.query q.streams).2.count .budget = 0 := by
  rw [scored_count, count_verdict_budget]

/-- So the room excludes nothing for the budget. -/
theorem room_enough (I : Index) (h : TextIds L s q) :
    (retrieve_from L I s (call_args revision q profile (room s q)) q.streams none).excluded.count
      .budget = 0 := by
  have hnarrow := narrow_ranked (L := L) I s.revision_id q.query profile q.streams
    fun x hx => @score_pos_of_scored L s q.query q.streams x hx
  have hall := @select_all (room s q) (scored L s q.query q.streams).1
    ⟨[], 0, (scored L s q.query q.streams).2⟩ (by rw [zero_add]; exact cost_le_room h)
  rw [← hnarrow] at hall
  exact (congrArg (fun x => x.count .budget) hall).trans (count_scored_budget L s q)

variable (L) in
/-- The baseline excludes nothing for the budget, and ranks exactly the eligible records that
share a term with the query. -/
structure ExactRanking (q : EvalQuery) (found : List (Stream × Json × String))
    (baseline : RetrievalResult) : Prop where
  nothing : baseline.excluded.count .budget = 0
  ranks : (baseline.selected.map fun x => (x.stream, x.id, x.score)).Perm
    ((found.filter fun x => overlap L q.query x.2.1 ≠ 0).map fun x =>
      (x.1, record_id x.2.1, overlap L q.query x.2.1))

variable (s q) in
/-- What `_eligible` returns. -/
def found : List (Stream × Json × String) :=
  ((searched s q.streams).filter fun e => is_eligible e.2).map fun e => (e.1, e.2, record_text e.2)

variable (L s q) in
theorem found_rows : ((found s q).filter fun x => overlap L q.query x.2.1 ≠ 0).map (fun x =>
      (x.1, record_id x.2.1, overlap L q.query x.2.1)) =
    (((searched s q.streams).filter fun e => is_eligible e.2).filter fun e =>
      overlap L q.query e.2 ≠ 0).map (row_of L q) := by
  rw [found, List.filter_map, List.map_map]
  rfl

/-- The ranking of a call is exact just when it leaves nothing out and all that it scores has
textual ids. -/
theorem exact_ranking_iff {budget : ℤ} {kept beyond : List Ranked} {r : RetrievalResult}
    (h : Retrieved L s q budget kept beyond r) :
    ExactRanking L q (found s q) r ↔ r.excluded.count .budget = 0 ∧ TextIds L s q := by
  have hkept (hzero : r.excluded.count .budget = 0) :
      (r.selected.map fun x => (x.stream, x.id, x.score)).Perm
        (((searched s q.streams).filter fun e => verdict L q.query e.2 = none).map (row_of L q)) := by
    have hover : beyond = [] := List.length_eq_zero_iff.1 (h.beyond.symm.trans hzero)
    have hperm := h.perm
    rw [hover, List.append_nil] at hperm
    rw [h.ids]
    exact (hperm.map Ranked.row).trans (scored_rows L s q)
  constructor
  · rintro ⟨hzero, hranks⟩
    refine ⟨hzero, fun e he hv => ?_⟩
    have hlength := ((hkept hzero).symm.trans hranks).length_eq
    rw [found_rows, filter_scored, List.length_map, List.length_map] at hlength
    exact List.length_filter_eq_length_iff.1 hlength.symm e
      (List.mem_filter.2 ⟨he, decide_eq_true hv⟩)
  · rintro ⟨hzero, htext⟩
    refine ⟨hzero, (hkept hzero).trans (.of_eq ?_)⟩
    rw [found_rows, filter_verdict htext]

/-! ## A run -/

variable (q) in
/-- The rows of a run split the relevant ids, and its recall grows to what is retrieved. -/
structure ExactRun (budgets k_values : List ℤ) (run : ProfileRun) : Prop where
  rows : run.budgets.map (·.budget_bytes) = budgets
  split : ∀ row ∈ run.budgets, (row.selected_ids.filter (· ∈ q.relevant) ++
    row.metrics.excluded_relevant_by_budget ++
      run.ranking.metrics.unretrieved_relevant).Perm q.relevant
  depths : run.ranking.metrics.recall_at_k.map (·.k) = k_values
  increases : ∀ x ∈ run.ranking.metrics.recall_at_k, ∀ y ∈ run.ranking.metrics.recall_at_k,
    x.k ≤ y.k → x.metric.value ≤ y.metric.value
  complete : ∀ x ∈ run.ranking.metrics.recall_at_k, run.ranking.ranked_ids.length ≤ x.k →
    x.metric.value = 1 - run.ranking.metrics.unretrieved_relevant.length / q.relevant.length

/-- The ids of the scored records are different. -/
theorem scored_ids_nodup (h : Unambiguous s q.streams) :
    ((scored L s q.query q.streams).1.map (·.identifier)).Nodup := by
  have hperm := (scored_perm (L := L) s q.query q.streams).map (·.identifier)
  rw [hperm.nodup_iff, List.map_map]
  exact List.Nodup.sublist (List.filter_sublist.map _) h

theorem Retrieved.selected_ids {budget : ℤ} {kept beyond : List Ranked} {r : RetrievalResult}
    (h : Retrieved L s q budget kept beyond r) : r.selected.map (·.id) = kept.map (·.identifier) := by
  have hids := congrArg (List.map fun x => x.2.1) h.ids
  rwa [List.map_map, List.map_map] at hids

/-- A row is made from the result of its call. -/
theorem budget_row_ok {ranked : List String} {budget : ℤ} {result : RetrievalResult}
    {row : BudgetRow} (h : budget_row q ranked budget result = .ok row) :
    row.budget_bytes = budget ∧ row.selected_ids = result.selected.map (·.id) ∧
      row.metrics.excluded_relevant_by_budget =
        ranked.filter fun id => id ∈ q.relevant && id ∉ row.selected_ids := by
  rw [budget_row] at h
  obtain ⟨metrics, hmetrics, h⟩ := bind_ok.1 h
  obtain rfl := pure_ok.1 h
  obtain ⟨metrics', hmetrics', hexcluded⟩ := budget_metrics_eq (result.selected.map (·.id)) ranked
    q.relevant_ne
  obtain rfl := Except.ok.inj (hmetrics.symm.trans hmetrics')
  exact ⟨rfl, rfl, hexcluded⟩

theorem map_of_mapM {α : Type*} {β γ : Type} {f : α → Except Failure β} {g : β → γ} {k : α → γ}
    (hf : ∀ x y, f x = .ok y → g y = k x) {xs : List α} {ys : List β} (h : xs.mapM f = .ok ys) :
    ys.map g = xs.map k := by
  induction xs generalizing ys with
  | nil =>
    obtain rfl := pure_ok.1 h
    rfl
  | cons x xs ih =>
    rw [List.mapM_cons] at h
    obtain ⟨y, hy, h⟩ := bind_ok.1 h
    obtain ⟨ys', hys, h⟩ := bind_ok.1 h
    obtain rfl := pure_ok.1 h
    rw [List.map_cons, List.map_cons, ih hys, hf x y hy]

/-- The entries of the recall of a ranking, by their depths. -/
theorem recall_laws {ranked : List String} (hnodup : ranked.Nodup) {k_values : List ℤ}
    {x : AtK} (hx : x ∈ k_values.map fun k =>
      at_k (hits (ranked.take k.toNat) q.relevant) k q.relevant.length) :
    (∀ y ∈ k_values.map (fun k =>
        at_k (hits (ranked.take k.toNat) q.relevant) k q.relevant.length),
      x.k ≤ y.k → x.metric.value ≤ y.metric.value) ∧
      (ranked.length ≤ x.k → x.metric.value =
        1 - (q.relevant.filter (· ∉ ranked)).length / q.relevant.length) := by
  have hpos : (0 : ℚ) < q.relevant.length := by
    exact_mod_cast List.length_pos_iff.2 q.relevant_ne
  obtain ⟨k, -, rfl⟩ := List.mem_map.1 hx
  refine ⟨fun y hy hle => ?_, fun hlength => ?_⟩
  · obtain ⟨k', -, rfl⟩ := List.mem_map.1 hy
    have hhits : (hits (ranked.take k.toNat) q.relevant : ℚ) ≤
        hits (ranked.take k'.toNat) q.relevant := by
      exact_mod_cast hits_take_le ranked q.relevant (Int.toNat_le_toNat hle)
    simp only [at_k, Int.cast_natCast]
    gcongr
  · simp only [at_k] at hlength
    have hall : ranked.take k.toNat = ranked := List.take_of_length_le (by omega)
    have hsum : (hits ranked q.relevant : ℚ) + (q.relevant.filter (· ∉ ranked)).length =
        q.relevant.length := by
      exact_mod_cast hits_add_unretrieved hnodup q.relevant_nodup
    simp only [at_k, hall, Int.cast_natCast]
    rw [← hsum] at hpos ⊢
    field_simp
    ring

/-- A call returns different ids, and those of scored records. -/
theorem call_ids (hs : snapshot H d revision = .ok s) (hids : Unambiguous s q.streams)
    (hprofile : profile = SCAN_PROFILE ∨ profile = INDEX_PROFILE) {budget : ℤ} (hb : 0 ≤ budget)
    (I : Index) {result : RetrievalResult}
    (h : retrieve L H I d (call_args revision q profile budget) = .ok result) :
    (result.selected.map (·.id)).Nodup ∧ ∀ id ∈ result.selected.map (·.id),
      id ∈ (scored L s q.query q.streams).1.map (·.identifier) := by
  obtain rfl := Except.ok.inj ((retrieve_call hs hprofile hb I).symm.trans h)
  obtain ⟨kept, beyond, hkept⟩ := @retrieved L revision s q profile I budget
  have hsub := hkept.order.map (·.identifier)
  rw [hkept.selected_ids]
  exact ⟨(scored_ids_nodup hids).sublist hsub, fun id hid => hsub.subset hid⟩

/-- A baseline that leaves nothing out returns the ids of all scored records. -/
theorem Retrieved.all_ids {budget : ℤ} {kept beyond : List Ranked} {r : RetrievalResult}
    (h : Retrieved L s q budget kept beyond r) (hnothing : r.excluded.count .budget = 0) :
    (r.selected.map (·.id)).Perm ((scored L s q.query q.streams).1.map (·.identifier)) := by
  have hover : beyond = [] := List.length_eq_zero_iff.1 (h.beyond.symm.trans hnothing)
  have hperm := h.perm
  rw [hover, List.append_nil] at hperm
  rw [h.selected_ids]
  exact hperm.map _

variable (L H) in
/-- A run whose baseline leaves nothing out returns, and is exact. -/
theorem exact_run {index : ℕ → Index} {budgets k_values : List ℤ} (state : String)
    (hs : snapshot H d revision = .ok s) (hids : Unambiguous s q.streams)
    (hprofile : profile = SCAN_PROFILE ∨ profile = INDEX_PROFILE)
    (hbudgets : ∀ b ∈ budgets, 0 < b) (hks : ∀ k ∈ k_values, 0 < k) {baseline : RetrievalResult}
    (hbaseline : retrieve L H (index 0) d (call_args revision q profile (room s q)) = .ok baseline)
    (hnothing : baseline.excluded.count .budget = 0) :
    ∃ run, profile_run L H index d revision q budgets k_values profile state = .ok run ∧
      run.ranking.ranked_ids = baseline.selected.map (·.id) ∧ ExactRun q budgets k_values run := by
  have hroom : (0 : ℤ) ≤ room s q := Int.natCast_nonneg _
  have hbase := Except.ok.inj ((retrieve_call hs hprofile hroom (index 0)).symm.trans hbaseline)
  obtain ⟨kept, beyond, hkept⟩ := @retrieved L revision s q profile (index 0) (room s q)
  rw [hbase] at hkept
  have hperm := hkept.all_ids hnothing
  have hnodup : (baseline.selected.map (·.id)).Nodup := hperm.nodup_iff.2 (scored_ids_nodup hids)
  obtain ⟨metrics, hmetrics, hrecall, hunretrieved⟩ :=
    @ranking_metrics_eq (baseline.selected.map (·.id)) q.relevant k_values hks q.relevant_ne
  have hmem {x : ℤ × ℕ} (hx : x ∈ budgets.zipIdx) : 0 < x.1 :=
    hbudgets _ (List.fst_mem_of_mem_zipIdx hx)
  obtain ⟨rows, hrows⟩ : ∃ rows, budgets.zipIdx.mapM (run_budget L H index d revision q profile
      (baseline.selected.map (·.id))) = .ok rows := by
    refine mapM_ok_iff.2 fun x hx => ?_
    have hcall := retrieve_call (L := L) (q := q) hs hprofile (hmem hx).le (index (x.2 + 1))
    obtain ⟨m, hm, -⟩ := budget_metrics_eq ((retrieve_from L (index (x.2 + 1)) s
      (call_args revision q profile x.1) q.streams none).selected.map Selected.id)
      (baseline.selected.map Selected.id) q.relevant_ne
    exact ⟨_, bind_ok.2 ⟨_, hcall, bind_ok.2 ⟨m, hm, rfl⟩⟩⟩
  refine ⟨_, bind_ok.2 ⟨s, hs, bind_ok.2 ⟨room s q, ranking_budget_eq hids, bind_ok.2 ⟨baseline,
    hbaseline, bind_ok.2 ⟨(), ensure_ok.2 ?_, bind_ok.2 ⟨metrics, hmetrics, bind_ok.2 ⟨rows,
    hrows, rfl⟩⟩⟩⟩⟩⟩, rfl, ?_⟩
  · rw [Bool.and_eq_true, decide_eq_true_eq, decide_eq_true_eq]
    exact ⟨hnothing, hkept.within hroom⟩
  · constructor
    · refine (map_of_mapM (k := Prod.fst) (fun x row h => ?_) hrows).trans (List.zipIdx_map_fst 0 budgets)
      obtain ⟨result, -, hrow⟩ := bind_ok.1 h
      exact (budget_row_ok hrow).1
    · intro row hrow
      obtain ⟨x, hx, h⟩ := mem_of_mapM_ok hrows hrow
      obtain ⟨result, hresult, h⟩ := bind_ok.1 h
      obtain ⟨-, hselected, hexcluded⟩ := budget_row_ok h
      obtain ⟨hdistinct, hsub⟩ := call_ids hs hids hprofile (hmem hx).le _ hresult
      dsimp only
      rw [hexcluded, hselected, hunretrieved]
      exact split_relevant hdistinct hnodup q.relevant_nodup fun id hid =>
        hperm.mem_iff.2 (hsub id hid)
    · dsimp only
      rw [hrecall, List.map_map]
      exact List.map_id _
    · dsimp only
      rw [hrecall]
      exact fun x hx => (recall_laws hnodup hx).1
    · dsimp only
      rw [hrecall, hunretrieved]
      exact fun x hx => (recall_laws hnodup hx).2

/-- Accepted budgets and depths are positive. -/
theorem pos_of_integer_list {values : List Json} {code : String} {xs : List ℤ}
    (h : integer_list values code = .ok xs) : ∀ x ∈ xs, 0 < x := by
  rw [integer_list] at h
  obtain ⟨_, -, h⟩ := bind_ok.1 h
  obtain ⟨found, hfound, h⟩ := bind_ok.1 h
  obtain ⟨_, -, h⟩ := bind_ok.1 h
  obtain rfl := pure_ok.1 h
  intro x hx
  obtain ⟨v, -, hv⟩ := mem_of_mapM_ok hfound hx
  split at hv
  · split_ifs at hv with hpos
    exact Except.ok.inj hv ▸ hpos
  · cases hv

namespace OneRow

def row (id : Json) : Json := dict [("id", id), ("text", .str "needle")]

def root : Manifest where
  schema := .v1
  revision := 0
  parent := none
  segments := ⟨[1], [], []⟩
  checkpoint := 0
  transaction_id := .root
  canonicalization := "canonical-json/v1"
  integrity_claim := "content_identity_not_truth_or_authorship"
  store_identity := none
  supersedes_map := none
  features := none
  refutations_map := none
  compaction_epoch := none

def contents (id : Json) : List Document :=
  [.json (dict []), .segment (writeLines [row id]), .manifest root]

theorem ordered_text : Ordered (contents (.str "a")) :=
  ordered_of_supposed (by decide +kernel) (by decide +kernel)

theorem ordered_number : Ordered (contents (.int 7)) :=
  ordered_of_supposed (by decide +kernel) (by decide +kernel)

/-- Hosts that number the contents by their places. -/
noncomputable def text_host : Crypto := Crypto.ofTable _ ordered_text

noncomputable def number_host : Crypto := Crypto.ofTable _ ordered_number

/-- The store of a row with an id. -/
def store (id : Json) : Disk :=
  ((((∅ : Disk).write .current (.current 2)).write (.checkpoint 0) (.json (dict []))).write
    (.segment .facts 1) (.segment (writeLines [row id]))).write (.revision 2) (.manifest root)

def query : EvalQuery where
  id := "q"
  category := "synthetic"
  query := "needle"
  relevant := ["a"]
  streams := [.facts]
  id_ne := by decide
  category_mem := by decide
  query_ne := by decide
  relevant_ne := by decide
  relevant_texts := by decide
  relevant_sorted := by decide
  relevant_nodup := by decide
  streams_ne := by decide
  streams_sorted := by decide

/-- The ids of the records of a snapshot, and those that are texts. -/
def ids (s : Snapshot) : List (String × Option String) :=
  (searched s query.streams).map fun e => (record_id e.2, text_id e.2)

theorem ids_text : (snapshot text_host (store (.str "a")) 2).map ids = .ok [("a", some "a")] := by
  decide +kernel

theorem ids_number : (snapshot number_host (store (.int 7)) 2).map ids = .ok [("7", none)] := by
  decide +kernel

theorem unambiguous_of_ids {s : Snapshot} {x : String × Option String} (h : ids s = [x]) :
    Unambiguous s query.streams := by
  have hlength : (searched s query.streams).length = 1 := by
    have := congrArg List.length h
    rwa [ids, List.length_map] at this
  obtain ⟨e, he⟩ := List.length_eq_one_iff.1 hlength
  rw [Unambiguous, he]
  exact List.nodup_singleton _

theorem error_of_map {α β : Type} {f : α → β} {x : Except Failure α} {e : Failure}
    (h : x.map f = .error e) : x = .error e := by
  cases x with
  | ok a => cases h
  | error e' =>
    cases h
    rfl

theorem incomplete : (profile_run OneFact.lexicon number_host (fun _ => OneFact.without_index)
    (store (.int 7)) 2 query [10] [1] SCAN_PROFILE "external").map (fun _ => ()) =
      .error (.value "evaluation_ranking_budget_incomplete") := by
  decide +kernel

end OneRow

end AnKla.Evaluation
