import AnKla.Guarantees.Plans
import AnKla.Guarantees.Updates
import AnKla.PlanGuard

/-!
# The guard of the planner and the commit

The guard looks at the records of a proposal, the commit at the records of its plan: these are
the same ones and a policy event, or none when the decision is to skip.

* `guard_ok`: what the guard accepts.
* `records_of_build`: what a plan that writes holds.
* `commit_accepts_iff`: what the commit accepts of such a plan.
* `GuardAgrees`: the guard refuses no plan that the commit takes, and what it lets pass the commit
  takes, once the event has an id of its own.
-/

namespace AnKla

open PyJson Durable

variable {H : Crypto}

/-! ## Rows -/

theorem record_id_of_nonempty {row : Json} (h : is_nonempty_str (item row "id") = true) :
    item row "id" = .str (record_id row) := by
  have hs := py_str_of_nonempty h
  rw [hs, record_id_of_item hs]

/-- Rows are assigned exactly when their ids are texts, distinct and not used. -/
theorem assign_rows_iff {stream : Stream} {existing : List String} {rows : List Json} :
    assign_rows stream existing rows = .ok () ↔
      (∀ row ∈ rows, is_nonempty_str (item row "id") = true) ∧ (rows.map record_id).Nodup ∧
        ∀ row ∈ rows, record_id row ∉ existing := by
  induction rows generalizing existing with
  | nil => simp [assign_rows]
  | cons row rows ih =>
    rw [assign_rows, List.forall_mem_cons, List.forall_mem_cons, List.map_cons, List.nodup_cons]
    cases hid : item row "id" with
    | str s =>
      rw [record_id_of_item hid]
      by_cases hs : s = ""
      · simp [hs, is_nonempty_str]
      · by_cases hused : s ∈ existing
        · simp [hs, hused]
        · have hnew : (∀ r ∈ rows, record_id r ∉ existing ++ [s]) ↔
              s ∉ rows.map record_id ∧ ∀ r ∈ rows, record_id r ∉ existing := by
            simp only [List.mem_append, List.mem_singleton, not_or, List.mem_map, not_exists,
              not_and, forall_and]
            exact and_comm
          simp only [hs, hused, if_false, ih, hnew, is_nonempty_str, ne_eq, not_false_eq_true,
            decide_true, true_and]
          constructor
          · rintro ⟨h1, h2, h3, h4⟩
            exact ⟨h1, ⟨h3, h2⟩, h4⟩
          · rintro ⟨h1, ⟨h3, h2⟩, h4⟩
            exact ⟨h1, h2, h3, h4⟩
    | _ => simp [is_nonempty_str]

/-- The records that a snapshot reads have distinct ids. -/
theorem nodup_of_snapshot {d : Disk} {revision : Digest} {base : Snapshot}
    (h : snapshot H d revision = .ok base) (s : Stream) :
    ((base.records.get s).map record_id).Nodup := by
  rw [map_record_id_records h]
  exact (nodup_of_read_segments (read_records_ok.1 (snapshot_reads h).raw s) ⟨by simp, by simp⟩).1

/-! ## Targets -/

/-- There is an active row under an id. -/
def HasTarget (rows : List Json) (target : String) : Prop :=
  ∃ row ∈ rows, record_id row = target ∧ is_active row = true

/-- Under distinct ids, the row that is found decides. -/
theorem guard_target_find {rows : List Json} (h : (rows.map record_id).Nodup) (target : String) :
    guard_target (rows.find? fun row => Json.str target = .str (record_id row)) = .ok () ↔
      HasTarget rows target := by
  cases hf : rows.find? fun row => Json.str target = .str (record_id row) with
  | none =>
    refine iff_of_false (by simp [guard_target]) ?_
    rintro ⟨row, hrow, rfl, -⟩
    simpa using List.find?_eq_none.1 hf row hrow
  | some row =>
    have hrow := List.mem_of_find?_eq_some hf
    have hid : record_id row = target := by
      have := List.find?_some hf
      simpa using (of_decide_eq_true this).symm
    rw [guard_target, ensure_ok]
    refine ⟨fun hactive => ⟨row, hrow, hid, hactive⟩, ?_⟩
    rintro ⟨row', hrow', hid', hactive⟩
    obtain rfl := List.inj_on_of_nodup_map h hrow hrow' (hid.trans hid'.symm)
    exact hactive

theorem hasTarget_reverse {rows : List Json} {target : String} :
    HasTarget rows.reverse target ↔ HasTarget rows target := by
  simp only [HasTarget, List.mem_reverse]

/-! ## The guard -/

/-- A record that its base has a place for. -/
structure Admits (rows : List Json) (p r : Json) : Prop where
  fresh : record_id r ∉ rows.map record_id
  target : item p "operation" = .str "supersede" → ∃ t, record_target p r = some (.str t) ∧
    HasTarget rows t

theorem exists_stream {p : Json} (hp : Plannable p) : ∃ s : Stream, item p "stream" = .str s.name := by
  have h := hp.stream
  obtain ⟨name, hname⟩ := str_of_one_of h
  rw [hname, one_of, stream_names, List.contains_iff_mem] at h
  simp only [List.mem_cons, List.not_mem_nil, or_false] at h
  obtain rfl | rfl | rfl := h
  · exact ⟨.facts, hname⟩
  · exact ⟨.events, hname⟩
  · exact ⟨.episodes, hname⟩

theorem guarded_records_eq {p : Json} {s : Stream} (h : item p "stream" = .str s.name)
    (base : Snapshot) : guarded_records base p = base.records.get s := by
  rw [guarded_records, h, py_str, Stream.ofName_name]

/-- One record of the guard. -/
theorem guard_record_ok {rows : List Json} (h : (rows.map record_id).Nodup) {p r : Json}
    (hb : is_batch p = true) (hr : ProposalRecord p r) :
    guard_record (fun id => rows.reverse.find? fun row => id = .str (record_id row)) p r = .ok () ↔
      Admits rows p r := by
  have hnone : (rows.reverse.find? fun row => Json.str (record_id r) = .str (record_id row)).isNone =
      true ↔ record_id r ∉ rows.map record_id := by
    simp only [Option.isNone_iff_eq_none, List.find?_eq_none, List.mem_reverse, Json.str.injEq,
      decide_eq_true_eq, List.mem_map, not_exists, not_and]
    exact forall₂_congr fun row _ => not_congr eq_comm
  have hrev : (rows.reverse.map record_id).Nodup := by
    rw [List.map_reverse]
    exact List.nodup_reverse.2 h
  rw [guard_record, bind_ok]
  simp only [ensure_ok, exists_const, hnone]
  by_cases hop : item p "operation" = .str "supersede"
  · obtain ⟨t, ht, -, -⟩ := hr.target hop
    have hitem : item (item p "supersedes") (py_str (item r "id")) = .str t := by
      rw [record_target, if_pos hop, if_pos hb] at ht
      exact Option.some.inj ht
    rw [if_pos hop, hitem, guard_target_find hrev, hasTarget_reverse]
    refine ⟨fun ⟨hfresh, htarget⟩ => ⟨hfresh, fun _ => ⟨t, ht, htarget⟩⟩, fun had => ⟨had.fresh, ?_⟩⟩
    obtain ⟨t', ht', htarget⟩ := had.target hop
    rw [ht] at ht'
    cases ht'
    exact htarget
  · rw [if_neg hop]
    exact ⟨fun ⟨hfresh, _⟩ => ⟨hfresh, fun h => absurd h hop⟩, fun had => ⟨had.fresh, rfl⟩⟩

/-- The guard accepts what the base has a place for. -/
theorem guard_ok {base : Snapshot} {p : Json} {s : Stream} (hp : Plannable p)
    (hs : item p "stream" = .str s.name) (h : ((base.records.get s).map record_id).Nodup) :
    guard_plan_against_snapshot base p = .ok () ↔
      ∀ r ∈ proposal_records p, Admits (base.records.get s) p r := by
  have hrows := guarded_records_eq hs base
  rw [guard_plan_against_snapshot]
  split_ifs with hb
  · rw [guard_batch, forM_ok, hrows, proposal_records, if_pos hb]
    refine forall₂_congr fun r hr => guard_record_ok h hb (hp.records r ?_)
    rwa [proposal_records, if_pos hb]
  · have hmem : item p "record" ∈ proposal_records p := by
      rw [proposal_records, if_neg hb]
      exact List.mem_singleton_self _
    have hfresh : (!(base.records.get s).any fun row => record_id row = record_id (item p "record")) =
        true ↔ record_id (item p "record") ∉ (base.records.get s).map record_id := by
      simp only [Bool.not_eq_true', List.any_eq_false, decide_eq_true_eq, List.mem_map, not_exists,
        not_and]
    rw [guard_single, hrows, proposal_records, if_neg hb, List.forall_mem_singleton, bind_ok]
    simp only [ensure_ok, exists_const, hfresh]
    by_cases hop : item p "operation" = .str "supersede"
    · obtain ⟨t, ht, -, -⟩ := (hp.records _ hmem).target hop
      have hitem : item p "supersedes" = .str t := by
        rw [record_target, if_pos hop, if_neg hb] at ht
        exact Option.some.inj ht
      rw [if_pos hop, hitem, guard_target_find h]
      refine ⟨fun hg => ⟨hg.1, fun _ => ⟨t, ht, hg.2⟩⟩, fun had => ⟨had.fresh, ?_⟩⟩
      obtain ⟨t', ht', htarget⟩ := had.target hop
      rw [ht] at ht'
      cases ht'
      exact htarget
    · rw [if_neg hop]
      exact ⟨fun hg => ⟨hg.1, fun h => absurd h hop⟩, fun had => ⟨had.fresh, rfl⟩⟩

/-! ## The last record of a plan -/

/-- What a plan holds besides the records of its proposal: a record among the events, which adds
    or supersedes what a record of the proposal does. -/
structure LastRecord (p last : Json) : Prop where
  stream : item last "stream" = .str "events"
  id : is_nonempty_str (item (item last "record") "id") = true
  target : item last "operation" = .str "supersede" → item p "operation" = .str "supersede" ∧
    ∃ r ∈ proposal_records p, ∀ base,
      resolve_target base last = resolve_target base (planned_item p r (record_target p r))
  /-- A record that poses as the event leaves its id to it. -/
  posed : Misled p → ∃ r ∈ proposal_records p, record_id (item last "record") = record_id r

theorem lastRecord_event {p : Json} (hm : ¬Misled p) {sha : Json} (payload : Json) :
    LastRecord p (planned_event (event_record sha payload)) where
  stream := item_dict (by simp) (by simp)
  id := by
    rw [item_planned_event, event_record, item_dict (by simp) (List.mem_cons_of_mem _ List.mem_cons_self)]
    simp [is_nonempty_str]
  target := fun h => by
    rw [planned_event, item_dict (v := .str "add") (by simp) (by simp)] at h
    simp at h
  posed := fun h => absurd h hm

theorem item_planned_operation (p r : Json) (target : Option Json) :
    item (planned_item p r target) "operation" = item p "operation" :=
  item_dict (nodup_planned p r target) (by simp)

theorem item_planned_supersedes (p r t : Json) :
    item (planned_item p r (some t)) "supersedes" = t :=
  item_dict (nodup_planned p r (some t)) (by simp)

/-- The planned record of a twin is the one of the first record of its batch. -/
theorem planned_twin {p : Json} (hb : is_batch p = true) :
    planned_item (twin_v1 p) ((elems (item p "records")).headD .null)
        (record_target (twin_v1 p) ((elems (item p "records")).headD .null)) =
      planned_item p ((elems (item p "records")).headD .null)
        (record_target p ((elems (item p "records")).headD .null)) := by
  have htarget : record_target (twin_v1 p) ((elems (item p "records")).headD .null) =
      record_target p ((elems (item p "records")).headD .null) := by
    have hsame : item (twin_v1 p) "operation" = item p "operation" := item_twin_frame p (by simp)
    rw [record_target, record_target, hsame, is_batch_twin, hb]
    by_cases hop : item p "operation" = .str "supersede"
    · have hitem : item (twin_v1 p) "supersedes" = item (item p "supersedes")
          (py_str (item ((elems (item p "records")).headD .null) "id")) :=
        item_twin (by simp [twin_items, hop])
      rw [if_pos hop, if_pos hop, hitem]
      rfl
    · rw [if_neg hop, if_neg hop]
  have hframe {k : String} (hk : k ∈ ["stream", "operation", "requested_representation"]) :
      item (twin_v1 p) k = item p k := by
    refine item_twin_frame p ?_
    simp only [List.mem_cons, List.not_mem_nil, or_false] at hk
    obtain rfl | rfl | rfl := hk <;> simp
  simp only [htarget, planned_item, hframe, List.mem_cons, true_or, or_true]

/-- A plan that writes holds the records of its proposal and one more. -/
theorem records_of_build {p a x plan : Json} {decision : Option Json}
    (hx : evaluate_write H p a = .ok x) (hskip : item x "decision" ≠ .str "skip")
    (h : build_write_plan H p a decision = .ok plan) : ∃ last, LastRecord p last ∧
      item plan "records" =
        .arr ((proposal_records p).map (fun r => planned_item p r (record_target p r)) ++ [last]) := by
  obtain ⟨y, hy, hcaller⟩ := evaluated_of_build h
  by_cases hm : Misled p
  · obtain ⟨hb, hstream, htype⟩ := hm
    have hp := plannable_of_valid (proposal_of_evaluate hx).1
    have hvalid := (proposal_of_evaluate hx).1
    rw [validate_write_proposal, if_pos hb] at hvalid
    obtain ⟨first, rest, hrecords⟩ :=
      List.exists_cons_of_ne_nil (validate_batch_proposal_ok hvalid).records_ne
    have hmem : first ∈ proposal_records p := by
      rw [proposal_records, if_pos hb, hrecords]
      exact List.mem_cons_self
    have hfirst : (elems (item p "records")).headD .null = first := by rw [hrecords]; rfl
    rw [build_write_plan, if_pos hb, build_batch_plan_eq hb hx hskip, if_pos ⟨hstream, htype⟩,
      planned_twin hb, hfirst, event_of, item_planned_record] at h
    split_ifs at h with hpayload
    · have hobj : (planned_item p first (record_target p first)).isObj = true := rfl
      have hid : item (first.set "payload" (batch_payload H p x (item first "payload"))) "id" =
          item first "id" := item_set_ne (by simp) _ _
      refine ⟨(planned_item p first (record_target p first)).set "record"
        (first.set "payload" (batch_payload H p x (item first "payload"))), ⟨?_, ?_, ?_, ?_⟩, ?_⟩
      · rw [item_set_ne (by simp), item_planned_stream, hstream]
      · rw [item_set hobj, hid]
        exact (hp.records first hmem).fields.id
      · intro hop
        rw [item_set_ne (by simp), item_planned_operation] at hop
        refine ⟨hop, first, hmem, fun base => ?_⟩
        rw [resolve_target, resolve_target, item_set_ne (by simp), item_set_ne (by simp),
          item_set hobj, hid, item_planned_record]
      · refine fun _ => ⟨first, hmem, ?_⟩
        rw [item_set hobj, record_id, record_id, Json.get?_set_ne (by simp)]
      · obtain rfl := Except.ok.inj h
        rw [item_plan (k := "records") (by simp; rfl), batch_items_eq hb]
    · cases h
  · rw [hx] at hy
    obtain rfl := Except.ok.inj hy
    rw [build_write_plan_eq hx (.inr hm) hcaller] at h
    obtain rfl := Except.ok.inj h
    rw [item_plan (k := "records") (by simp; rfl), planned_records, if_neg hskip]
    split_ifs
    · exact ⟨_, lastRecord_event hm _, rfl⟩
    · exact ⟨_, lastRecord_event hm _, rfl⟩

/-! ## The records of a plan that writes -/

/-- What a plan that writes is made of. -/
structure Writes (base : Snapshot) (w : WriteCall) (s : Stream) (last : Json) : Prop where
  plannable : Plannable w.proposal
  stream : item w.proposal "stream" = .str s.name
  ids : ((proposal_records w.proposal).map record_id).Nodup
  event : LastRecord w.proposal last
  records : item w.plan "records" = .arr ((proposal_records w.proposal).map (fun r =>
    planned_item w.proposal r (record_target w.proposal r)) ++ [last])
  base_ids : ((base.records.get s).map record_id).Nodup

/-- The last of the events of a plan, its policy event, is under an id of its own. -/
def EventIsNew (base : Snapshot) (w : WriteCall) : Prop :=
  ∀ event ∈ (w.records .events).getLast?, record_id event ∉ (w.records .events).dropLast.map record_id ∧
    record_id event ∉ (base.records.get .events).map record_id

variable (H) in
/-- The commit takes the records of a plan: it resolves what they supersede, and it assigns them. -/
structure CommitAccepts (d : Disk) (base : Snapshot) (w : WriteCall) : Prop where
  targets : ∃ entries, resolve_supersede_targets H d w.plan w.expected_current_hash = .ok entries
  rows : assign_records base w.pending = .ok ()

theorem name_inj {s t : Stream} : s.name = t.name ↔ s = t := by
  constructor
  · intro h
    have := congrArg Stream.ofName h
    simpa using this
  · exact congrArg Stream.name

theorem nodup_proposal_records {p : Json} (h : validate_write_proposal p = .ok ()) :
    ((proposal_records p).map record_id).Nodup := by
  rw [proposal_records]
  split_ifs with hb
  · rw [validate_write_proposal, if_pos hb] at h
    have hp := validate_batch_proposal_ok h
    have hids : batch_ids p = (elems (item p "records")).map record_id := by
      refine List.map_congr_left fun r hr => ?_
      rw [record_id_of_nonempty (hp.records r hr).id, py_str]
    exact hids ▸ hp.ids
  · exact List.nodup_singleton _

theorem exists_writes {d : Disk} {base : Snapshot} {w : WriteCall} {decision : Option Json} {x : Json}
    (hbase : snapshot H d w.expected_current_hash = .ok base)
    (hx : evaluate_write H w.proposal w.authority = .ok x) (hskip : item x "decision" ≠ .str "skip")
    (h : build_write_plan H w.proposal w.authority decision = .ok w.plan) :
    ∃ s last, Writes base w s last := by
  obtain ⟨last, hlast, hrecords⟩ := records_of_build hx hskip h
  have hvalid := (proposal_of_evaluate hx).1
  have hp := plannable_of_valid hvalid
  obtain ⟨s, hs⟩ := exists_stream hp
  exact ⟨s, last, hp, hs, nodup_proposal_records hvalid, hlast, hrecords, nodup_of_snapshot hbase s⟩

namespace Writes

variable {d : Disk} {base : Snapshot} {w : WriteCall} {s : Stream} {last : Json}
variable (hw : Writes base w s last)
include hw

/-- The records of a plan, stream by stream. -/
theorem records_eq (t : Stream) : w.records t =
    (if t = s then proposal_records w.proposal else []) ++
      if t = .events then [item last "record"] else [] := by
  have hevents : item last "stream" = .str t.name ↔ t = .events := by
    rw [hw.event.stream, Json.str.injEq, show "events" = Stream.events.name from rfl, name_inj, eq_comm]
  have hstream (r : Json) : item (planned_item w.proposal r (record_target w.proposal r)) "stream" =
      .str t.name ↔ t = s := by
    rw [item_planned_stream, hw.stream, Json.str.injEq, name_inj, eq_comm]
  rw [WriteCall.records, hw.records, elems, List.filter_append, List.map_append, List.filter_map]
  refine congrArg₂ (· ++ ·) ?_ ?_
  · by_cases ht : t = s
    · rw [if_pos ht, List.filter_eq_self.2 fun r _ => by simpa using (hstream r).2 ht, List.map_map]
      exact (List.map_congr_left fun r _ => item_planned_record _ _ _).trans (List.map_id _)
    · rw [if_neg ht, List.filter_eq_nil_iff.2 fun r _ => by simpa [hstream r] using ht]
      rfl
  · by_cases ht : t = .events
    · rw [if_pos ht, List.filter_cons_of_pos (by simpa using hevents.2 ht)]
      rfl
    · rw [if_neg ht, List.filter_cons_of_neg (by simpa [hevents] using ht)]
      rfl

theorem eventIsNew_iff : EventIsNew base w ↔
    record_id (item last "record") ∉
        (if Stream.events = s then proposal_records w.proposal else []).map record_id ∧
      record_id (item last "record") ∉ (base.records.get .events).map record_id := by
  rw [EventIsNew, hw.records_eq, if_pos rfl, List.getLast?_concat, List.dropLast_concat]
  simp only [Option.mem_def, Option.some.injEq, forall_eq']

/-- The records are assigned exactly when those of the proposal are new and the event is. -/
theorem assign_iff : assign_records base w.pending = .ok () ↔
    (∀ r ∈ proposal_records w.proposal, record_id r ∉ (base.records.get s).map record_id) ∧
      EventIsNew base w := by
  rw [assign_records, forM_ok, hw.eventIsNew_iff]
  simp only [assign_rows_iff, WriteCall.pending, PerStream.get_ofFn, Stream.mem_STREAMS,
    forall_const]
  constructor
  · intro h
    refine ⟨fun r hr => (h s).2.2 r ?_, ?_⟩
    · rw [hw.records_eq, if_pos rfl]
      exact List.mem_append_left _ hr
    · obtain ⟨-, hnodup, hfresh⟩ := h .events
      rw [hw.records_eq, if_pos rfl, List.map_append, List.map_singleton,
        List.nodup_append] at hnodup
      refine ⟨fun hmem => hnodup.2.2 _ hmem _ (List.mem_singleton_self _) rfl, hfresh _ ?_⟩
      rw [hw.records_eq, if_pos rfl]
      exact List.mem_append_right _ (List.mem_singleton_self _)
  · rintro ⟨hfresh, hown, hnew⟩ t
    rw [hw.records_eq]
    have hmem {r : Json} (hr : r ∈ (if t = s then proposal_records w.proposal else []) ++
        if t = .events then [item last "record"] else []) :
        (t = s ∧ r ∈ proposal_records w.proposal) ∨ (t = .events ∧ r = item last "record") := by
      obtain hr | hr := List.mem_append.1 hr
      · by_cases ht : t = s
        · rw [if_pos ht] at hr
          exact .inl ⟨ht, hr⟩
        · rw [if_neg ht] at hr
          cases hr
      · by_cases ht : t = .events
        · rw [if_pos ht] at hr
          exact .inr ⟨ht, List.mem_singleton.1 hr⟩
        · rw [if_neg ht] at hr
          cases hr
    refine ⟨fun r hr => ?_, ?_, fun r hr => ?_⟩
    · obtain ⟨-, hr⟩ | ⟨-, rfl⟩ := hmem hr
      · exact (hw.plannable.records r hr).fields.id
      · exact hw.event.id
    · have hids : ((if t = s then proposal_records w.proposal else []).map record_id).Nodup := by
        split_ifs
        · exact hw.ids
        · exact List.nodup_nil
      by_cases ht : t = .events
      · subst ht
        rw [if_pos rfl, List.map_append, List.map_singleton, List.nodup_append]
        refine ⟨hids, List.nodup_singleton _, fun id hid id' hid' => ?_⟩
        rintro rfl
        exact hown (List.mem_singleton.1 hid' ▸ hid)
      · rw [if_neg ht, List.append_nil]
        exact hids
    · obtain ⟨rfl, hrec⟩ | ⟨rfl, rfl⟩ := hmem hr
      · exact hfresh r hrec
      · exact hnew

/-- A record of the proposal is resolved when its target is there and active. -/
theorem resolve_target_ok {r : Json} (hr : r ∈ proposal_records w.proposal)
    (hop : item w.proposal "operation" = .str "supersede") :
    (∃ entry, resolve_target base (planned_item w.proposal r (record_target w.proposal r)) =
        .ok entry) ↔
      ∃ t, record_target w.proposal r = some (.str t) ∧ HasTarget (base.records.get s) t := by
  obtain ⟨t, ht, -, hself⟩ := (hw.plannable.records r hr).target hop
  have hsupersedes : item (planned_item w.proposal r (record_target w.proposal r)) "supersedes" =
      .str t := by
    rw [ht, item_planned_supersedes]
  have hfind : (base.records.get s).find? (fun row => record_id row = t) =
      (base.records.get s).find? fun row => Json.str t = .str (record_id row) := by
    simp only [Json.str.injEq, eq_comm]
  have hif : (∃ entry, resolve_target base
        (planned_item w.proposal r (record_target w.proposal r)) = .ok entry) ↔
      guard_target ((base.records.get s).find? fun row => Json.str t = .str (record_id row)) =
        .ok () := by
    rw [resolve_target, item_planned_stream, hw.stream, item_planned_record, hsupersedes, py_str,
      py_str, Stream.ofName_name]
    simp only [bind_ok, ensure_ok, exists_const, decide_eq_true_eq, ne_eq, hself, not_false_eq_true,
      true_and, hfind]
    cases (base.records.get s).find? fun row => Json.str t = .str (record_id row) with
    | none => simp [guard_target]
    | some target => simp only [guard_target, ensure_ok, bind_ok, pure_ok, exists_const,
        exists_and_left, exists_eq', and_true]
  rw [hif, guard_target_find hw.base_ids]
  refine ⟨fun htarget => ⟨t, ht, htarget⟩, ?_⟩
  rintro ⟨t', ht', htarget⟩
  rw [ht] at ht'
  cases ht'
  exact htarget

/-- The targets are resolved exactly when every record of the proposal has one. -/
theorem resolve_iff (hbase : snapshot H d w.expected_current_hash = .ok base) :
    (∃ entries, resolve_supersede_targets H d w.plan w.expected_current_hash = .ok entries) ↔
      (item w.proposal "operation" = .str "supersede" → ∀ r ∈ proposal_records w.proposal,
        ∃ t, record_target w.proposal r = some (.str t) ∧ HasTarget (base.records.get s) t) := by
  have hopen : (∃ entries, resolve_supersede_targets H d w.plan w.expected_current_hash = .ok entries) ↔
      ∀ x ∈ elems (item w.plan "records"), item x "operation" = .str "supersede" →
        ∃ entry, resolve_target base x = .ok entry := by
    rw [resolve_supersede_targets]
    split_ifs with hnil
    · refine iff_of_true ⟨_, rfl⟩ fun x hx hop => ?_
      exact absurd hop (by simpa using List.filter_eq_nil_iff.1 hnil x hx)
    · rw [hbase]
      refine (mapM_ok_iff (f := resolve_target base)).trans ?_
      simp only [List.mem_filter, decide_eq_true_eq, and_imp]
  rw [hopen, hw.records, elems, List.forall_mem_append, List.forall_mem_map,
    List.forall_mem_singleton]
  simp only [item_planned_operation]
  constructor
  · rintro ⟨hrecords, -⟩ hop r hr
    exact (hw.resolve_target_ok hr hop).1 (hrecords r hr hop)
  · intro htargets
    refine ⟨fun r hr hop => (hw.resolve_target_ok hr hop).2 (htargets hop r hr), fun hlast => ?_⟩
    obtain ⟨hop, r, hr, hsame⟩ := hw.event.target hlast
    rw [hsame]
    exact (hw.resolve_target_ok hr hop).2 (htargets hop r hr)

/-- The commit takes the records of a plan that writes exactly when the guard accepts its proposal
    and its event is new. -/
theorem commit_accepts_iff (hbase : snapshot H d w.expected_current_hash = .ok base) :
    CommitAccepts H d base w ↔
      guard_plan_against_snapshot base w.proposal = .ok () ∧ EventIsNew base w := by
  rw [guard_ok hw.plannable hw.stream hw.base_ids]
  constructor
  · rintro ⟨htargets, hrows⟩
    obtain ⟨hfresh, hnew⟩ := hw.assign_iff.1 hrows
    exact ⟨fun r hr => ⟨hfresh r hr, fun hop => (hw.resolve_iff hbase).1 htargets hop r hr⟩, hnew⟩
  · rintro ⟨hadmits, hnew⟩
    exact ⟨(hw.resolve_iff hbase).2 fun hop r hr => (hadmits r hr).target hop,
      hw.assign_iff.2 ⟨fun r hr => (hadmits r hr).fresh, hnew⟩⟩

/-- A record that poses as the event is refused by the commit. -/
theorem not_accepts_of_misled (hm : Misled w.proposal) : ¬CommitAccepts H d base w := by
  intro h
  obtain ⟨r, hr, hid⟩ := hw.event.posed hm
  have hs : Stream.events = s := by
    have hevents := hw.stream.symm.trans hm.2.1
    exact (name_inj.1 (Json.str.inj hevents)).symm
  have hnew := hw.eventIsNew_iff.1 (hw.assign_iff.1 h.rows).2
  rw [if_pos hs] at hnew
  exact hnew.1 (List.mem_map.2 ⟨r, hr, hid.symm⟩)

end Writes

/-! ## The guard and the commit -/

/-- The plan writes nothing. -/
def Skips (w : WriteCall) : Prop := item (item w.plan "core") "decision" = .str "skip"

/-- A plan that writes nothing has no records for the commit to refuse. -/
theorem skips_accepts {d : Disk} {base : Snapshot} {w : WriteCall}
    (h : item w.plan "records" = .arr []) : CommitAccepts H d base w := by
  have hrecords (s : Stream) : w.records s = [] := by rw [WriteCall.records, h]; rfl
  refine ⟨⟨[], ?_⟩, ?_⟩
  · rw [resolve_supersede_targets, h]
    rfl
  · rw [assign_records, forM_ok]
    intro s _
    rw [WriteCall.pending, PerStream.get_ofFn, hrecords]
    rfl

variable (H) in
/-- How the guard and the commit agree on a plan and its base. -/
structure GuardAgrees (d : Disk) (base : Snapshot) (w : WriteCall) : Prop where
  /-- The commit takes a plan that skips, which the planner does not show to the guard. -/
  skipped : Skips w → CommitAccepts H d base w
  /-- The guard refuses no other plan that the commit takes. -/
  complete : CommitAccepts H d base w → ¬Skips w → guard_plan_against_snapshot base w.proposal = .ok ()
  /-- The commit takes what the guard accepts, if the event of the plan is new. -/
  sound : guard_plan_against_snapshot base w.proposal = .ok () → EventIsNew base w →
    CommitAccepts H d base w

theorem records_of_skip {p a x plan : Json} {decision : Option Json} (hx : evaluate_write H p a = .ok x)
    (hskip : item x "decision" = .str "skip") (h : build_write_plan H p a decision = .ok plan) :
    item plan "records" = .arr [] := by
  obtain ⟨y, hy, hcaller⟩ := evaluated_of_build h
  rw [hx] at hy
  obtain rfl := Except.ok.inj hy
  rw [build_write_plan_eq hx (.inl hskip) hcaller] at h
  obtain rfl := Except.ok.inj h
  rw [item_plan (k := "records") (by simp; rfl), planned_records, if_pos hskip]

theorem guard_agrees {d : Disk} {base : Snapshot} {w : WriteCall} {decision : Option Json}
    (hbase : snapshot H d w.expected_current_hash = .ok base)
    (hplan : build_write_plan H w.proposal w.authority decision = .ok w.plan) :
    GuardAgrees H d base w := by
  obtain ⟨x, hx, hdecision⟩ := decision_of_plan hplan
  by_cases hskip : item x "decision" = .str "skip"
  · have haccepts : CommitAccepts H d base w := skips_accepts (records_of_skip hx hskip hplan)
    exact ⟨fun _ => haccepts, fun _ hno => absurd (hdecision.trans hskip) hno, fun _ _ => haccepts⟩
  · obtain ⟨s, last, hw⟩ := exists_writes hbase hx hskip hplan
    have hno : ¬Skips w := fun h => hskip (hdecision.symm.trans h)
    exact ⟨fun h => absurd h hno, fun h _ => ((hw.commit_accepts_iff hbase).1 h).1,
      fun hguard hnew => (hw.commit_accepts_iff hbase).2 ⟨hguard, hnew⟩⟩

/-- What the planner lets pass, the commit takes on the same base, if it writes an event that is
    new. -/
theorem plan_write_accepted {d : Disk} {w : WriteCall}
    (h : plan_write H d w.proposal w.authority = .ok (w.expected_current_hash, w.decision, w.plan)) :
    Skips w ∨ ∃ base, snapshot H d w.expected_current_hash = .ok base ∧
      (EventIsNew base w → CommitAccepts H d base w) := by
  simp only [plan_write, bind_ok, ensure_ok] at h
  obtain ⟨observed, -, x, hx, -, -, h⟩ := h
  split_ifs at h with hskip
  · obtain ⟨base, hbase, h⟩ := bind_ok.1 h
    obtain ⟨⟨⟩, hguard, h⟩ := bind_ok.1 h
    obtain ⟨plan, hplan, hr⟩ := bind_ok.1 h
    cases pure_ok.1 hr
    exact .inr ⟨base, hbase, (guard_agrees hbase hplan).sound hguard⟩
  · obtain ⟨plan, hplan, hr⟩ := bind_ok.1 h
    cases pure_ok.1 hr
    obtain ⟨y, hy, hdecision⟩ := decision_of_plan hplan
    rw [hx] at hy
    obtain rfl := Except.ok.inj hy
    exact .inl (hdecision.trans (not_not.1 hskip))

/-! ## Two plans on an empty store -/

namespace OneFact

theorem base_ok : ∃ base, snapshot host store 5 = .ok base ∧ ∀ s, base.records.get s = [] := by
  rw [store_eq]
  have h : (match snapshot host opened 5 with
      | .ok base => STREAMS.all fun s => base.records.get s = []
      | .error _ => false) = true := by decide +kernel
  cases hbase : snapshot host opened 5 with
  | error e =>
    rw [hbase] at h
    cases h
  | ok base =>
    rw [hbase] at h
    exact ⟨base, rfl, fun s => of_decide_eq_true (List.all_eq_true.1 h s s.mem_STREAMS)⟩

/-- The planner builds a plan for the proposal, under its authority. -/
theorem built : ∃ plan, build_write_plan host proposal (rebind host authority proposal) none =
    .ok plan := by
  obtain ⟨x, hx, -⟩ := evaluate_rebind (H := host) (p := proposal) (a := authority)
    (by decide +kernel) (by decide +kernel)
  exact (@accepts_iff host _ _ x none hx).2
    ⟨.inr (rightDecision_none x), .inr fun hm => absurd hm.1 (by decide +kernel)⟩

/-- The commit of what the planner builds of a proposal, under its authority. -/
def calling (proposal authority plan : Json) : WriteCall :=
  { call with proposal := proposal, authority := authority, plan := plan }

/-- A batch in the events whose first record poses as the policy event. -/
def posing : Json := dict
  [("schema", .str "an-kla/write-proposal-v2"), ("base_revision", .str (ident 5)),
    ("stream", .str "events"), ("operation", .str "add"),
    ("requested_representation", .str "summary"),
    ("records", .arr [dict [("id", .str "e-1"), ("text", .str "x"),
      ("type", .str "write_policy_decision"), ("payload", dict [])]]),
    ("lineage", dict [("derived_from_retrieval", .bool false), ("refs", .arr [])])]

/-- The authority of a model over the events. -/
def events_authority : Json := authority.set "scope" (dict
  [("streams", str_list ["events"]), ("representations", str_list ["summary"]),
    ("operations", str_list ["add"])])

/-- The batch and its authority are valid, and its first record poses as the event. -/
theorem posing_valid : (ladder posing events_authority = "write-summary" ∧
    validate_write_proposal posing = .ok () ∧ validate_write_authority events_authority = .ok ()) ∧
    (is_batch posing = true ∧ item posing "stream" = .str "events" ∧
      item ((elems (item posing "records")).headD .null) "type" = .str "write_policy_decision") ∧
    item posing "operation" ≠ .str "supersede" := by
  decide +kernel

theorem posing_evaluated : ∃ x, evaluate_write host posing (rebind host events_authority posing) =
    .ok x ∧ item x "decision" = .str "write-summary" :=
  posing_valid.1.1 ▸ evaluate_rebind posing_valid.1.2.1 posing_valid.1.2.2

theorem posing_misled : Misled posing := posing_valid.2.1

theorem posing_adds : item posing "operation" ≠ .str "supersede" := posing_valid.2.2

/-- A proposal that supersedes what the store does not hold. -/
def orphan : Json := (proposal.set "operation" (.str "supersede")).set "supersedes" (.str "f-0")

theorem orphan_evaluated : ∃ x, evaluate_write host orphan authority = .ok x ∧
    item x "decision" = .str "skip" := by
  have hp : validate_write_proposal orphan = .ok () := by decide +kernel
  have ha : validate_write_authority authority = .ok () := by decide +kernel
  have heq := evaluate_write_decision (H := host) hp authority
  have hladder : ladder orphan authority = "skip" := by decide +kernel
  rw [ha, hladder, ite_self] at heq
  exact map_ok.1 heq

end OneFact

/-- The guard lets a batch pass whose first record poses as the event, and the commit refuses its
    plan; it refuses a proposal without its target, whose plan skips. -/
theorem guard_drifts : ∃ base, snapshot OneFact.host OneFact.store 5 = .ok base ∧
    (∃ plan, build_write_plan OneFact.host OneFact.posing
        (rebind OneFact.host OneFact.events_authority OneFact.posing) none = .ok plan ∧
      guard_plan_against_snapshot base OneFact.posing = .ok () ∧
      ¬CommitAccepts OneFact.host OneFact.store base (OneFact.calling OneFact.posing
        (rebind OneFact.host OneFact.events_authority OneFact.posing) plan)) ∧
    ∃ plan, build_write_plan OneFact.host OneFact.orphan OneFact.authority none = .ok plan ∧
      guard_plan_against_snapshot base OneFact.orphan ≠ .ok () ∧
      CommitAccepts OneFact.host OneFact.store base
        (OneFact.calling OneFact.orphan OneFact.authority plan) := by
  obtain ⟨base, hbase, hempty⟩ := OneFact.base_ok
  refine ⟨base, hbase, ?_, ?_⟩
  · obtain ⟨x, hx, hdecision⟩ := OneFact.posing_evaluated
    have hskip : item x "decision" ≠ .str "skip" := by simp [hdecision]
    obtain ⟨plan, hplan⟩ := (@accepts_iff OneFact.host _ _ x none hx).2
      ⟨.inr (rightDecision_none x), .inr fun _ => by decide +kernel⟩
    obtain ⟨s, last, hw⟩ := exists_writes (w := OneFact.calling OneFact.posing
      (rebind OneFact.host OneFact.events_authority OneFact.posing) plan) hbase hx hskip hplan
    refine ⟨plan, hplan, (guard_ok hw.plannable hw.stream hw.base_ids).2 fun r hr => ?_,
      hw.not_accepts_of_misled OneFact.posing_misled⟩
    exact ⟨by simp [hempty], fun hop => absurd hop OneFact.posing_adds⟩
  · obtain ⟨x, hx, hdecision⟩ := OneFact.orphan_evaluated
    obtain ⟨plan, hplan⟩ := (@accepts_iff OneFact.host _ _ x none hx).2
      ⟨.inr (rightDecision_none x), .inl hdecision⟩
    refine ⟨plan, hplan, fun hguard => ?_, skips_accepts (records_of_skip hx hdecision hplan)⟩
    have hp := plannable_of_valid (proposal_of_evaluate hx).1
    have hstream : item OneFact.orphan "stream" = .str Stream.facts.name := by decide +kernel
    have hadmits := (guard_ok hp hstream (nodup_of_snapshot hbase _)).1 hguard _
      (show item OneFact.orphan "record" ∈ proposal_records OneFact.orphan by decide +kernel)
    obtain ⟨_, -, row, hrow, -⟩ := hadmits.target (by decide +kernel)
    rw [hempty] at hrow
    cases hrow

theorem guard_agrees_fact : ∃ base plan, snapshot OneFact.host OneFact.store 5 = .ok base ∧
    GuardAgrees OneFact.host OneFact.store base (OneFact.calling OneFact.proposal
      (rebind OneFact.host OneFact.authority OneFact.proposal) plan) := by
  obtain ⟨base, hbase, -⟩ := OneFact.base_ok
  obtain ⟨plan, hplan⟩ := OneFact.built
  exact ⟨base, plan, hbase, guard_agrees (w := OneFact.calling OneFact.proposal
    (rebind OneFact.host OneFact.authority OneFact.proposal) plan) hbase hplan⟩

end AnKla
