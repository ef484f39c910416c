import AnKla.Policy.Dict
import AnKla.Transactions.Move
import AnKla.Snapshot.Reads

/-!
# The base of a commit

What a commit has checked before it writes anything.

* `Prepared`: the binding of the id, the base and the new records.
* `assign_records_ok`: the new records have ids that are neither used nor repeated.
* `Requests.storable`: the records of a plan have a canonical text.
-/

namespace AnKla

open PyJson Durable

variable {H : Crypto}

/-! ## Records of a plan -/

/-- The records of a plan that was verified have a canonical text. -/
theorem WriteCall.pending_storable {w : WriteCall} {decision : Option Json}
    (h : verify_write_plan H w.plan w.proposal w.authority decision = .ok ()) (s : Stream) :
    ∀ row ∈ w.pending.get s, Storable row := by
  rw [verify_write_plan, mapError_ok, check_write_plan] at h
  obtain ⟨_, hv, -⟩ := bind_ok.1 h
  have hplan : Storable w.plan := by
    rw [validate_write_plan] at hv
    simp only [bind_ok] at hv
    obtain ⟨-, -, -, -, -, -, -, -, -, -, -, -, -, -, -, -, -, -, hv⟩ := hv
    exact validate_json_value_ok hv
  intro row hrow
  rw [WriteCall.pending, PerStream.get_ofFn, WriteCall.records, List.mem_map] at hrow
  obtain ⟨x, hx, rfl⟩ := hrow
  exact storable_item (storable_elems (storable_item hplan _) x (List.mem_filter.1 hx).1) _

/-! ## New records -/

theorem record_id_of_item {row : Json} {s : String} (h : item row "id" = .str s) :
    record_id row = s := by
  rw [item] at h
  rw [record_id]
  cases hg : row.get? "id" with
  | none => rw [hg] at h; cases h
  | some v =>
    rw [hg] at h
    obtain rfl : v = .str s := h
    rfl

/-- New rows have ids that are neither used nor repeated. -/
theorem assign_rows_ok {stream : Stream} {existing : List String} {rows : List Json}
    (h : assign_rows stream existing rows = .ok ()) : (∀ row ∈ rows, record_id row ≠ "") ∧
      (rows.map record_id).Nodup ∧ ∀ row ∈ rows, record_id row ∉ existing := by
  induction rows generalizing existing with
  | nil => exact ⟨by simp, by simp, by simp⟩
  | cons row rows ih =>
    rw [assign_rows] at h
    split at h
    · next s hs =>
      have hid := record_id_of_item hs
      split_ifs at h with hne hused
      obtain ⟨h1, h2, h3⟩ := ih h
      have hnot : ∀ r ∈ rows, record_id r ≠ s ∧ record_id r ∉ existing := fun r hr => by
        have := h3 r hr
        rw [List.mem_append, not_or, List.mem_singleton] at this
        exact ⟨this.2, this.1⟩
      refine ⟨?_, ?_, ?_⟩
      · rintro r hr
        obtain rfl | hr := List.mem_cons.1 hr
        · rw [hid]
          exact hne
        · exact h1 r hr
      · rw [List.map_cons, List.nodup_cons]
        refine ⟨fun hmem => ?_, h2⟩
        obtain ⟨r, hr, he⟩ := List.mem_map.1 hmem
        exact (hnot r hr).1 (he.trans hid)
      · rintro r hr
        obtain rfl | hr := List.mem_cons.1 hr
        · rw [hid]
          exact hused
        · exact (hnot r hr).2
    · cases h

theorem assign_records_ok {base : Snapshot} {pending : PerStream (List Json)}
    (h : assign_records base pending = .ok ()) (s : Stream) :
    (∀ row ∈ pending.get s, record_id row ≠ "") ∧ ((pending.get s).map record_id).Nodup ∧
      ∀ row ∈ pending.get s, record_id row ∉ (base.records.get s).map record_id :=
  assign_rows_ok (forM_ok.1 h s s.mem_STREAMS)

/-- The overlay leaves the id of a record alone. -/
theorem record_id_set_status (row : Json) (v : Json) :
    record_id (row.set "status" v) = record_id row := by
  rw [record_id, record_id, Json.get?_set_ne (by decide)]

theorem record_id_overlay (m : Manifest) (stream : Stream) (row : Json) :
    record_id (overlay H m stream row) = record_id row := by
  rw [overlay]
  split_ifs <;> simp only [record_id_set_status]

theorem map_record_id_records {d : Disk} {revision : Digest} {s : Snapshot}
    (h : snapshot H d revision = .ok s) (stream : Stream) :
    (s.records.get stream).map record_id = (s.raw_records.get stream).map record_id := by
  rw [(snapshot_reads h).records, PerStream.get_ofFn, List.map_map]
  exact List.map_congr_left fun row _ => record_id_overlay _ _ _

/-! ## Before the first write -/

/-- What a commit has checked when it writes on a base. -/
structure Prepared (H : Crypto) (c : CommitRequest) (d : Disk) (base : Snapshot) : Prop where
  patch : c.attempt.operation = .checkpoint ∨ c.checkpoint_patch.keys = []
  refutes : c.attempt.operation = .refute → c.policy_metadata.isSome ∧ c.refute_objects.isSome
  plain : c.attempt.operation ≠ .refute → c.refute_objects = none
  binding : ∃ candidates attempts, check_binding H d c.attempt = .ok (candidates, attempts) ∧
    (candidates = [] ∨ ∃ o, inspect_transaction H d c.txid = .ok o ∧ o.committed ≠ some true)
  read : snapshot H d c.observed = .ok base
  rows : assign_records base c.pending = .ok ()

/-- An inspection that finds nothing committed leads on to the base. -/
theorem base_of_inspected {c : CommitRequest} {d : Disk} {base : Snapshot}
    {inspected : Option Outcome}
    (h : (match inspected.filter fun x => decide (x.committed = some true) with
      | some outcome => pure (.inl (outcome.candidate_revision.getD 0, outcome))
      | none => do
        let base ← snapshot H d c.observed
        assign_records base c.pending
        pure (.inr base)) = (.ok (.inr base) : Except Failure ((Digest × Outcome) ⊕ Snapshot))) :
    inspected.filter (fun x => decide (x.committed = some true)) = none ∧
      snapshot H d c.observed = .ok base ∧ assign_records base c.pending = .ok () := by
  split at h
  · cases h
  · next hno =>
    obtain ⟨base', hbase, h⟩ := bind_ok.1 h
    obtain ⟨⟨⟩, hrows, h⟩ := bind_ok.1 h
    obtain rfl := Sum.inr.inj (pure_ok.1 h)
    exact ⟨hno, hbase, hrows⟩

theorem prepared {c : CommitRequest} {d : Disk} {base : Snapshot}
    (h : c.prepare H d = .ok (.inr base)) : Prepared H c d base := by
  rw [CommitRequest.prepare] at h
  obtain ⟨_, h1, h⟩ := bind_ok.1 h
  obtain ⟨_, h2, h⟩ := bind_ok.1 h
  obtain ⟨⟨candidates, attempts⟩, h3, h⟩ := bind_ok.1 h
  have hnext : ∃ inspected : Option Outcome, (candidates = [] ∨
      ∃ o, inspect_transaction H d c.txid = .ok o ∧ inspected = some o) ∧
      inspected.filter (fun x => decide (x.committed = some true)) = none ∧
      snapshot H d c.observed = .ok base ∧ assign_records base c.pending = .ok () := by
    dsimp only at h
    split_ifs at h with hc
    · exact ⟨none, .inl hc, base_of_inspected h⟩
    · obtain ⟨inspected, hi, h⟩ := bind_ok.1 h
      refine ⟨inspected, .inr ?_, base_of_inspected h⟩
      cases ho : inspect_transaction H d c.txid with
      | error e => rw [ho] at hi; cases hi
      | ok o =>
        rw [ho] at hi
        exact ⟨o, rfl, (Except.ok.inj hi).symm⟩
  obtain ⟨inspected, hins, hno, h5, h6⟩ := hnext
  rw [ensure_ok, Bool.or_eq_true, decide_eq_true_eq, decide_eq_true_eq] at h1
  rw [ensure_ok] at h2
  refine ⟨h1, fun hop => ?_, fun hop => ?_, ⟨candidates, attempts, h3, hins.imp_right ?_⟩, h5, h6⟩
  · rw [if_pos hop, Bool.and_eq_true] at h2
    exact h2
  · rw [if_neg hop] at h2
    exact Option.isNone_iff_eq_none.1 h2
  · rintro ⟨o, ho, rfl⟩
    refine ⟨o, ho, fun hcom => ?_⟩
    rw [Option.filter_some, if_pos (by simpa using hcom)] at hno
    cases hno

/-- A call that moves CURRENT does so on a base that is CURRENT, and writes the records
    of its plan. -/
theorem Requests.pending {d d₀ : Disk} {g : Governed} {c : CommitRequest}
    (h : Requests H d g d₀ c) (hc : read_current d = .ok c.observed) :
    c.pending = g.records ∧ ∀ s, ∀ row ∈ g.records.get s, Storable row := by
  have hnone (s : Stream) : ∀ row ∈ no_pending.get s, Storable row := by
    intro row hrow
    rw [no_pending, PerStream.get_ofFn] at hrow
    exact absurd hrow List.not_mem_nil
  cases h with
  | write current checked writes request =>
    refine ⟨(write_request_fields request).2.2.1, fun s => ?_⟩
    rw [WriteCall.check] at checked
    obtain ⟨_, -, checked⟩ := bind_ok.1 checked
    obtain ⟨⟨⟩, hv, -⟩ := bind_ok.1 checked
    exact WriteCall.pending_storable hv s
  | replay current advanced request =>
    obtain ⟨-, ho, -⟩ := replay_request_fields request
    rw [current, ho] at hc
    exact absurd (Except.ok.inj hc) advanced
  | checkpoint prepared request =>
    obtain ⟨-, s, rfl, -⟩ := checkpoint_lock prepared request
    exact ⟨rfl, hnone⟩
  | refute prepared request =>
    obtain ⟨-, -, s, -, hr⟩ := refute_lock prepared request
    exact ⟨(refute_request_fields hr).2.2.1, hnone⟩

end AnKla
