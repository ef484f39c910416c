import AnKla.Frame.Agrees
import AnKla.Transactions.Commit

/-!
# Writes that spare what is there

* `Spares`: a write that changes none of the objects, and no evidence of some
  transactions.
* `Spares.keeps`: finished or not, it leaves a disk that agrees.
* `Own`: a write of one transaction, which spares all the others.
* `object_own` and its likes: the writes of a commit.
-/

namespace AnKla

open PyJson Durable

variable (H : Crypto)

/-- The write changes none of the objects at some paths, and no evidence of some
    transactions. -/
structure Spares (U : Uuid → Prop) (O : Path → Prop) (d : Disk) (w : Write Path Document Failure) :
    Prop where
  files : ∀ {p c}, O p → Filed H p c → w.OnlyCreates p c
  journals : ∀ {t}, U t → w.target = some (.journal t) → ∃ j j', w = .replace (.journal t) (.journal j') ∧
    journal d t = some (some j) ∧ j'.attempt = j.attempt ∧ j'.candidate = j.candidate ∧
      j'.stage_object = j.stage_object
  stages : ∀ {t}, U t → ∀ id, w.target ≠ some (.stage t id)
  intents : ∀ {id r}, U r.transaction_id → r.kind = .intent → H.digest (.ref_log r) = id →
    w.target ≠ some (.ref_log id)

variable {H}

/-- A path that files are not moved to. -/
theorem not_aside {p : Path} (h : ∀ n, p ≠ .quarantine n) : ¬(storage H).aside p :=
  fun ⟨n, hn⟩ => h n hn

theorem not_aside_of_kind {p : Path} {k : ℕ} (h : p.kind = some k) : ¬(storage H).aside p := by
  rintro ⟨n, rfl⟩
  cases h

namespace Spares

variable {U : Uuid → Prop} {O : Path → Prop} {d : Disk} {w : Write Path Document Failure}

/-- Finished or not, the write leaves a disk that agrees. -/
theorem keeps (h : Spares H U O d w) : w.Keeps (storage H) fun e => Agrees H U O d e := by
  have hstep {e e' : Disk} (he : Agrees H U O d e)
      (hk : ∀ {I : Disk → Prop}, w.Keeps (storage H) I → I e → I e') : Agrees H U O d e' := by
    refine ⟨fun ho hf hd => ?_, fun {t} hu => ?_, fun {t} hu id => ?_, fun {id r} hu hkind => ?_⟩
    · exact hk (Write.keeps_content (h.files ho hf) (not_aside_of_kind hf.1)) (he.files ho hf hd)
    · have hn : ¬(storage H).aside (.journal t) := not_aside (by simp)
      by_cases ht : w.target = some (.journal t)
      · obtain ⟨j, j', rfl, hj, hsame⟩ := h.journals hu ht
        let I (x : Option Document) : Prop := x = d.read (.journal t) ∨ ∃ j j',
          journal d t = some (some j) ∧ x = some (.journal j') ∧ j'.attempt = j.attempt ∧
            j'.candidate = j.candidate ∧ j'.stage_object = j.stage_object
        have hI (x : Disk) : JournalKept d x t ↔ I (x.read (.journal t)) := by
          refine or_congr Iff.rfl (exists_congr fun j => exists_congr fun j' =>
            and_congr_right fun _ => and_congr_left fun _ => ?_)
          rw [journal]
          cases x.read (.journal t) with
          | none => simp
          | some c => cases c <;> simp
        exact (hI e').2 (hk (Write.keeps_replace (.inr ⟨j, j', hj, rfl, hsame⟩))
          ((hI e).1 (he.journals hu)))
      · have hread := hk (I := fun x => x.read (.journal t) = e.read (.journal t))
          (Write.keeps_read ht hn) rfl
        exact (he.journals hu).trans (.inl hread)
    · exact hk (Write.keeps_read (h.stages hu id) (not_aside (by simp))) (he.stages hu id)
    · refine (he.intents hu hkind).trans ?_
      by_cases hd : H.digest (.ref_log r) = id
      · have hread := hk (I := fun x => x.read (.ref_log id) = e.read (.ref_log id))
          (Write.keeps_read (h.intents hu hkind hd) (not_aside (by simp))) rfl
        rw [read_ref_log_iff, read_ref_log_iff, hread]
      · rw [read_ref_log_iff, read_ref_log_iff]
        exact iff_of_false (fun x => hd x.2) fun x => hd x.2
  intro e he
  refine ⟨fun e' hexec => hstep he fun hk hi => (hk e hi).1 e' hexec, fun pt =>
    hstep he fun hk hi => (hk e hi).2 pt⟩

/-- A run of such writes leaves a disk that agrees, wherever it stops. -/
theorem run {ws : List (Write Path Document Failure)} (f : Option Fault) {e : Disk}
    (hws : ∀ w ∈ ws, Spares H U O d w) (he : Agrees H U O d e) :
    Agrees H U O d (perform (storage H) ws f e).1 :=
  perform_invariant f (fun w hw => (hws w hw).keeps) he

end Spares

/-! ## The writes of one transaction -/

variable (H) in
/-- A write under the id of a transaction: its journal, the head, or an object
    that is its own or nobody's. -/
inductive Own (t : Uuid) : Write Path Document Failure → Prop
  | journal (j) : Own t (.replace (.journal t) (.journal j))
  | current (r) : Own t (.replace .current (.current r))
  | watermark (w) : Own t (.replace .watermark (.watermark w))
  | object {p c} (filed : Filed H p c) (stage : ∀ u id, p = .stage u id → u = t)
      (receipt : ∀ u id, p = .receipt u id → u = t)
      (entry : ∀ r, c = .ref_log r → r.transaction_id = t) : Own t (.create p c)
  | tombstone {d} (v) : Own t (.create (.tombstone d) (.json v))
  | check (f) : Own t (.check f)

/-- A write of one transaction spares all the others. -/
theorem Own.spares {t : Uuid} {w : Write Path Document Failure} (h : Own H t w)
    (O : Path → Prop) (d : Disk) : Spares H (· ≠ t) O d w := by
  cases h with
  | journal j =>
    refine ⟨fun _ hf ht => ?_, fun hu ht => ?_, fun _ _ ht => ?_, fun _ _ _ ht => ?_⟩
    · cases ht
      cases hf.1
    · cases ht
      exact absurd rfl hu
    all_goals cases ht
  | current r =>
    refine ⟨fun _ hf ht => ?_, fun hu ht => ?_, fun _ _ ht => ?_, fun _ _ _ ht => ?_⟩ <;> cases ht
    cases hf.1
  | watermark w =>
    refine ⟨fun _ hf ht => ?_, fun hu ht => ?_, fun _ _ ht => ?_, fun _ _ _ ht => ?_⟩ <;> cases ht
    cases hf.1
  | @object p c filed stage receipt entry =>
    refine ⟨fun _ hf ht => ?_, fun hu ht => ?_, fun hu id ht => ?_, fun {id r} hu _ hd ht => ?_⟩
    · cases ht
      rw [filed_unique filed hf]
    · cases ht
      cases filed.1
    · cases ht
      exact absurd (stage _ _ rfl) hu
    · cases ht
      have hr : Filed H (.ref_log id) (.ref_log r) := ⟨rfl, congrArg (fun x => [x]) hd.symm⟩
      exact hu (entry r (filed_unique filed hr))
  | tombstone v =>
    refine ⟨fun _ hf ht => ?_, fun hu ht => ?_, fun _ _ ht => ?_, fun _ _ _ ht => ?_⟩ <;> cases ht
    cases hf.1
  | check f =>
    refine ⟨fun _ _ ht => ?_, fun _ ht => ?_, fun _ _ ht => ?_, fun _ _ _ ht => ?_⟩ <;> cases ht

/-! ## A commit -/

/-- An object under its own digest, of no transaction. -/
theorem Own.plain {t : Uuid} {p : Path} {c : Document} (filed : Filed H p c)
    (h : p.kind ≠ some 7 ∧ p.kind ≠ some 8 ∧ p.kind ≠ some 5) : Own H t (.create p c) := by
  refine .object filed (fun u id hp => ?_) (fun u id hp => ?_) fun r hc => ?_
  · subst hp
    exact absurd rfl h.1
  · subst hp
    exact absurd rfl h.2.1
  · subst hc
    exact absurd filed.1 h.2.2

theorem Own.entry {t : Uuid} {r : RefLog} (h : r.transaction_id = t) :
    Own H t (.create (.ref_log (H.digest (.ref_log r))) (.ref_log r)) := by
  refine .object ⟨rfl, rfl⟩ (fun u id hp => ?_) (fun u id hp => ?_) fun r' hc => ?_
  · cases hp
  · cases hp
  · cases hc
    exact h

theorem write_receipt_own {r : Receipt} :
    ∀ w ∈ write_receipt H r, Own H r.transaction_id w := by
  intro w hw
  rw [write_receipt, List.mem_cons, List.mem_singleton] at hw
  obtain rfl | rfl := hw
  · exact .check _
  · refine .object ⟨rfl, rfl⟩ (fun u id hp => ?_) (fun u id hp => ?_) fun r' hc => ?_
    · cases hp
    · cases hp
      rfl
    · cases hc

namespace CommitRequest

variable (c : CommitRequest)

theorem object_own (base : Snapshot) : ∀ w ∈ c.object_writes H base, Own H c.txid w := by
  intro w hw
  rw [object_writes, List.cons_append, List.cons_append, List.mem_cons, List.mem_append,
    List.mem_append] at hw
  obtain rfl | (hw | hw) | hw := hw
  · exact .journal _
  · obtain ⟨x, -, rfl⟩ := List.mem_map.1 hw
    exact .plain ⟨rfl, rfl⟩ (by simp [Path.kind])
  · obtain ⟨v, -, rfl⟩ := List.mem_map.1 hw
    exact .plain ⟨rfl, rfl⟩ (by simp [Path.kind])
  · rw [refute_writes] at hw
    split at hw
    · exact absurd hw List.not_mem_nil
    · simp only [List.mem_cons, List.not_mem_nil, or_false] at hw
      obtain rfl | rfl | rfl := hw <;> exact .plain ⟨rfl, rfl⟩ (by simp [Path.kind])

theorem stage_own (m : Manifest) : ∀ w ∈ c.stage_writes H m, Own H c.txid w := by
  intro w hw
  rw [stage_writes, List.mem_append] at hw
  obtain hw | hw := hw
  · simp only [List.mem_cons, List.not_mem_nil, or_false] at hw
    obtain rfl | rfl | rfl := hw
    · exact .entry rfl
    · refine .object ⟨rfl, rfl⟩ (fun u id hp => ?_) (fun u id hp => ?_) fun r hc => ?_
      · cases hp
        rfl
      · cases hp
      · cases hc
    · exact .journal _
  · exact write_receipt_own w hw

theorem move_own (m : Manifest) : ∀ w ∈ c.move_writes H m, Own H c.txid w := by
  intro w hw
  rw [move_writes, List.mem_append] at hw
  obtain hw | hw := hw
  · simp only [List.mem_cons, List.not_mem_nil, or_false] at hw
    obtain rfl | rfl | rfl | rfl := hw
    · exact .journal _
    · exact .check _
    · exact .current _
    · exact .watermark _
  · exact write_receipt_own w hw

theorem audit_own (m : Manifest) : ∀ w ∈ c.audit_writes H m, Own H c.txid w := by
  intro w hw
  simp only [audit_writes, List.mem_cons, List.not_mem_nil, or_false] at hw
  obtain rfl | rfl := hw
  · exact .check _
  · exact .journal _

theorem observe_own (m : Manifest) : ∀ w ∈ c.observe_writes H m, Own H c.txid w := by
  intro w hw
  simp only [observe_writes, List.mem_cons, List.not_mem_nil, or_false] at hw
  obtain rfl | rfl := hw
  · exact .entry rfl
  · exact .journal _

theorem publish_own (m : Manifest) : ∀ w ∈ c.publish_writes H m, Own H c.txid w := by
  intro w hw
  simp only [publish_writes, List.cons_append, List.mem_cons, List.mem_append] at hw
  obtain rfl | ((hw | hw) | hw) | hw := hw
  · exact .plain ⟨rfl, rfl⟩ (by simp [Path.kind])
  · exact c.stage_own m w hw
  · exact c.move_own m w hw
  · exact c.audit_own m w hw
  · exact c.observe_own m w hw

/-- Every write of a commit is of its own transaction. -/
theorem writes_own (base : Snapshot) : ∀ w ∈ c.writes H base, Own H c.txid w := by
  intro w hw
  rw [writes, List.mem_append] at hw
  obtain hw | hw := hw
  · exact c.object_own base w hw
  · split at hw
    · rw [List.mem_singleton] at hw
      exact hw ▸ .check _
    · exact c.publish_own _ w hw

end CommitRequest

end AnKla
