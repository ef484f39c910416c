import AnKla.Transactions.Move

/-!
# Receipts are spent once

A commit under a tool's authority spends a receipt: it is verified under the lock, and
a tombstone of its nonce is created, before anything else is written.

* `Attested`: a receipt that a call is committed under, unspent before and spent after.
* `attested_of_moved`: no commit under a tool's authority moves CURRENT without one.
* `tombstone_kept`: nothing takes a tombstone away.
* `SpendsOnce`, `spends_once`: in every run, no two commits are under one nonce.
-/

namespace AnKla

open PyJson Durable

variable (H : Crypto)

/-- The first receipt that the authority of a call names. It passes every check on the
    disk before the call, where it is unspent. Afterwards it is spent. -/
structure Attested (w : WriteCall) (d d' : Disk) (receipt : Json) : Prop where
  verified : verify_receipt_for_authority H d w.authority = .ok receipt
  unspent : d.read (tombstone_path H receipt) = none
  spent : (d'.read (tombstone_path H receipt)).isSome = true

variable {H}

/-! ## Tombstones -/

/-- A receipt that is verified has no tombstone. -/
theorem unspent_of_verified {d : Disk} {authority receipt : Json}
    (h : verify_receipt_for_authority H d authority = .ok receipt) :
    d.read (tombstone_path H receipt) = none := by
  rw [verify_receipt_for_authority] at h
  split at h
  · cases h
  · rw [verify_receipt_evidence] at h
    obtain ⟨_, -, h⟩ := bind_ok.1 h
    obtain ⟨_, -, h⟩ := bind_ok.1 h
    obtain ⟨_, -, h⟩ := bind_ok.1 h
    obtain ⟨_, -, h⟩ := bind_ok.1 h
    obtain ⟨_, -, h⟩ := bind_ok.1 h
    obtain ⟨_, hnone, h⟩ := bind_ok.1 h
    obtain rfl := pure_ok.1 h
    exact Option.isNone_iff_eq_none.1 (ensure_ok.1 hnone)

theorem not_aside_tombstone (x : Digest) : ¬(storage H).aside (.tombstone x) :=
  not_aside (by simp)

/-- A receipt that was spent to the end has its tombstone. -/
theorem spent_of_consumed {now : String} {receipt : Json} {d d' : Disk}
    (h : execs (storage H) (consume_tombstone H now receipt) d = .ok d') :
    (d'.read (tombstone_path H receipt)).isSome = true := by
  obtain ⟨e, -, h⟩ := execs_cons.1 h
  obtain ⟨e', he, h⟩ := execs_cons.1 h
  cases h
  rw [Write.exec_target (.inr rfl) he]
  rfl

variable (H) in
/-- The first write of `consume_tombstone`: the receipt must be unspent. -/
def unspent_check (receipt : Json) : Write Path Document Failure :=
  .check fun d => ensure (d.read (tombstone_path H receipt)).isNone (.attest "receipt_replayed" "")

/-- Spending a receipt takes no tombstone away, wherever it stops. -/
theorem consume_kept (now : String) (receipt : Json) (f : Option Fault) {d : Disk} {x : Digest}
    (hx : (d.read (.tombstone x)).isSome = true) :
    ((perform (storage H) (consume_tombstone H now receipt) f d).1.read (.tombstone x)).isSome =
      true := by
  by_cases hp : tombstone_path H receipt = .tombstone x
  · -- the call sees that its receipt is spent, and writes nothing
    have hconsume : consume_tombstone H now receipt =
        [unspent_check H receipt] ++ (consume_tombstone H now receipt).tail := rfl
    have hsplit : (perform (storage H) _ f d).1 = (perform (storage H) _ f d).1 ∨ _ :=
      perform_append [unspent_check H receipt] (consume_tombstone H now receipt).tail f d
    rw [← hconsume] at hsplit
    obtain hsame | ⟨e, he, -⟩ := hsplit
    · have hcheck : (perform (storage H) [unspent_check H receipt] f d).1.read (.tombstone x) =
          d.read (.tombstone x) := by
        refine perform_frame f (fun w hw ht => ?_) (not_aside_tombstone x)
        rw [List.mem_singleton] at hw
        subst hw
        cases ht
      rw [← hcheck, ← hsame] at hx
      exact hx
    · obtain ⟨e', he', -⟩ := execs_cons.1 he
      obtain ⟨_, hnone, -⟩ := map_ok.1 he'
      rw [ensure_ok, hp, Option.isNone_iff_eq_none] at hnone
      rw [hnone] at hx
      cases hx
  · rw [perform_frame f (fun w hw ht => ?_) (not_aside_tombstone x)]
    · exact hx
    · rw [consume_tombstone, List.mem_cons, List.mem_singleton] at hw
      obtain rfl | rfl := hw
      · cases ht
      · exact hp (Option.some.inj ht)

namespace CommitRequest

variable {c : CommitRequest} {base : Snapshot} {m : Manifest} {x : Digest}

theorem object_not_tombstone : ∀ w ∈ c.object_writes H base, w.target ≠ some (.tombstone x) := by
  intro w hw ht
  rw [object_writes, List.cons_append, List.cons_append, List.mem_cons, List.mem_append,
    List.mem_append] at hw
  obtain rfl | (hw | hw) | hw := hw
  · cases ht
  · obtain ⟨y, -, rfl⟩ := List.mem_map.1 hw
    cases ht
  · obtain ⟨v, -, rfl⟩ := List.mem_map.1 hw
    cases ht
  · rw [refute_writes] at hw
    split at hw
    · exact absurd hw List.not_mem_nil
    · simp only [List.mem_cons, List.not_mem_nil, or_false] at hw
      obtain rfl | rfl | rfl := hw <;> cases ht

theorem publish_not_tombstone : ∀ w ∈ c.publish_writes H m, w.target ≠ some (.tombstone x) := by
  intro w hw
  have receipt {r : Receipt} (h : w ∈ write_receipt H r) : w.target ≠ some (.tombstone x) :=
    write_receipt_target (by simp) w h
  simp only [publish_writes, stage_writes, move_writes, audit_writes, observe_writes,
    List.cons_append, List.nil_append, List.mem_cons, List.mem_append, List.not_mem_nil,
    or_false] at hw
  obtain rfl | rfl | rfl | rfl | ((hw | rfl | rfl | rfl | rfl | hw) | rfl | rfl) | rfl | rfl := hw
  all_goals first | exact receipt hw | exact fun ht => by cases ht

/-- A commit writes no tombstone. -/
theorem writes_not_tombstone : ∀ w ∈ c.writes H base, w.target ≠ some (.tombstone x) := by
  intro w hw
  rw [writes, List.mem_append] at hw
  obtain hw | hw := hw
  · exact object_not_tombstone w hw
  · split at hw
    · rw [List.mem_singleton] at hw
      rw [hw]
      exact fun ht => by cases ht
    · exact publish_not_tombstone w hw

end CommitRequest

/-- Past the spending of its receipt, a call leaves the tombstones alone. -/
theorem locked_tombstone (c : CommitRequest) (incident : Option Incident) (d : Disk) (x : Digest) :
    (commit_locked H c incident d).1.read (.tombstone x) = d.read (.tombstone x) := by
  obtain h | ⟨base, -, h⟩ := commit_locked_cases (H := H) c incident d
  · rw [h]
  · rw [h, perform_frame _ CommitRequest.writes_not_tombstone (not_aside_tombstone x)]

/-- No call takes a tombstone away, wherever it stops. -/
theorem tombstone_kept (g : Governed) (incident : Option Incident) {d : Disk} {x : Digest}
    (hx : (d.read (.tombstone x)).isSome = true) :
    ((g.commit H incident d).1.read (.tombstone x)).isSome = true := by
  obtain ⟨d₀, hs, h⟩ := g.effect (H := H) incident d
  have h₀ : (d₀.read (.tombstone x)).isSome = true := by
    cases hs with
    | nothing => exact hx
    | receipt verified attests f => exact consume_kept _ _ f hx
  obtain h | ⟨c, rest, -, h⟩ := h
  · rw [h]
    exact h₀
  · rw [h, locked_tombstone]
    exact h₀

/-! ## One commit -/

/-- A receipt that is spent to the end is verified, and has its tombstone. -/
theorem attested_of_enforced {w : WriteCall} {incident rest : Option Incident} {d d' : Disk}
    (ha : w.attests = true) (h : enforce_for_commit H w incident d = (d', .returned rest)) :
    ∃ receipt, Attested H w d d' receipt := by
  rw [enforce_for_commit, if_pos ha] at h
  split at h
  · cases h
  · next receipt hv =>
    obtain ⟨hd, hr⟩ := Prod.mk.inj h
    have hended : Ended (storage H) _ _ d _ _ := perform_split (consume_tombstone H w.now receipt)
      (incident.map (·.fault)) d
    rw [hd] at hended
    split at hr
    · next hp =>
      rw [hp] at hended
      cases hended with
      | done all => exact ⟨receipt, hv, unspent_of_verified hv, spent_of_consumed all⟩
    · split at hr <;> cases hr
    · cases hr

/-- A commit that moves CURRENT under a tool's authority is attested. -/
theorem attested_of_moved {w : WriteCall} {incident : Option Incident} {d : Disk}
    (ha : w.attests = true)
    (hmoved : (commit_write_plan H w incident d).1.read .current ≠ d.read .current) :
    ∃ receipt, Attested H w d (commit_write_plan H w incident d).1 receipt := by
  rw [commit_write_plan] at hmoved ⊢
  split at hmoved
  · exact absurd rfl hmoved
  · exact absurd rfl hmoved
  · next binding observed hb hcur =>
    split_ifs at hmoved with hobs
    · -- a replay writes on the revision of its plan, which is not CURRENT
      rw [commit_replay] at hmoved
      split at hmoved
      · exact absurd rfl hmoved
      · next c hc =>
        obtain hsame | ⟨base, -, hrun⟩ := commit_locked_cases (H := H) c incident d
        · exact absurd (congrArg (fun e : Disk => e.read .current) hsame) hmoved
        · obtain hsame | ⟨m, hm⟩ := c.run_moves (H := H) base (incident.map (·.fault)) d
          · exact absurd ((congrArg (fun e : Disk => e.read .current) hrun).trans hsame) hmoved
          · have hbase := (Requests.replay_request_fields hc).2.1
            rw [hm.before, hbase] at hcur
            exact absurd (Except.ok.inj hcur).symm hobs
    · rw [if_neg hobs]
      split at hmoved
      · exact absurd rfl hmoved
      · next store_identity hcheck =>
        have hspends := enforce_spends (H := H) w incident d
        have hcurrent : (enforce_for_commit H w incident d).1.read .current = d.read .current :=
          hspends.read (by simp) (by simp)
        split at hmoved
        · next d' he => rw [he] at hcurrent; exact absurd hcurrent hmoved
        · next d' e he => rw [he] at hcurrent; exact absurd hcurrent hmoved
        · next d' rest he =>
          obtain ⟨receipt, hr⟩ := attested_of_enforced ha he
          refine ⟨receipt, hr.verified, hr.unspent, ?_⟩
          rw [commit_checked]
          split_ifs
          · exact hr.spent
          · split
            · exact hr.spent
            · next c hc =>
              exact (congrArg Option.isSome (locked_tombstone c rest d' _)).trans hr.spent

/-! ## Runs -/

theorem World.run_append (s : World) (es es' : List Event) :
    s.run H (es ++ es') = (s.run H es).run H es' := by
  induction es generalizing s with
  | nil => rfl
  | cons e es ih => exact ih (s.step H e)

/-- A spent receipt stays spent. -/
theorem World.run_tombstone (s : World) (es : List Event) {x : Digest}
    (hx : (s.disk.read (.tombstone x)).isSome = true) :
    ((s.run H es).disk.read (.tombstone x)).isSome = true :=
  s.run_invariant (I := fun d => (d.read (.tombstone x)).isSome = true) (P := fun _ => True)
    (fun _ _ _ _ => trivial) (fun g _ incident _ hd => tombstone_kept g incident hd) hx

variable (H) in
/-- The event commits a write under a tool's authority. -/
structure Commits (s : World) (e : Event) (w : WriteCall) : Prop where
  write : ∃ n incident, e = .commit n (.write w) incident
  attests : w.attests = true
  moved : (s.step H e).disk.read .current ≠ s.disk.read .current

/-- The receipt that an event commits under. -/
theorem Commits.attested {s : World} {e : Event} {w : WriteCall} (h : Commits H s e w) :
    ∃ receipt, Attested H w s.disk (s.step H e).disk receipt := by
  obtain ⟨n, incident, rfl⟩ := h.write
  have hmoved := h.moved
  by_cases hseen : s.seen n = some (Governed.write w).base
  · rw [World.step_commit incident hseen] at hmoved ⊢
    exact attested_of_moved h.attests hmoved
  · rw [World.step, if_neg hseen] at hmoved
    exact absurd rfl hmoved

variable (H) in
/-- Receipts are verified, and no receipt serves twice, nor one whose call did not come
    to its end. -/
structure SpendsOnce (s : World) (es : List Event) : Prop where
  /-- Every commit under a tool's authority is under a receipt that passes every check
      when it is made. -/
  attested : ∀ {pre e post w}, es = pre ++ e :: post → Commits H (s.run H pre) e w →
    ∃ receipt, Attested H w (s.run H pre).disk ((s.run H pre).step H e).disk receipt
  /-- Once there is a tombstone of its nonce, no commit is under a receipt. -/
  dead : ∀ {pre mid e post w receipt}, es = pre ++ mid ++ e :: post →
    ((s.run H pre).disk.read (tombstone_path H receipt)).isSome = true →
    ¬Attested H w (s.run H (pre ++ mid)).disk ((s.run H (pre ++ mid)).step H e).disk receipt
  /-- Two commits are under receipts of two nonces. -/
  once : ∀ {pre e mid e' post w w' receipt receipt'}, es = pre ++ e :: mid ++ e' :: post →
    Attested H w (s.run H pre).disk ((s.run H pre).step H e).disk receipt →
    Attested H w' (s.run H (pre ++ e :: mid)).disk ((s.run H (pre ++ e :: mid)).step H e').disk
      receipt' →
    py_str (item receipt "nonce") ≠ py_str (item receipt' "nonce")

/-- In every run of any number of clients, from any disk and with any incidents, receipts
    are verified and spent once. -/
theorem spends_once (s : World) (es : List Event) : SpendsOnce H s es where
  attested _ hc := hc.attested
  dead {pre mid _ _ _ receipt} _ hspent ha := by
    have hkept := (s.run H pre).run_tombstone (H := H) mid hspent
    rw [← World.run_append] at hkept
    exact absurd (hkept.symm.trans (congrArg Option.isSome ha.unspent)) (by simp)
  once {pre e mid _ _ _ _ receipt receipt'} _ ha ha' hnonce := by
    have hpath : tombstone_path H receipt = tombstone_path H receipt' := by
      rw [tombstone_path, tombstone_path, hnonce]
    have hspent := ha.spent
    rw [hpath] at hspent
    have hkept := ((s.run H pre).step H e).run_tombstone (H := H) mid hspent
    have hrun : ((s.run H pre).step H e).run H mid = s.run H (pre ++ e :: mid) := by
      rw [World.run_append, World.run]
    rw [hrun] at hkept
    exact absurd (hkept.symm.trans (congrArg Option.isSome ha'.unspent)) (by simp)

end AnKla
