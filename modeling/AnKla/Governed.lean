import AnKla.Checkpoints
import AnKla.Frame.Spares
import AnKla.Refutations
import AnKla.WriteCommit

/-!
# Governed commits

The three operations that clients change a store with, as one. A client plans on
the revision that it reads without the lock; its commit runs under the lock.

* `Governed`: a call of one of the three operations, with its plan.
* `Governed.commit`: the disk it leaves, and whether it reports to be committed.
* `Requests`: what a call asks of `commit_locked`.
* `Governed.effect`: a call changes nothing, or spends a receipt, or does what it
  asks for.
* `World`, `Event`: clients that plan and commit in any order.
-/

namespace AnKla

open PyJson Durable

/-- A call of a governed operation, with its plan. -/
inductive Governed
  | write (w : WriteCall)
  | checkpoint (k : CheckpointCall)
  | refute (r : RefuteCall)

namespace Governed

/-- The revision that the plan was made on. -/
def base : Governed → Digest
  | .write w => w.expected_current_hash
  | .checkpoint k => k.expected_current
  | .refute r => r.expected_current

/-- The id of the transaction, if there is one. -/
def txid : Governed → Option Uuid
  | .write w => some w.txid
  | .checkpoint k => k.transaction_id
  | .refute r => r.transaction_id

/-- The records that the plan adds. -/
def records : Governed → PerStream (List Json)
  | .write w => w.pending
  | _ => no_pending

variable (H : Crypto)

/-- The disk that a call leaves, and what it reports: committed, not committed or
    neither. -/
def commit (incident : Option Incident) (d : Disk) : Governed → Disk × Reply (Option Bool)
  | .write w =>
    let (d', reply) := commit_write_plan H w incident d
    (d', reply.map fun r => some r.committed)
  | .checkpoint k =>
    let (d', reply) := commit_checkpoint H k incident d
    (d', reply.map fun r => some r.committed)
  | .refute r =>
    let (d', reply) := commit_refute H r incident d
    (d', reply.map (·.committed))

end Governed

variable (H : Crypto)

/-! ## Requests -/

/-- What a call asks of `commit_locked`: on a disk it is checked on, and the disk
    after its receipt is spent. -/
inductive Requests (d : Disk) : Governed → Disk → CommitRequest → Prop
  | write {w binding store_identity d₀ c} (current : read_current d = .ok w.expected_current_hash)
      (checked : w.check H binding d = .ok store_identity) (writes : w.skips = false)
      (request : write_request H w binding store_identity d₀ = .ok c) :
      Requests d (.write w) d₀ c
  | replay {w binding observed c} (current : read_current d = .ok observed)
      (advanced : observed ≠ w.expected_current_hash)
      (request : replay_request H w binding observed d = .ok c) : Requests d (.write w) d c
  | checkpoint {k binding base a c} (prepared : k.prepare H d = .ok (binding, base, some a))
      (request : k.lock H binding (some a) d = .ok (some c)) : Requests d (.checkpoint k) d c
  | refute {r binding a c} (prepared : r.prepare H d = .ok (binding, some a))
      (request : r.lock H binding (some a) d = .ok (.inr c)) : Requests d (.refute r) d c

/-- The disk after a receipt is spent, if the call spends one, wherever that stops. -/
inductive Spends (d : Disk) : Governed → Disk → Prop
  | nothing {g} : Spends d g d
  | receipt {w receipt} (verified : verify_receipt_for_authority H d w.authority = .ok receipt)
      (attests : w.attests = true) (f : Option Fault) :
      Spends d (.write w) (perform (storage H) (consume_tombstone H w.now receipt) f d).1

variable {H}

/-- The receipt that a call spends is spent before anything else is written. -/
theorem enforce_spends (w : WriteCall) (incident : Option Incident) (d : Disk) :
    Spends H d (.write w) (enforce_for_commit H w incident d).1 := by
  rw [enforce_for_commit]
  split_ifs with ha
  · split
    · exact .nothing
    · next receipt hv => exact .receipt hv ha _
  · exact .nothing

/-- Spending a receipt writes nothing but its tombstone. -/
theorem Spends.read {d d₀ : Disk} {g : Governed} (h : Spends H d g d₀) {p : Path}
    (hp : ∀ t, p ≠ .tombstone t) (ha : ∀ n, p ≠ .quarantine n) : d₀.read p = d.read p := by
  cases h with
  | nothing => rfl
  | receipt verified attests f =>
    refine perform_frame f (fun w hw ht => ?_) (not_aside ha)
    rw [consume_tombstone, List.mem_cons, List.mem_singleton] at hw
    obtain rfl | rfl := hw
    · cases ht
    · exact hp _ (Option.some.inj ht).symm

/-- Spending a receipt changes no object and no evidence of any transaction. -/
theorem Spends.agrees {d d₀ : Disk} {g : Governed} (h : Spends H d g d₀) :
    Agrees H (fun _ => True) (fun _ => True) d d₀ where
  files {p c} _ hf hd := by
    rw [h.read (fun t ht => ?_) (fun n hn => ?_)]
    · exact hd
    · rw [ht] at hf
      cases hf.1
    · rw [hn] at hf
      cases hf.1
  journals _ := .inl (h.read (by simp) (by simp))
  stages _ id := h.read (by simp) (by simp)
  intents {id r} _ _ := by
    rw [read_ref_log_iff, read_ref_log_iff, h.read (p := .ref_log id) (by simp) (by simp)]

namespace Requests

variable {d d₀ : Disk} {g : Governed} {c : CommitRequest}

theorem write_request_fields {w : WriteCall} {binding : Binding} {store_identity : Digest}
    (h : write_request H w binding store_identity d = .ok c) :
    w.attempt = .ok c.attempt ∧ c.observed = w.expected_current_hash ∧ c.pending = w.pending ∧
      c.policy_metadata = some w.metadata ∧ c.refute_objects = none ∧
      c.store_identity = store_identity ∧
      resolve_supersede_targets H d w.plan w.expected_current_hash = .ok c.supersedes := by
  rw [write_request] at h
  obtain ⟨supersedes, hs, h⟩ := bind_ok.1 h
  obtain ⟨_, -, h⟩ := bind_ok.1 h
  obtain ⟨_, -, h⟩ := bind_ok.1 h
  obtain ⟨attempt, ha, h⟩ := bind_ok.1 h
  obtain rfl := pure_ok.1 h
  exact ⟨ha, rfl, rfl, rfl, rfl, rfl, hs⟩

theorem replay_request_fields {w : WriteCall} {binding : Binding} {observed : Digest}
    (h : replay_request H w binding observed d = .ok c) :
    w.attempt = .ok c.attempt ∧ c.observed = w.expected_current_hash ∧ c.pending = no_pending := by
  rw [replay_request] at h
  obtain ⟨_, -, h⟩ := bind_ok.1 h
  obtain ⟨_, -, h⟩ := bind_ok.1 h
  obtain ⟨_, -, h⟩ := bind_ok.1 h
  obtain ⟨attempt, ha, h⟩ := bind_ok.1 h
  obtain ⟨_, -, h⟩ := bind_ok.1 h
  obtain rfl := pure_ok.1 h
  exact ⟨ha, rfl, rfl⟩

/-- The attempt of a write is bound to its id and its base. -/
theorem write_attempt {w : WriteCall} {a : Attempt} (h : w.attempt = .ok a) :
    ∃ fingerprint, a = begin_transaction .write w.txid w.expected_current_hash fingerprint := by
  rw [WriteCall.attempt] at h
  split at h
  · cases h
  · split at h
    · cases h
    · next fingerprint _ => exact ⟨fingerprint, (Except.ok.inj h).symm⟩

theorem checkpoint_attempt {k : CheckpointCall} {a : Attempt} (h : k.attempt = .ok (some a)) :
    ∃ txid fingerprint, k.transaction_id = some txid ∧
      a = begin_transaction .checkpoint txid k.expected_current fingerprint := by
  rw [CheckpointCall.attempt] at h
  split_ifs at h
  · split at h
    · next txid fingerprint ht _ =>
      exact ⟨txid, fingerprint, ht, (Option.some.inj (Except.ok.inj h)).symm⟩
    · cases h
  · cases h

theorem refute_attempt {r : RefuteCall} {a : Attempt} (h : r.attempt = .ok (some a)) :
    ∃ txid fingerprint, r.transaction_id = some txid ∧
      digest_of (item r.plan "plan_fingerprint") = some fingerprint ∧
      a = begin_transaction .refute txid r.expected_current fingerprint := by
  rw [RefuteCall.attempt] at h
  split_ifs at h
  · cases h
  · split at h
    · cases h
    · next txid ht =>
      split at h
      · cases h
      · next fingerprint hf =>
        exact ⟨txid, fingerprint, ht, hf, (Option.some.inj (Except.ok.inj h)).symm⟩

/-- The request of a checkpoint, and its attempt. -/
theorem checkpoint_lock {k : CheckpointCall} {binding : Binding} {base : Snapshot} {a : Attempt}
    (hp : k.prepare H d = .ok (binding, base, some a))
    (h : k.lock H binding (some a) d = .ok (some c)) :
    k.attempt = .ok (some a) ∧ ∃ store_identity, c = k.request a store_identity ∧
      assert_unchanged H d binding k.expected_current = .ok store_identity := by
  rw [CheckpointCall.prepare] at hp
  obtain ⟨_, -, hp⟩ := bind_ok.1 hp
  obtain ⟨_, -, hp⟩ := bind_ok.1 hp
  obtain ⟨_, -, hp⟩ := bind_ok.1 hp
  obtain ⟨_, -, hp⟩ := bind_ok.1 hp
  obtain ⟨_, -, hp⟩ := bind_ok.1 hp
  obtain ⟨_, -, hp⟩ := bind_ok.1 hp
  obtain ⟨_, -, hp⟩ := bind_ok.1 hp
  obtain ⟨a', ha, hp⟩ := bind_ok.1 hp
  obtain ⟨-, -, rfl⟩ := by simpa only [pure_ok, Prod.mk.injEq] using hp
  refine ⟨ha, ?_⟩
  rw [CheckpointCall.lock] at h
  obtain ⟨observed, -, h⟩ := bind_ok.1 h
  obtain ⟨store_identity, hs, h⟩ := bind_ok.1 h
  have hc : some (k.request a store_identity) = some c := by
    dsimp only at h
    split_ifs at h
    · obtain ⟨_, -, h⟩ := bind_ok.1 h
      exact pure_ok.1 h
    · exact pure_ok.1 h
  exact ⟨store_identity, (Option.some.inj hc).symm, hs⟩

/-- The request of a refutation, and its attempt. -/
theorem refute_lock {r : RefuteCall} {binding : Binding} {a : Attempt}
    (hp : r.prepare H d = .ok (binding, some a)) (h : r.lock H binding (some a) d = .ok (.inr c)) :
    r.attempt = .ok (some a) ∧ read_current d = .ok r.expected_current ∧ ∃ store_identity,
      assert_unchanged H d binding r.expected_current = .ok store_identity ∧
      r.request H a store_identity d = .ok c := by
  rw [RefuteCall.prepare] at hp
  obtain ⟨_, -, hp⟩ := bind_ok.1 hp
  obtain ⟨_, -, hp⟩ := bind_ok.1 hp
  obtain ⟨a', ha, hp⟩ := bind_ok.1 hp
  obtain ⟨_, -, hp⟩ := bind_ok.1 hp
  obtain ⟨-, rfl⟩ := by simpa only [pure_ok, Prod.mk.injEq] using hp
  refine ⟨ha, ?_⟩
  have map_inr {x : Except Failure CommitRequest} (hx : (.inr <$> x :
      Except Failure (RefuteResult ⊕ CommitRequest)) = .ok (.inr c)) : x = .ok c := by
    cases x with
    | error e => cases hx
    | ok c' => cases hx; rfl
  rw [RefuteCall.lock] at h
  obtain ⟨observed, hcur, h⟩ := bind_ok.1 h
  obtain ⟨store_identity, hs, h⟩ := bind_ok.1 h
  simp only at h
  obtain ⟨prior, -, hprior⟩ := bind_ok.1 h
  cases prior with
  | some o =>
    simp only at hprior
    split_ifs at hprior with ho
    · cases hprior
    · rw [not_or, not_not] at ho
      obtain rfl := ho.2
      exact ⟨hcur, store_identity, hs, map_inr hprior⟩
  | none =>
    simp only at hprior
    obtain ⟨_, ho, hreq⟩ := bind_ok.1 hprior
    obtain rfl : observed = r.expected_current := by simpa using ho
    exact ⟨hcur, store_identity, hs, map_inr hreq⟩

theorem refute_request_fields {r : RefuteCall} {a : Attempt} {store_identity : Digest}
    (h : r.request H a store_identity d = .ok c) :
    c.observed = r.expected_current ∧ c.attempt = a ∧ c.pending = no_pending ∧ c.supersedes = [] ∧
      c.store_identity = store_identity ∧ ∃ attestation, r.attestation = some attestation ∧
      c.policy_metadata = some (r.metadata H attestation) ∧
      c.refute_objects = some ⟨r.claim, attestation, r.refutation H attestation⟩ := by
  rw [RefuteCall.request] at h
  obtain ⟨_, -, h⟩ := bind_ok.1 h
  split at h
  · next attestation stream ha _ =>
    obtain ⟨_, -, h⟩ := bind_ok.1 h
    obtain ⟨_, -, h⟩ := bind_ok.1 h
    obtain ⟨_, -, h⟩ := bind_ok.1 h
    obtain ⟨_, -, h⟩ := bind_ok.1 h
    obtain rfl := pure_ok.1 h
    exact ⟨rfl, rfl, rfl, rfl, rfl, attestation, ha, rfl, rfl⟩
  · cases h

/-- A request names the base of its plan, and is bound to the id of its call. -/
theorem binds (h : Requests H d g d₀ c) : c.observed = g.base ∧ g.txid = some c.txid ∧
    c.attempt.base_revision = some g.base := by
  cases h with
  | write current checked writes request =>
    obtain ⟨ha, ho, -⟩ := write_request_fields request
    obtain ⟨f, hf⟩ := write_attempt ha
    exact ⟨ho, by rw [CommitRequest.txid, hf]; rfl, by rw [hf]; rfl⟩
  | replay current advanced request =>
    obtain ⟨ha, ho, -⟩ := replay_request_fields request
    obtain ⟨f, hf⟩ := write_attempt ha
    exact ⟨ho, by rw [CommitRequest.txid, hf]; rfl, by rw [hf]; rfl⟩
  | checkpoint prepared request =>
    obtain ⟨ha, s, rfl, -⟩ := checkpoint_lock prepared request
    obtain ⟨t, f, ht, rfl⟩ := checkpoint_attempt ha
    exact ⟨rfl, ht, rfl⟩
  | refute prepared request =>
    obtain ⟨ha, -, s, -, hr⟩ := refute_lock prepared request
    obtain ⟨t, f, ht, -, rfl⟩ := refute_attempt ha
    obtain ⟨ho, hat, -⟩ := refute_request_fields hr
    exact ⟨ho, by rw [CommitRequest.txid, hat]; exact ht, by rw [hat]; rfl⟩

end Requests

/-! ## Effects -/

/-- `commit_locked` writes nothing, or writes on the base that it read. -/
theorem commit_locked_cases (c : CommitRequest) (incident : Option Incident) (d : Disk) :
    (commit_locked H c incident d).1 = d ∨ ∃ base, c.prepare H d = .ok (.inr base) ∧
      (commit_locked H c incident d).1 =
        (perform (storage H) (c.writes H base) (incident.map (·.fault)) d).1 := by
  rw [commit_locked]
  split
  · exact .inl rfl
  · exact .inl rfl
  · next base h => exact .inr ⟨base, h, rfl⟩

/-- A call spends its receipt, if it has one to spend, and stops there, or does what
    it asks for. -/
theorem Governed.effect (g : Governed) (incident : Option Incident) (d : Disk) :
    ∃ d₀, Spends H d g d₀ ∧ ((g.commit H incident d).1 = d₀ ∨ ∃ c rest, Requests H d g d₀ c ∧
      (g.commit H incident d).1 = (commit_locked H c rest d₀).1) := by
  cases g with
  | write w =>
    simp only [Governed.commit]
    rw [commit_write_plan]
    split
    · exact ⟨d, .nothing, .inl rfl⟩
    · exact ⟨d, .nothing, .inl rfl⟩
    · next binding observed hb hcur =>
      split_ifs with hobs
      · refine ⟨d, .nothing, ?_⟩
        rw [commit_replay]
        split
        · exact .inl rfl
        · next c hc => exact .inr ⟨c, incident, .replay hcur hobs hc, rfl⟩
      · obtain rfl : observed = w.expected_current_hash := not_not.1 hobs
        split
        · exact ⟨d, .nothing, .inl rfl⟩
        · next store_identity hcheck =>
          have hspends := enforce_spends (H := H) w incident d
          split
          · next d' he => exact ⟨d', by rwa [he] at hspends, .inl rfl⟩
          · next d' e he => exact ⟨d', by rwa [he] at hspends, .inl rfl⟩
          · next d' rest he =>
            rw [he] at hspends
            refine ⟨d', hspends, ?_⟩
            rw [commit_checked]
            split_ifs with hskip
            · exact .inl rfl
            · split
              · exact .inl rfl
              · next c hc =>
                exact .inr ⟨c, rest, .write hcur hcheck (by simpa using hskip) hc, rfl⟩
  | checkpoint k =>
    refine ⟨d, .nothing, ?_⟩
    simp only [Governed.commit]
    rw [commit_checkpoint]
    split
    · exact .inl rfl
    · next binding base attempt hp =>
      split
      · exact .inl rfl
      · exact .inl rfl
      · next c hc =>
        cases attempt with
        | none =>
          rw [CheckpointCall.lock] at hc
          obtain ⟨_, -, hc⟩ := bind_ok.1 hc
          obtain ⟨_, -, hc⟩ := bind_ok.1 hc
          dsimp only at hc
          split_ifs at hc
          · obtain ⟨_, -, hc⟩ := bind_ok.1 hc
            cases hc
          · cases hc
        | some a =>
          refine .inr ⟨c, incident, .checkpoint hp hc, ?_⟩
          split <;> rename_i heq <;> rw [heq]
  | refute r =>
    refine ⟨d, .nothing, ?_⟩
    simp only [Governed.commit]
    rw [commit_refute]
    split
    · exact .inl rfl
    · next binding attempt hp =>
      split
      · exact .inl rfl
      · exact .inl rfl
      · next c hc =>
        cases attempt with
        | none =>
          rw [RefuteCall.lock] at hc
          obtain ⟨_, -, hc⟩ := bind_ok.1 hc
          obtain ⟨_, -, hc⟩ := bind_ok.1 hc
          obtain ⟨_, -, hc⟩ := bind_ok.1 hc
          obtain ⟨_, -, hc⟩ := bind_ok.1 hc
          cases hc
        | some a => exact .inr ⟨c, incident, .refute hp hc, rfl⟩

/-! ## Clients -/

/-- A store and its clients, each with the revision that it read last. -/
structure World where
  disk : Disk
  seen : ℕ → Option Digest

/-- What a client does: it reads CURRENT to plan on it, without the lock, or it
    commits a plan. -/
inductive Event
  | plan (client : ℕ)
  | commit (client : ℕ) (g : Governed) (incident : Option Incident)

variable (H)

/-- One event. A client commits only plans on the revision that it has read. -/
def World.step (s : World) : Event → World
  | .plan n => { s with seen := Function.update s.seen n (current? s.disk) }
  | .commit n g incident =>
    if s.seen n = some g.base then { s with disk := (g.commit H incident s.disk).1 } else s

/-- Events in the order in which they happen. -/
def World.run (s : World) : List Event → World
  | [] => s
  | e :: es => (s.step H e).run es

variable {H}

theorem World.step_plan (s : World) (n : ℕ) : (s.step H (.plan n)).disk = s.disk := rfl

theorem World.seen_plan (s : World) (n : ℕ) :
    (s.step H (.plan n)).seen n = current? s.disk := Function.update_self ..

theorem World.step_commit {s : World} {n : ℕ} {g : Governed} (incident : Option Incident)
    (h : s.seen n = some g.base) :
    (s.step H (.commit n g incident)).disk = (g.commit H incident s.disk).1 := by
  rw [World.step, if_pos h]

/-- What every event keeps, a run keeps. -/
theorem World.run_invariant {I : Disk → Prop} {P : Governed → Prop} {es : List Event} {s : World}
    (hes : ∀ n g incident, Event.commit n g incident ∈ es → P g)
    (hI : ∀ g, P g → ∀ incident d, I d → I (g.commit H incident d).1) (hs : I s.disk) :
    I (s.run H es).disk := by
  induction es generalizing s with
  | nil => exact hs
  | cons e es ih =>
    refine ih (fun n g i h => hes n g i (List.mem_cons_of_mem _ h)) ?_
    cases e with
    | plan n => exact hs
    | commit n g incident =>
      rw [World.step]
      split_ifs
      · exact hI g (hes n g incident List.mem_cons_self) incident s.disk hs
      · exact hs

end AnKla
