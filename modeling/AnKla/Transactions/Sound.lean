import AnKla.Transactions.Publish

/-!
# Sound stores

The invariant of a store under governed calls, whatever stops them.

* `Evidence`: journals name candidates of their own transactions, stages hold the
  policies of their attempts.
* `Sound`: CURRENT has a valid chain, and every revision of it is named by the
  journal of its transaction.
* `Sound.fresh`: a commit writes only under an id that no revision of the chain has.
* `Governed.sound`: a governed call keeps a store sound.
-/

namespace AnKla

open PyJson Durable

variable (H : Crypto)

/-! ## What runs leave -/

variable {H} in
/-- What is filed after a run of a transaction was filed before, or was created. -/
theorem perform_filed {t : Uuid} {ws : List (Write Path Document Failure)}
    (hws : ∀ w ∈ ws, Own H t w) (f : Option Fault) {d : Disk} {p : Path} {x : Document}
    (hf : Filed H p x) (h : (perform (storage H) ws f d).1.read p = some x) :
    d.read p = some x ∨ .create p x ∈ ws := by
  by_contra hno
  rw [not_or] at hno
  refine hno.1 (Eq.trans (perform_frame f (fun w hw ht => ?_) (not_aside_of_kind hf.1)).symm h)
  obtain rfl := (hws w hw).onlyCreates hf ht
  exact hno.2 hw

variable {H} in
theorem Own.journal_trace {t u : Uuid} {w : Write Path Document Failure} {found : Option Document}
    (h : Own H t w) (ht : w.Trace (storage H) (.journal u) found) :
    u = t ∧ ∃ j, w = .replace (.journal t) (.journal j) ∧ found = some (.journal j) := by
  cases h with
  | journal j =>
    obtain ⟨hp, hf⟩ := ht
    cases hp
    exact ⟨rfl, j, rfl, hf⟩
  | current r => cases ht.1
  | watermark w => cases ht.1
  | object filed =>
    obtain ⟨rfl, -⟩ := ht
    cases filed.1
  | tombstone v => cases ht.1
  | check f => cases ht

variable {H} in
/-- A journal after a run of a transaction is as before, or is one that was written. -/
theorem perform_journal {t : Uuid} {ws : List (Write Path Document Failure)}
    (hws : ∀ w ∈ ws, Own H t w) (f : Option Fault) (d : Disk) (u : Uuid) :
    (perform (storage H) ws f d).1.read (.journal u) = d.read (.journal u) ∨
      u = t ∧ ∃ j, .replace (.journal t) (.journal j) ∈ ws ∧
        (perform (storage H) ws f d).1.read (.journal u) = some (.journal j) := by
  obtain h | ⟨w, hw, htrace⟩ := (Traces.refl ws d).perform f (.journal u) (not_aside (by simp))
  · exact .inl h
  · obtain ⟨rfl, j, rfl, hf⟩ := (hws w hw).journal_trace htrace
    exact .inr ⟨rfl, j, hw, hf⟩

namespace CommitRequest

variable {H}
variable {c : CommitRequest} {base : Snapshot}

theorem write_receipt_not_replace {r : Receipt} {p : Path} {x : Document} :
    .replace p x ∉ write_receipt H r := by
  rw [write_receipt]
  simp [sync_protected]

/-- The journals that a commit writes. -/
theorem writes_journal {t : Uuid} {j : Journal}
    (h : .replace (.journal t) (.journal j) ∈ c.writes H base) :
    j = c.prepared_journal ∨ ∃ m, c.manifest H base = .ok m ∧ CandidateJournal H c m j := by
  rw [writes, List.mem_append] at h
  obtain h | h := h
  · rw [object_writes, List.cons_append, List.cons_append, List.mem_cons, List.mem_append,
      List.mem_append] at h
    obtain h | (h | h) | h := h
    · cases h
      exact .inl rfl
    · obtain ⟨x, -, hx⟩ := List.mem_map.1 h
      cases hx
    · obtain ⟨v, -, hx⟩ := List.mem_map.1 h
      cases hx
    · rw [refute_writes] at h
      split at h <;> simp at h
  · cases hm : c.manifest H base with
    | error e =>
      rw [hm] at h
      simp at h
    | ok m =>
      rw [hm] at h
      refine .inr ⟨m, rfl, ?_⟩
      simp only [publish_writes, List.cons_append, List.mem_cons, List.mem_append, stage_writes,
        move_writes, audit_writes, observe_writes, write_receipt_not_replace, List.not_mem_nil,
        Write.replace.injEq, Path.journal.injEq, Document.journal.injEq, reduceCtorEq, or_false,
        false_or, and_false] at h
      obtain ⟨-, rfl⟩ | (⟨-, rfl⟩ | ⟨-, rfl⟩) | ⟨-, rfl⟩ := h
      all_goals exact journal_candidate c m ..

theorem write_receipt_not_stage {r : Receipt} {p : Path} {s : Stage} :
    .create p (.stage s) ∉ write_receipt H r := by
  rw [write_receipt]
  simp [sync_protected]

/-- The stage that a commit writes. -/
theorem writes_stage {p : Path} {s : Stage} (h : .create p (.stage s) ∈ c.writes H base) :
    ∃ m, c.manifest H base = .ok m ∧ s = c.stage H m := by
  rw [writes, List.mem_append] at h
  obtain h | h := h
  · rw [object_writes, List.cons_append, List.cons_append, List.mem_cons, List.mem_append,
      List.mem_append] at h
    obtain h | (h | h) | h := h
    · cases h
    · obtain ⟨x, -, hx⟩ := List.mem_map.1 h
      cases hx
    · obtain ⟨v, -, hx⟩ := List.mem_map.1 h
      cases hx
    · rw [refute_writes] at h
      split at h <;> simp at h
  · cases hm : c.manifest H base with
    | error e =>
      rw [hm] at h
      simp at h
    | ok m =>
      rw [hm] at h
      refine ⟨m, rfl, ?_⟩
      simp only [publish_writes, List.cons_append, List.mem_cons, List.mem_append, stage_writes,
        move_writes, audit_writes, observe_writes, write_receipt_not_stage, List.not_mem_nil,
        Write.create.injEq, Document.stage.injEq, reduceCtorEq, or_false, false_or,
        and_false] at h
      exact h.2

end CommitRequest

/-! ## The invariant -/

/-- Journals name candidates of their own transactions. Stages hold the policies of
    their attempts, on the bases of these. -/
structure Evidence (d : Disk) : Prop where
  named : ∀ {t j c}, journal d t = some (some j) → j.candidate = some c →
    ∃ x, H.digest (.manifest x) = c ∧ x.transaction_id = .uuid t
  stages : ∀ {t id s}, read_stage H d t id = .ok s →
    PolicyOf H s ∧ s.parent = s.attempt.base_revision

/-- A store whose CURRENT has a valid chain, each revision of it named by the journal of
    its transaction. -/
structure Sound (d : Disk) (head : Digest) (m : Manifest) : Prop where
  here : Head H d head m
  bound : Bound H m
  evidence : Evidence H d
  journals : ∀ id x, Below H d head m id x → ∀ u, x.transaction_id = .uuid u →
    ∃ j, journal d u = some (some j) ∧ j.candidate = some id

variable {H}
variable {d : Disk} {head : Digest} {m : Manifest} {c : CommitRequest} {base : Snapshot}

theorem check_binding_ok {attempt : Attempt} {candidates : List Digest} {attempts : List Attempt}
    (h : check_binding H d attempt = .ok (candidates, attempts)) :
    candidates = manifest_candidates H d attempt.transaction_id ∧ candidates.length ≤ 1 ∧
      (∀ j, journal d attempt.transaction_id = some (some j) → j.attempt = attempt) ∧
      ∀ id s, read_stage H d attempt.transaction_id id = .ok s → s.attempt = attempt := by
  rw [check_binding] at h
  obtain ⟨_, hlen, h⟩ := bind_ok.1 h
  obtain ⟨staged, hst, h⟩ := bind_ok.1 h
  rw [ensure_ok, decide_eq_true_eq] at hlen
  have hlast {all : List Attempt}
      (h : (do
        ensure (all.all fun x => decide (x = attempt)) (.transaction "transaction_binding_conflict")
        ensure (decide (manifest_candidates H d attempt.transaction_id = []) || decide (all ≠ []))
          (.transaction "transaction_evidence_missing_or_invalid")
        pure (manifest_candidates H d attempt.transaction_id, all)) =
        (.ok (candidates, attempts) : Except Failure _)) :
      candidates = manifest_candidates H d attempt.transaction_id ∧ ∀ a ∈ all, a = attempt := by
    obtain ⟨_, hall, h⟩ := bind_ok.1 h
    obtain ⟨_, -, h⟩ := bind_ok.1 h
    obtain ⟨rfl, -⟩ := Prod.mk.inj (pure_ok.1 h)
    rw [ensure_ok, List.all_eq_true] at hall
    exact ⟨rfl, fun a ha => of_decide_eq_true (hall a ha)⟩
  have hrest : ∃ all, staged ⊆ all ∧ (∀ a ∈ all, a = attempt) ∧
      candidates = manifest_candidates H d attempt.transaction_id ∧
      ∀ j, journal d attempt.transaction_id = some (some j) → j.attempt = attempt := by
    split at h
    · next hj =>
      obtain ⟨_, hs, h⟩ := bind_ok.1 h
      obtain rfl := pure_ok.1 hs
      obtain ⟨hc, hall⟩ := hlast h
      exact ⟨_, fun a ha => ha, hall, hc, fun j hj' => by rw [hj] at hj'; cases hj'⟩
    · next j hj =>
      obtain ⟨_, he, h⟩ := bind_ok.1 h
      obtain ⟨_, hs, h⟩ := bind_ok.1 h
      obtain rfl := pure_ok.1 hs
      obtain ⟨hc, hall⟩ := hlast h
      rw [ensure_ok, decide_eq_true_eq] at he
      refine ⟨_, List.subset_append_left _ _, hall, hc, fun j' hj' => ?_⟩
      rw [hj] at hj'
      cases hj'
      exact he
    · next hj =>
      obtain ⟨_, -, h⟩ := bind_ok.1 h
      obtain ⟨_, hs, h⟩ := bind_ok.1 h
      obtain rfl := pure_ok.1 hs
      obtain ⟨hc, hall⟩ := hlast h
      exact ⟨_, fun a ha => ha, hall, hc, fun j hj' => by rw [hj] at hj'; cases hj'⟩
  obtain ⟨all, hsub, hall, hcs, hj⟩ := hrest
  refine ⟨hcs, hcs ▸ hlen, hj, fun id s hs => hall _ (hsub ?_)⟩
  rw [stage_attempts] at hst
  have hlisted : id ∈ (stages attempt.transaction_id).listing d := by
    rw [Dir.mem_listing, show (stages attempt.transaction_id).path id =
      .stage attempt.transaction_id id from rfl, (read_stage_iff.1 hs).1]
    rfl
  obtain ⟨a, ha, hf⟩ := mapM_ok_mem hst hlisted
  rw [hs] at hf
  simp only at hf
  split_ifs at hf
  obtain rfl := Except.ok.inj hf
  exact ha

/-- A commit writes only under an id that no revision of the chain has. -/
theorem Sound.fresh (h : Sound H d head m) (hp : Prepared H c d base) {id : Digest} {x : Manifest}
    (hb : Below H d head m id x) : x.transaction_id ≠ .uuid c.txid := by
  intro ht
  obtain ⟨j, hj, hc⟩ := h.journals id x hb c.txid ht
  obtain ⟨candidates, attempts, hbind, hins⟩ := hp.binding
  obtain ⟨rfl, hlen, -⟩ := check_binding_ok hbind
  have hmem : id ∈ manifest_candidates H d c.txid :=
    mem_manifest_candidates.2 ⟨x, ht, hb.read h.here.read⟩
  obtain hnil | ⟨o, ho, hno⟩ := hins
  · rw [show c.attempt.transaction_id = c.txid from rfl] at hnil
    rw [hnil] at hmem
    exact absurd hmem List.not_mem_nil
  · exact hno (h.here.reports_committed hlen hj hc
      ⟨head, m, x, h.here.current, h.here.read, hb⟩ ho).1

/-- A revision that CURRENT leads to is CURRENT or an ancestor of it. -/
theorem Head.below_of_onChain (h : Head H d head m) {id : Digest} (hon : OnChain H d id) :
    ∃ x, Below H d head m id x := by
  obtain ⟨head', m', x, hcur, hread, hb⟩ := hon
  obtain rfl := Except.ok.inj (h.current.symm.trans hcur)
  obtain rfl := Except.ok.inj (h.read.symm.trans hread)
  exact ⟨x, hb⟩

theorem journal_of_recovered {t : Uuid} {j : Journal} (h : recovered_journal H d t [] = some j) :
    journal d t = some (some j) := by
  rw [recovered_journal.eq_def] at h
  split at h
  · next j' hj =>
    rw [hj, Option.some.inj h]
  · next hnil _ => cases hnil
  · cases h

/-- A request whose transaction is reported to be committed writes nothing. -/
theorem Sound.skips (h : Sound H d head m) {inspected : Option Outcome}
    (hi : store_inspect_transaction H d c.txid = .ok inspected)
    (hany : inspected.any (·.committed = some true) = true) : c.prepare H d ≠ .ok (.inr base) := by
  intro hp
  obtain ⟨o, ho, hcom⟩ : ∃ o, inspect_transaction H d c.txid = .ok o ∧ o.committed = some true := by
    rw [Option.any_eq_true] at hany
    obtain ⟨o, rfl, hcom⟩ := hany
    rw [store_inspect_transaction] at hi
    obtain ⟨o', ho, hi⟩ := bind_ok.1 hi
    refine ⟨o', ho, ?_⟩
    have ho' : some o' = some o := by
      split_ifs at hi with hu
      · obtain ⟨archived, -, hi⟩ := bind_ok.1 hi
        have hi := pure_ok.1 hi
        split_ifs at hi
        exact hi
      · exact pure_ok.1 hi
    rw [Option.some.inj ho']
    exact of_decide_eq_true hcom
  obtain ⟨candidates, attempts, hbind, hins⟩ := (prepared hp).binding
  obtain ⟨rfl, hlen, -⟩ := check_binding_ok hbind
  obtain hnil | ⟨o', ho', hno⟩ := hins
  · rw [show c.attempt.transaction_id = c.txid from rfl] at hnil
    obtain ⟨j, id, hrec, hcand, -, hon⟩ := inspect_committed ho hcom
    rw [hnil] at hrec
    have hj := journal_of_recovered hrec
    rw [candidate_of, hnil, List.head?_nil, Option.or_none] at hcand
    obtain ⟨x, hx, hxt⟩ := h.evidence.named hj hcand
    -- the candidate is a revision of the chain, so it is found as one of the transaction
    obtain ⟨y, hy⟩ : ∃ y, Below H d head m id y := by
      obtain hcur | hon := hon
      · obtain rfl := Except.ok.inj (h.here.current.symm.trans hcur)
        exact ⟨m, .here⟩
      · exact h.here.below_of_onChain hon
    have hread := hy.read h.here.read
    obtain rfl := Crypto.manifest_inj (hx.trans (digest_of_read_manifest hread).symm)
    have hmem : id ∈ manifest_candidates H d c.txid := mem_manifest_candidates.2 ⟨x, hxt, hread⟩
    rw [hnil] at hmem
    exact absurd hmem List.not_mem_nil
  · obtain rfl := Except.ok.inj (ho.symm.trans ho')
    exact hno hcom

/-- A commit writes only on CURRENT. -/
theorem Sound.observed {d₀ : Disk} {g : Governed} (h : Sound H d₀ head m)
    (hreq : Requests H d g d₀ c) (hp : c.prepare H d₀ = .ok (.inr base)) :
    read_current d = .ok c.observed := by
  cases hreq with
  | write current checked writes request =>
    rw [(Requests.write_request_fields request).2.1]
    exact current
  | @replay w binding observed _ current advanced request =>
    have ht : c.txid = w.txid := by
      obtain ⟨ha, -⟩ := Requests.replay_request_fields request
      obtain ⟨f, hf⟩ := Requests.write_attempt ha
      rw [CommitRequest.txid, hf]
      rfl
    rw [replay_request] at request
    obtain ⟨_, -, request⟩ := bind_ok.1 request
    obtain ⟨inspected, hi, request⟩ := bind_ok.1 request
    obtain ⟨_, hany, -⟩ := bind_ok.1 request
    exact absurd hp (h.skips (ht ▸ hi) (ensure_ok.1 hany))
  | @checkpoint k binding base' a _ prepared request =>
    obtain ⟨-, s, rfl, -⟩ := Requests.checkpoint_lock prepared request
    rw [CheckpointCall.lock] at request
    obtain ⟨observed, hobs, request⟩ := bind_ok.1 request
    obtain ⟨_, -, request⟩ := bind_ok.1 request
    dsimp only at request
    split_ifs at request with hne
    · obtain ⟨_, hreplay, -⟩ := bind_ok.1 request
      rw [check_replay] at hreplay
      obtain ⟨inspected, hi, hany⟩ := bind_ok.1 hreplay
      exact absurd hp (h.skips hi (ensure_ok.1 hany))
    · rw [hobs, not_not.1 hne]
      rfl
  | refute prepared request =>
    obtain ⟨-, hcur, s, -, hr⟩ := Requests.refute_lock prepared request
    rw [(Requests.refute_request_fields hr).1]
    exact hcur

theorem assert_unchanged_ok {binding : Binding} {parent id : Digest}
    (h : assert_unchanged H d binding parent = .ok id) :
    ∃ x, read_manifest H d parent = .ok x ∧ (x.store_identity = none ∨ x.store_identity = some id) := by
  rw [assert_unchanged] at h
  obtain ⟨_, -, h⟩ := bind_ok.1 h
  obtain ⟨after, -, h⟩ := bind_ok.1 h
  obtain ⟨x, hx, h⟩ := bind_ok.1 h
  refine ⟨x, hx, ?_⟩
  cases hs : x.store_identity with
  | none => exact .inl rfl
  | some linked =>
    rw [hs] at h
    obtain ⟨_, he, h⟩ := bind_ok.1 h
    rw [ensure_ok, decide_eq_true_eq] at he
    obtain rfl := pure_ok.1 h
    exact .inr (congrArg some he)

/-- The base of a request names no other store than the request. -/
theorem Requests.identity {d₀ : Disk} {g : Governed} (h : Requests H d g d₀ c)
    (hc : read_current d = .ok c.observed) : ∃ x, read_manifest H d c.observed = .ok x ∧
      (x.store_identity = none ∨ some c.store_identity = x.store_identity) := by
  have hresult {binding : Binding} {parent id : Digest} (ho : c.observed = parent)
      (hs : c.store_identity = id) (ha : assert_unchanged H d binding parent = .ok id) :
      ∃ x, read_manifest H d c.observed = .ok x ∧
        (x.store_identity = none ∨ some c.store_identity = x.store_identity) := by
    obtain ⟨x, hx, hid⟩ := assert_unchanged_ok ha
    exact ⟨x, ho ▸ hx, hid.imp_right fun heq => by rw [hs, heq]⟩
  cases h with
  | write current checked writes request =>
    obtain ⟨-, ho, -, -, -, hs, -⟩ := write_request_fields request
    rw [WriteCall.check] at checked
    obtain ⟨id, ha, checked⟩ := bind_ok.1 checked
    obtain ⟨_, -, checked⟩ := bind_ok.1 checked
    obtain ⟨_, -, checked⟩ := bind_ok.1 checked
    obtain rfl := pure_ok.1 checked
    exact hresult ho hs ha
  | replay current advanced request =>
    obtain ⟨-, ho, -⟩ := replay_request_fields request
    rw [current, ho] at hc
    exact absurd (Except.ok.inj hc) advanced
  | checkpoint prepared request =>
    obtain ⟨-, s, rfl, ha⟩ := checkpoint_lock prepared request
    exact hresult rfl rfl ha
  | refute prepared request =>
    obtain ⟨-, -, s, ha, hr⟩ := refute_lock prepared request
    obtain ⟨ho, -, -, -, hs, -⟩ := refute_request_fields hr
    exact hresult ho hs ha

/-! ## What a commit keeps -/

theorem uuid?_eq {t : Txid} {u : Uuid} : t.uuid? = some u ↔ t = .uuid u := by
  cases t <;> simp [Txid.uuid?]

/-- The chain of a sound store, on a disk that agrees. -/
theorem Sound.keep {e : Disk} {U : Uuid → Prop} (h : Sound H d head m)
    (ha : Agrees H U (fun _ => True) d e)
    (hU : ∀ id x, Below H d head m id x → ∀ u, x.transaction_id = .uuid u → U u) :
    read_manifest H e head = .ok m ∧ Chain H e head m ∧
      (∀ id x, Below H e head m id x → Below H d head m id x) ∧
      ∀ id x, Below H d head m id x → ∀ u, x.transaction_id = .uuid u →
        ∃ j, journal e u = some (some j) ∧ j.candidate = some id := by
  have hread {id : Digest} {x : Manifest} (hx : read_manifest H d id = .ok x) :
      read_manifest H e id = .ok x := ha.read_manifest trivial hx
  refine ⟨hread h.here.read, ?_, fun id x hb => h.here.chain.rooted.ancestors hread hb,
    fun id x hb u hu => ?_⟩
  · refine ha.chain ⟨fun _ => trivial, fun _ => trivial, fun _ => trivial, fun _ => trivial⟩
      (digest_of_read_manifest h.here.read) (fun id x hb => ⟨⟨trivial, fun _ _ => trivial,
        fun _ _ => trivial⟩, fun u hu => hU id x hb u (uuid?_eq.1 hu)⟩) h.here.chain
  · obtain ⟨j, hj, hc⟩ := h.journals id x hb u hu
    obtain hsame | ⟨j₁, j₂, hj₁, hj₂, -, hcand, -⟩ := ha.journals (hU id x hb u hu)
    · exact ⟨j, by rw [journal, hsame]; exact hj, hc⟩
    · obtain rfl := Option.some.inj (Option.some.inj (hj.symm.trans hj₁))
      exact ⟨j₂, hj₂, hcand.trans hc⟩

/-- A store stays sound as long as CURRENT and the evidence of its chain stay. -/
theorem Sound.stay {e : Disk} {U : Uuid → Prop} (h : Sound H d head m)
    (ha : Agrees H U (fun _ => True) d e)
    (hU : ∀ id x, Below H d head m id x → ∀ u, x.transaction_id = .uuid u → U u)
    (he : Evidence H e) (hcur : e.read .current = d.read .current) : Sound H e head m := by
  obtain ⟨hread, hchain, hback, hj⟩ := h.keep ha hU
  refine ⟨⟨?_, hread, h.here.valid, hchain, fun hs id r hb => h.here.root hs id r (hback id r hb)⟩,
    h.bound, he, fun id x hb => hj id x (hback id x hb)⟩
  rw [read_current, hcur]
  exact h.here.current

/-- Spending a receipt keeps a store sound. -/
theorem Sound.spends {d₀ : Disk} {g : Governed} (h : Sound H d head m) (hs : Spends H d g d₀) :
    Sound H d₀ head m := by
  have hread {p : Path} (ht : ∀ t, p ≠ .tombstone t) (hq : ∀ n, p ≠ .quarantine n) :
      d₀.read p = d.read p := hs.read ht hq
  have hjournal (t : Uuid) : journal d₀ t = journal d t := by
    rw [journal, journal, hread (by simp) (by simp)]
  have hstage (t : Uuid) (id : Digest) : read_stage H d₀ t id = read_stage H d t id := by
    rw [read_stage, read_stage, read_json_object, read_json_object, hread (by simp) (by simp)]
  exact h.stay hs.agrees (fun _ _ _ _ _ => trivial) ⟨fun hj hc => h.evidence.named (hjournal _ ▸ hj) hc,
    fun hs => h.evidence.stages (hstage _ _ ▸ hs)⟩ (hread (by simp) (by simp))

/-! ## What a commit adds -/

/-- The journals and stages of a commit are evidence as before. -/
theorem Evidence.run (h : Evidence H d) (f : Option Fault)
    (hpol : ∀ x, c.manifest H base = .ok x → PolicyOf H (c.stage H x))
    (hbase : c.attempt.base_revision = some c.observed) :
    Evidence H (perform (storage H) (c.writes H base) f d).1 := by
  refine ⟨fun {t j id} hj hc => ?_, fun {t id s} hs => ?_⟩
  · obtain hsame | ⟨rfl, j', hmem, hread⟩ := perform_journal (c.writes_own base) f d t
    · rw [journal, hsame] at hj
      exact h.named hj hc
    · rw [journal, hread] at hj
      obtain rfl := Option.some.inj (Option.some.inj hj)
      obtain rfl | ⟨x, hx, hcj⟩ := CommitRequest.writes_journal hmem
      · cases hc
      · obtain ⟨entry, hchild⟩ := CommitRequest.manifest_child hx
        exact ⟨x, Option.some.inj (hcj.candidate.symm.trans hc), hchild.transaction_id⟩
  · obtain ⟨hr, hd⟩ := read_stage_iff.1 hs
    have hfiled : Filed H (.stage t id) (.stage s) := ⟨rfl, congrArg (fun x => [x]) hd.symm⟩
    obtain hold | hnew := perform_filed (c.writes_own base) f hfiled hr
    · exact h.stages (read_stage_iff.2 ⟨hold, hd⟩)
    · obtain ⟨x, hx, rfl⟩ := CommitRequest.writes_stage hnew
      exact ⟨hpol x hx, hbase.symm⟩

/-- A commit that has moved CURRENT has published its candidate. -/
theorem Moved.published {f : Option Fault} {x : Manifest}
    (h : Moved H c base x d (perform (storage H) (c.writes H base) f d).1)
    (hp : Prepared H c d base) (he : Evidence H d) (hf : Fitting H c) (hpol : PolicyOf H (c.stage H x))
    (hbase : c.attempt.base_revision = some c.observed) :
    Published H c base.manifest x (perform (storage H) (c.writes H base) f d).1 := by
  have hcreated {p : Path} {y : Document} (hfiled : Filed H p y)
      (hmem : .create p y ∈ c.object_writes H base ∨ .create p y ∈ c.stage_writes H x) :=
    h.created hfiled (hmem.elim (List.mem_append_left _) fun hm =>
      List.mem_append_right _ (List.mem_cons_of_mem _ hm))
  have hreads := snapshot_reads hp.read
  refine ⟨h.read_candidate, ?_, fun o ho => ?_, ?_, fun id s hs hcand => ?_, ?_, ?_⟩
  · obtain ⟨hr, hd⟩ := read_manifest_iff.1 hreads.manifest
    exact read_manifest_iff.2 ⟨h.kept ⟨rfl, congrArg (fun x => [x]) hd.symm⟩ hr, hd⟩
  · refine read_refutation_iff.2 ⟨hcreated ⟨rfl, rfl⟩ (.inl ?_), rfl⟩
    rw [CommitRequest.object_writes, List.mem_append, CommitRequest.refute_writes, ho]
    exact .inr (by simp)
  · refine read_stage_iff.2 ⟨hcreated ⟨rfl, rfl⟩ (.inr ?_), rfl⟩
    rw [CommitRequest.stage_writes, List.mem_append]
    exact .inl (by simp)
  · -- an older stage of the candidate is of the same attempt, and so the same stage
    obtain ⟨hr, hd⟩ := read_stage_iff.1 hs
    have hfiled : Filed H (.stage c.txid id) (.stage s) := ⟨rfl, congrArg (fun x => [x]) hd.symm⟩
    obtain hold | hnew := perform_filed (c.writes_own base) f hfiled hr
    · have hread := read_stage_iff.2 ⟨hold, hd⟩
      obtain ⟨candidates, attempts, hbind, -⟩ := hp.binding
      have hatt := (check_binding_ok hbind).2.2.2 id s hread
      obtain ⟨hpol', hparent⟩ := he.stages hread
      have hpolicy := hpol.unique hpol' hf.governed hatt hcand
      obtain ⟨parent, candidate, attempt, policy⟩ := s
      simp only at hatt hparent hcand hpolicy
      rw [CommitRequest.stage, hcand, hatt, hpolicy, hparent, hatt, hbase]
      rfl
    · obtain ⟨x', hx', rfl⟩ := CommitRequest.writes_stage hnew
      rw [Except.ok.inj (h.manifest.symm.trans hx')]
  · obtain ⟨j, hj, hcj⟩ := h.journal
    rw [named_stage, AnKla.journal, hj]
    exact hcj.stage_object
  · refine read_ref_log_iff.2 ⟨hcreated ⟨rfl, rfl⟩ (.inr ?_), rfl⟩
    rw [CommitRequest.stage_writes, List.mem_append]
    exact .inl (by simp)

/-- What a commit on a sound store leaves: the store with its CURRENT, or with a
    published candidate as its CURRENT. -/
theorem Sound.commit {d' : Disk} {g : Governed} (h : Sound H d head m)
    (hreq : Requests H d' g d c) (hs : Spends H d' g d)
    (hp : c.prepare H d = .ok (.inr base)) (f : Option Fault) :
    Sound H (perform (storage H) (c.writes H base) f d).1 head m ∨
      ∃ entry x, Child H c base entry x ∧ Fitting H c ∧ c.observed = head ∧ base.manifest = m ∧
        Published H c m x (perform (storage H) (c.writes H base) f d).1 ∧
        Moved H c base x d (perform (storage H) (c.writes H base) f d).1 ∧
        Sound H (perform (storage H) (c.writes H base) f d).1 (CommitRequest.candidate H x) x := by
  have hobs := h.observed hreq hp
  have hprep := prepared hp
  have hcur : read_current d' = read_current d := by
    rw [read_current, read_current, hs.read (by simp) (by simp)]
  have hhead : c.observed = head := Except.ok.inj ((hcur ▸ hobs).symm.trans h.here.current)
  have hpol (x : Manifest) (hx : c.manifest H base = .ok x) := hreq.policy hobs hx
  have hbase : c.attempt.base_revision = some c.observed := by
    rw [hreq.binds.2.2, hreq.binds.1]
  have hev := h.evidence.run f (fun x hx => (hpol x hx).2) hbase
  have hagrees : Agrees H (· ≠ c.txid) (fun _ => True) d
      (perform (storage H) (c.writes H base) f d).1 :=
    Spares.run f (fun w hw => (c.writes_own base w hw).spares _ d) .refl
  have hU (id : Digest) (x : Manifest) (hb : Below H d head m id x) (u : Uuid)
      (hu : x.transaction_id = .uuid u) : u ≠ c.txid := by
    rintro rfl
    exact h.fresh hprep hb hu
  obtain hsame | ⟨x, hmoved⟩ := c.run_moves (H := H) base f d
  · exact .inl (h.stay hagrees hU hev hsame)
  · obtain ⟨entry, hchild⟩ := CommitRequest.manifest_child hmoved.manifest
    have hfit := hreq.fitting hobs hprep hmoved.manifest
    have hm : base.manifest = m := by
      have hr := (snapshot_reads hprep.read).manifest
      rw [hhead, h.here.read] at hr
      exact (Except.ok.inj hr).symm
    have hpub := hmoved.published hprep h.evidence hfit (hpol x hmoved.manifest).2 hbase
    refine .inr ⟨entry, x, hchild, hfit, hhead, hm, hm ▸ hpub, hmoved, ?_⟩
    obtain ⟨hread, hchain, hback, hj⟩ := h.keep hagrees hU
    have hlink : verify_manifest_link H (perform (storage H) (c.writes H base) f d).1 m = .ok () :=
      hagrees.verify_manifest_link ⟨fun _ => trivial, fun _ => trivial, fun _ => trivial,
        fun _ => trivial⟩ (hm ▸ (snapshot_reads hprep.read).link)
    have hid : m.store_identity = none ∨ some c.store_identity = m.store_identity := by
      obtain ⟨y, hy, hid⟩ := hreq.identity hobs
      have hr : read_manifest H d c.observed = read_manifest H d' c.observed :=
        read_manifest_congr (hs.read (by simp) (by simp))
      rw [hy, hhead, h.here.read] at hr
      obtain rfl := Except.ok.inj hr
      exact hid
    have htrans : Transition H (perform (storage H) (c.writes H base) f d).1
        (CommitRequest.candidate H x) x head m := by
      have ht := hpub.transition hchild hfit (hm ▸ h.here.valid) (hm ▸ h.bound) (hm ▸ hid)
      rwa [hhead, hm] at ht
    have hparent : x.parent = some head := hhead ▸ hchild.parent
    refine ⟨⟨hmoved.after, hmoved.read_candidate, hchild.valid, .step hparent hread h.here.valid hlink
      htrans hchain, fun hv id r hb hr => ?_⟩, ?_, hev, fun id y hb u hu => ?_⟩
    · cases hb with
      | here => rw [hparent] at hr; cases hr
      | @step _ _ parent p _ _ up read below =>
        obtain rfl := Option.some.inj (hparent.symm.trans up)
        obtain rfl := Except.ok.inj (hread.symm.trans read)
        refine h.here.root ?_ id r (hback id r below) hr
        rw [hchild.schema, hm] at hv
        split_ifs at hv with h3
        exact h3
    · exact hchild.bound hfit (hm ▸ h.here.valid) (hm ▸ h.bound)
    · cases hb with
      | here =>
        rw [hchild.transaction_id] at hu
        obtain rfl := Txid.uuid.inj hu
        obtain ⟨j, hjr, hcj⟩ := hmoved.journal
        exact ⟨j, by rw [journal, hjr]; rfl, hcj.candidate⟩
      | @step _ _ parent p _ _ up read below =>
        obtain rfl := Option.some.inj (hparent.symm.trans up)
        obtain rfl := Except.ok.inj (hread.symm.trans read)
        exact hj id y (hback id y below) u hu

/-- A governed call keeps a store sound, whatever stops it. CURRENT stays, or moves to a
    child of it. -/
theorem Governed.sound (h : Sound H d head m) (g : Governed) (incident : Option Incident) :
    Sound H (g.commit H incident d).1 head m ∨ ∃ id x, x.parent = some head ∧
      Sound H (g.commit H incident d).1 id x := by
  obtain ⟨d₀, hs, hd⟩ := g.effect (H := H) incident d
  have h₀ := h.spends hs
  obtain hd | ⟨c, rest, hreq, hd⟩ := hd
  · rw [hd]
    exact .inl h₀
  · rw [hd]
    obtain hd | ⟨base, hp, hd⟩ := commit_locked_cases (H := H) c rest d₀
    · rw [hd]
      exact .inl h₀
    · rw [hd]
      obtain hstay | ⟨entry, x, hchild, -, rfl, -, -, -, hx⟩ :=
        h₀.commit hreq hs hp (rest.map (·.fault))
      · exact .inl hstay
      · exact .inr ⟨_, x, hchild.parent, hx⟩

end AnKla
