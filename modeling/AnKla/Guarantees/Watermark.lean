import AnKla.Frame.Alike
import AnKla.Guarantees.Updates

/-!
# Commits without the watermark

A commit comes to the same whatever the watermark file holds, as long as it binds no
revision whose chain is invalid.

* `Blind`: a write that does the same on disks that differ in their watermarks.
* `commit_locked_alike`, `commit_alike`: the commits.
* `watermark_unseen`: full validation, with and without a stop; commits, with and without
  the watermark.
-/

namespace AnKla

open PyJson Durable

variable {H : Crypto}

/-! ## Writes -/

theorem Alike.write {d e : Disk} (h : Alike d e) (p : Path) (c : Document) :
    Alike (d.write p c) (e.write p c) := by
  intro q hq
  rw [Disk.read_write_eq, Disk.read_write_eq, h q hq]

theorem Alike.remove {d e : Disk} (h : Alike d e) (p : Path) :
    Alike (d.remove p) (e.remove p) := by
  intro q hq
  rw [Disk.read_remove_eq, Disk.read_remove_eq, h q hq]

/-- The same refusal, or disks that differ in their watermarks. -/
inductive Same : Except Failure Disk → Except Failure Disk → Prop
  | error (e) : Same (.error e) (.error e)
  | ok {d e} (h : Alike d e) : Same (.ok d) (.ok e)

theorem Same.map {x y : Except Failure Disk} {f g : Disk → Disk} (h : Same x y)
    (hf : ∀ d e, Alike d e → Alike (f d) (g e)) : Same (x.map f) (y.map g) := by
  cases h with
  | error e => exact .error e
  | ok h => exact .ok (hf _ _ h)

theorem Same.getD {x y : Except Failure Disk} {d e : Disk} (h : Same x y) (hd : Alike d e) :
    Alike (x.toOption.getD d) (y.toOption.getD e) := by
  cases h with
  | error _ => exact hd
  | ok h => exact h

variable (H) in
/-- The write does the same on disks that differ in their watermarks. -/
def Blind (w : Write Path Document Failure) : Prop :=
  ∀ d e, Alike d e → Same (w.exec (storage H) d) (w.exec (storage H) e) ∧
    ∀ pt, Alike (w.left (storage H) pt d) (w.left (storage H) pt e)

theorem blind_replace (p : Path) (c : Document) : Blind H (.replace p c) := by
  intro d e h
  refine ⟨.ok (h.write p c), fun pt => ?_⟩
  cases pt with
  | after => exact h.write p c
  | _ => exact h

theorem blind_check {f : Disk → Except Failure Unit} (hf : ∀ d e, Alike d e → f e = f d) :
    Blind H (.check f) := by
  intro d e h
  have hexec : Same ((Write.check f).exec (storage H) d) ((Write.check f).exec (storage H) e) := by
    rw [Write.exec, Write.exec, hf d e h]
    cases f d with
    | error err => exact .error err
    | ok u => exact .ok h
  refine ⟨hexec, fun pt => ?_⟩
  cases pt with
  | after => exact hexec.getD h
  | _ => exact h

theorem Alike.quarantine_conflict {d e : Disk} (h : Alike d e) {p : Path} (hp : p ≠ .watermark) :
    Same (AnKla.quarantine_conflict H d p) (AnKla.quarantine_conflict H e p) := by
  have hl : quarantined.listing e = quarantined.listing d := h.listing fun _ => by
    simp [quarantined]
  have hu : quarantine_used H e = quarantine_used H d := by
    simp only [quarantine_used, hl, h (.quarantine _) (by simp)]
  rw [AnKla.quarantine_conflict, AnKla.quarantine_conflict, h p hp]
  cases hread : d.read p with
  | none => exact .ok h
  | some c =>
    simp only [hl, hu, quarantine_fresh]
    split_ifs
    · exact .error _
    · exact .ok ((h.remove p).write _ c)

theorem Alike.clear {d e : Disk} (h : Alike d e) {p : Path} (hp : p ≠ .watermark) (c : Document) :
    Same (Write.clear (storage H) p c d) (Write.clear (storage H) p c e) := by
  rw [Write.clear, Write.clear, h p hp]
  cases d.read p with
  | none => exact .ok h
  | some c' =>
    simp only
    split_ifs
    · exact .ok h
    · exact h.quarantine_conflict hp

theorem Alike.place {d e : Disk} (h : Alike d e) {p : Path} (hp : p ≠ .watermark)
    (whole c : Document) : Alike (Write.place p whole c d) (Write.place p whole c e) := by
  rw [Write.place, Write.place, h p hp]
  split_ifs
  · exact h
  · exact h.write p c

theorem blind_create {p : Path} (hp : p ≠ .watermark) (c : Document) : Blind H (.create p c) := by
  intro d e h
  have hexec := (h.clear (H := H) hp c).map fun _ _ hx => hx.place hp c c
  refine ⟨hexec, fun pt => ?_⟩
  cases pt with
  | before => exact h
  | moved => exact (h.clear hp c).getD h
  | torn k => exact ((h.clear hp c).map fun _ _ hx => hx.place hp c _).getD h
  | after => exact hexec.getD h

/-- A run does the same on disks that differ in their watermarks. -/
theorem perform_alike {ws : List (Write Path Document Failure)} (hws : ∀ w ∈ ws, Blind H w)
    (f : Option Fault) {d e : Disk} (h : Alike d e) :
    Alike (perform (storage H) ws f d).1 (perform (storage H) ws f e).1 ∧
      (perform (storage H) ws f e).2 = (perform (storage H) ws f d).2 := by
  induction ws generalizing f d e with
  | nil => exact ⟨h, rfl⟩
  | cons w ws ih =>
    obtain ⟨hexec, hleft⟩ := hws w List.mem_cons_self d e h
    have ih (f : Option Fault) {d' e' : Disk} (h' : Alike d' e') :=
      ih (fun v hv => hws v (List.mem_cons_of_mem _ hv)) f h'
    match f with
    | some (0, pt) => exact ⟨hleft pt, rfl⟩
    | some (n + 1, pt) =>
      rw [perform, perform]
      generalize hx : w.exec (storage H) d = x at hexec
      generalize hy : w.exec (storage H) e = y at hexec
      cases hexec with
      | error err => exact ⟨h, rfl⟩
      | ok h' => exact ⟨(ih _ h').1, congrArg Progress.succ (ih _ h').2⟩
    | none =>
      rw [perform, perform]
      generalize hx : w.exec (storage H) d = x at hexec
      generalize hy : w.exec (storage H) e = y at hexec
      cases hexec with
      | error err => exact ⟨h, rfl⟩
      | ok h' => exact ⟨(ih _ h').1, congrArg Progress.succ (ih _ h').2⟩

/-! ## The writes of a commit -/

/-- The check of a receipt sees no difference, if the receipt is not on the watermark. -/
theorem blind_sync {files : List (Path × Digest)} (h : ∀ f ∈ files, f.1 ≠ .watermark) :
    Blind H (sync_protected H files) := by
  refine blind_check fun d e hde => forM_congr fun f hf => ?_
  rw [hde f.1 (h f hf)]

theorem blind_receipt {attempt : Attempt} {kind : ReceiptKind} {candidate : Digest}
    {predecessor : Option Digest} {files : List (Path × Digest)}
    (h : ∀ f ∈ files, f.1 ≠ .watermark) :
    ∀ w ∈ write_receipt H (receipt_of H attempt kind candidate predecessor files), Blind H w := by
  intro w hw
  rw [write_receipt, List.mem_cons, List.mem_singleton] at hw
  obtain rfl | rfl := hw
  · refine blind_sync fun f hf => h f ?_
    exact (List.mem_insertionSort _).1 hf
  · exact blind_create (by simp) _

namespace CommitRequest

variable (c : CommitRequest)

theorem candidate_files_ne (m : Manifest) : ∀ f ∈ c.candidate_files H m, f.1 ≠ .watermark := by
  intro f hf
  rw [candidate_files, List.mem_append, List.mem_append] at hf
  obtain (hf | hf) | hf := hf
  · simp only [List.mem_cons, List.not_mem_nil, or_false] at hf
    obtain rfl | rfl | rfl | rfl := hf <;> simp
  · obtain ⟨x, -, rfl⟩ := List.mem_map.1 hf
    simp
  · rw [refute_files] at hf
    split at hf
    · exact absurd hf List.not_mem_nil
    · simp only [List.mem_cons, List.not_mem_nil, or_false] at hf
      obtain rfl | rfl | rfl := hf <;> simp

/-- Everything that a commit writes, it writes alike. -/
theorem writes_blind (base : Snapshot) : ∀ w ∈ c.writes H base, Blind H w := by
  intro w hw
  -- apart from its checks, a write of the commit is one of its transaction
  have hown := c.writes_own base w hw
  cases hown with
  | journal j => exact blind_replace _ _
  | current r => exact blind_replace _ _
  | watermark w => exact blind_replace _ _
  | object filed => exact blind_create (fun hp => by rw [hp] at filed; cases filed.1) _
  | tombstone v => exact blind_create (by simp) _
  | check f =>
    rw [writes, List.mem_append] at hw
    obtain hw | hw := hw
    · rw [object_writes, List.cons_append, List.cons_append, List.mem_cons, List.mem_append,
        List.mem_append] at hw
      obtain hw | (hw | hw) | hw := hw
      · cases hw
      · obtain ⟨x, -, hx⟩ := List.mem_map.1 hw
        cases hx
      · obtain ⟨v, -, hx⟩ := List.mem_map.1 hw
        cases hx
      · rw [refute_writes] at hw
        split at hw <;> simp at hw
    · split at hw
      · rw [List.mem_singleton] at hw
        exact hw ▸ blind_check fun _ _ _ => rfl
      · next m hm =>
        have hcurrent : ∀ f ∈ [((Path.current, H.digest (.current (candidate H m))) : Path × Digest)],
            f.1 ≠ .watermark := by simp
        rw [publish_writes, List.cons_append, List.cons_append, List.cons_append, List.mem_cons,
          List.mem_append, List.mem_append, List.mem_append, stage_writes, List.mem_append,
          move_writes, List.mem_append] at hw
        obtain hw | (((hw | hw) | hw | hw) | hw) | hw := hw
        · cases hw
        · simp at hw
        · exact blind_receipt (c.candidate_files_ne m) _ hw
        · simp only [List.mem_cons, reduceCtorEq, List.not_mem_nil, or_false, false_or] at hw
          exact hw ▸ blind_check fun d e h => by rw [h.beside.read_current]
        · exact blind_receipt hcurrent _ hw
        · simp only [audit_writes, List.mem_cons, reduceCtorEq, List.not_mem_nil, or_false] at hw
          exact hw ▸ blind_check fun d e h => by rw [h.beside.read_current]
        · simp [observe_writes] at hw

end CommitRequest

/-! ## Commits -/

/-- What `commit_locked` comes to is the same, as long as both watermarks are sincere. -/
theorem commit_locked_alike {d e : Disk} (h : Alike d e) (hd : Sincere H (usable_watermark d) d)
    (he : Sincere H (usable_watermark e) e) (c : CommitRequest) (incident : Option Incident) :
    Alike (commit_locked H c incident d).1 (commit_locked H c incident e).1 ∧
      (commit_locked H c incident e).2 = (commit_locked H c incident d).2 := by
  have hprep : c.prepare H e = c.prepare H d := by
    simp only [CommitRequest.prepare, h.beside.check_binding, h.inspect_transaction, h.snapshot hd he]
  rw [commit_locked, commit_locked, hprep]
  split
  · exact ⟨h, rfl⟩
  · exact ⟨h, rfl⟩
  · next base _ =>
    obtain ⟨hdisk, hprog⟩ := perform_alike (c.writes_blind base) (incident.map (·.fault)) h
    refine ⟨hdisk, ?_⟩
    have herr (n : ℕ) (code : String) : c.error_outcome H base n code (c.run H base incident e).1 =
        c.error_outcome H base n code (c.run H base incident d).1 := by
      have hrun : Alike (c.run H base incident d).1 (c.run H base incident e).1 := hdisk
      generalize (c.run H base incident d).1 = d' at hrun
      generalize (c.run H base incident e).1 = e' at hrun
      simp only [CommitRequest.error_outcome, CommitRequest.failed_outcome, hrun.beside.current?,
        hrun.beside.candidate_relation]
    simp only [CommitRequest.run] at herr ⊢
    rw [hprog]
    simp only [herr]

/-! ## Governed calls -/

theorem Alike.verify_receipt_for_authority {d e : Disk} (h : Alike d e) (authority : Json) :
    AnKla.verify_receipt_for_authority H e authority =
      AnKla.verify_receipt_for_authority H d authority := by
  have htomb (receipt : Json) : e.read (tombstone_path H receipt) =
      d.read (tombstone_path H receipt) := h _ (by simp [tombstone_path])
  have hcheck : check_receipt H e = check_receipt H d := by
    funext receipt
    simp only [check_receipt, load_key, load_whitelist, h .attest_key (by simp),
      h .attest_whitelist (by simp), h.read_binding]
  have hread : read_attest_receipt H e = read_attest_receipt H d := by
    funext id
    simp only [read_attest_receipt, h (.attest_receipt id) (by simp)]
  have hevidence : verify_receipt_evidence H e = verify_receipt_evidence H d := by
    funext evidence
    simp only [verify_receipt_evidence, hread, hcheck, htomb]
  rw [AnKla.verify_receipt_for_authority, AnKla.verify_receipt_for_authority, hevidence]

/-- The receipt that a write spends is spent alike. -/
theorem enforce_alike {d e : Disk} (h : Alike d e) (w : WriteCall) (incident : Option Incident) :
    Alike (enforce_for_commit H w incident d).1 (enforce_for_commit H w incident e).1 ∧
      (enforce_for_commit H w incident e).2 = (enforce_for_commit H w incident d).2 := by
  rw [enforce_for_commit, enforce_for_commit, h.verify_receipt_for_authority]
  split_ifs
  · split
    · exact ⟨h, rfl⟩
    · next receipt _ =>
      have hblind : ∀ v ∈ consume_tombstone H w.now receipt, Blind H v := by
        intro v hv
        rw [consume_tombstone, List.mem_cons, List.mem_singleton] at hv
        obtain rfl | rfl := hv
        · exact blind_check fun d e h => by rw [h _ (by simp [tombstone_path])]
        · exact blind_create (by simp [tombstone_path]) _
      obtain ⟨hdisk, hprog⟩ := perform_alike hblind (incident.map (·.fault)) h
      exact ⟨hdisk, by simp only [hprog]⟩
  · exact ⟨h, rfl⟩

/-- Spending a receipt keeps a watermark sincere. -/
theorem Spends.sincere {d d₀ : Disk} {g : Governed} (hs : Spends H d g d₀)
    (h : Sincere H (usable_watermark d) d) : Sincere H (usable_watermark d₀) d₀ := by
  have hw : usable_watermark d₀ = usable_watermark d := by
    rw [usable_watermark, usable_watermark, hs.read (by simp) (by simp)]
  intro id m hid hb
  refine hs.agrees.chain ⟨fun _ => trivial, fun _ => trivial, fun _ => trivial, fun _ => trivial⟩ hid
    (fun _ _ _ => ⟨⟨trivial, fun _ _ => trivial, fun _ _ => trivial⟩, fun _ _ => trivial⟩) ?_
  exact h id m hid (hw ▸ hb)

theorem Alike.resolve_supersede_targets {d e : Disk} (h : Alike d e)
    (hd : Sincere H (usable_watermark d) d) (he : Sincere H (usable_watermark e) e) (plan : Json)
    (observed : Digest) : AnKla.resolve_supersede_targets H e plan observed =
      AnKla.resolve_supersede_targets H d plan observed := by
  simp only [AnKla.resolve_supersede_targets, h.snapshot hd he]

theorem commit_checked_alike {d e : Disk} (h : Alike d e) (hd : Sincere H (usable_watermark d) d)
    (he : Sincere H (usable_watermark e) e) (w : WriteCall) (binding : Binding) (id : Digest)
    (incident : Option Incident) :
    Alike (commit_checked H w binding id incident d).1 (commit_checked H w binding id incident e).1 ∧
      (commit_checked H w binding id incident e).2 =
        (commit_checked H w binding id incident d).2 := by
  have hrequest : write_request H w binding id e = write_request H w binding id d := by
    simp only [write_request, h.resolve_supersede_targets hd he]
  rw [commit_checked, commit_checked, hrequest]
  split_ifs
  · exact ⟨h, rfl⟩
  · split
    · exact ⟨h, rfl⟩
    · next c _ =>
      obtain ⟨hdisk, hreply⟩ := commit_locked_alike h hd he c incident
      exact ⟨hdisk, by simp only [hreply]⟩

theorem commit_write_alike {d e : Disk} (h : Alike d e) (hu : Unwatched d)
    (hd : Sincere H (usable_watermark d) d) (he : Sincere H (usable_watermark e) e) (w : WriteCall)
    (incident : Option Incident) :
    Alike (commit_write_plan H w incident d).1 (commit_write_plan H w incident e).1 ∧
      (commit_write_plan H w incident e).2 = (commit_write_plan H w incident d).2 := by
  have hcheck (b : Binding) : w.check H b e = w.check H b d := by
    simp only [WriteCall.check, h.assert_unchanged hu]
  have hreplay (b : Binding) (o : Digest) : replay_request H w b o e = replay_request H w b o d := by
    simp only [replay_request, h.store_inspect_transaction, h.assert_unchanged hu]
  rw [commit_write_plan, commit_write_plan, h.mutation_preflight hu, h.beside.read_current]
  split
  · exact ⟨h, rfl⟩
  · exact ⟨h, rfl⟩
  · next binding observed _ _ =>
    split_ifs with hne
    · rw [commit_replay, commit_replay, hreplay]
      split
      · exact ⟨h, rfl⟩
      · next c _ =>
        obtain ⟨hdisk, hreply⟩ := commit_locked_alike h hd he c incident
        exact ⟨hdisk, by simp only [hreply]⟩
    · rw [hcheck]
      split
      · exact ⟨h, rfl⟩
      · next id _ =>
        obtain ⟨hdisk, hreply⟩ := enforce_alike (H := H) h w incident
        have hd' := (enforce_spends (H := H) w incident d).sincere hd
        have he' := (enforce_spends (H := H) w incident e).sincere he
        generalize hx : enforce_for_commit H w incident d = x at hdisk hreply hd'
        generalize hy : enforce_for_commit H w incident e = y at hdisk hreply he'
        obtain ⟨d', reply⟩ := x
        obtain ⟨e', reply'⟩ := y
        simp only at hdisk hreply hd' he'
        subst hreply
        cases reply' with
        | died => exact ⟨hdisk, rfl⟩
        | raised err => exact ⟨hdisk, rfl⟩
        | returned rest => exact commit_checked_alike hdisk hd' he' w binding id rest

theorem commit_refute_alike {d e : Disk} (h : Alike d e) (hu : Unwatched d)
    (hd : Sincere H (usable_watermark d) d) (he : Sincere H (usable_watermark e) e) (r : RefuteCall)
    (incident : Option Incident) :
    Alike (commit_refute H r incident d).1 (commit_refute H r incident e).1 ∧
      (commit_refute H r incident e).2 = (commit_refute H r incident d).2 := by
  have hprepare : r.prepare H e = r.prepare H d := by
    simp only [RefuteCall.prepare, h.mutation_preflight hu]
  have hlock (b : Binding) (a : Option Attempt) : r.lock H b a e = r.lock H b a d := by
    simp only [RefuteCall.lock, h.beside.read_current, h.assert_unchanged hu, h.reconcile_attempt,
      RefuteCall.request, h.snapshot hd he, h.build_observations]
  rw [commit_refute, commit_refute, hprepare]
  split
  · exact ⟨h, rfl⟩
  · next binding attempt _ =>
    rw [hlock]
    split
    · exact ⟨h, rfl⟩
    · exact ⟨h, rfl⟩
    · next c _ =>
      obtain ⟨hdisk, hreply⟩ := commit_locked_alike h hd he c incident
      exact ⟨hdisk, by simp only [hreply]⟩

/-- A checkpoint is read back with the watermark that its commit leaves. -/
theorem commit_checkpoint_alike {d e : Disk} (h : Alike d e) (hu : Unwatched d)
    (hd : Sincere H (usable_watermark d) d) (he : Sincere H (usable_watermark e) e)
    (k : CheckpointCall) (incident : Option Incident) :
    Alike (commit_checkpoint H k incident d).1 (commit_checkpoint H k incident e).1 ∧
      ((∀ id, snapshot H (commit_checkpoint H k incident e).1 id =
          snapshot H (commit_checkpoint H k incident d).1 id) →
        (commit_checkpoint H k incident e).2 = (commit_checkpoint H k incident d).2) := by
  have hprepare : k.prepare H e = k.prepare H d := by
    simp only [CheckpointCall.prepare, h.mutation_preflight hu, h.snapshot hd he]
  have hlock (b : Binding) (a : Option Attempt) : k.lock H b a e = k.lock H b a d := by
    simp only [CheckpointCall.lock, h.beside.read_current, h.assert_unchanged hu, check_replay,
      h.store_inspect_transaction]
  rw [commit_checkpoint, commit_checkpoint, hprepare]
  split
  · exact ⟨h, fun _ => rfl⟩
  · next binding base attempt _ =>
    rw [hlock]
    split
    · exact ⟨h, fun _ => rfl⟩
    · exact ⟨h, fun _ => rfl⟩
    · next c _ =>
      obtain ⟨hdisk, hreply⟩ := commit_locked_alike h hd he c incident
      generalize hx : commit_locked H c incident d = x at hdisk hreply
      generalize hy : commit_locked H c incident e = y at hdisk hreply
      obtain ⟨d', reply⟩ := x
      obtain ⟨e', reply'⟩ := y
      simp only at hdisk hreply
      subst hreply
      cases reply' with
      | died => exact ⟨hdisk, fun _ => rfl⟩
      | raised err => exact ⟨hdisk, fun _ => rfl⟩
      | returned result =>
        refine ⟨hdisk, fun hsnap => ?_⟩
        simp only at hsnap
        simp only [CheckpointCall.result, hsnap]

/-- A governed call leaves the same files whatever the watermark holds, and reports the
    same, a checkpoint provided that the revision it reads back reads the same. -/
theorem commit_alike {d e : Disk} (h : Alike d e) (hu : Unwatched d)
    (hd : Sincere H (usable_watermark d) d) (he : Sincere H (usable_watermark e) e) (g : Governed)
    (incident : Option Incident) :
    Alike (g.commit H incident d).1 (g.commit H incident e).1 ∧
      ((∀ k, g = .checkpoint k → ∀ id, snapshot H (g.commit H incident e).1 id =
          snapshot H (g.commit H incident d).1 id) →
        (g.commit H incident e).2 = (g.commit H incident d).2) := by
  cases g with
  | write w =>
    obtain ⟨hdisk, hreply⟩ := commit_write_alike h hu hd he w incident
    exact ⟨hdisk, fun _ => by simp only [Governed.commit, hreply]⟩
  | checkpoint k =>
    obtain ⟨hdisk, hreply⟩ := commit_checkpoint_alike h hu hd he k incident
    refine ⟨hdisk, fun hsnap => ?_⟩
    have := hreply (hsnap k rfl)
    simp only [Governed.commit, this]
  | refute r =>
    obtain ⟨hdisk, hreply⟩ := commit_refute_alike h hu hd he r incident
    exact ⟨hdisk, fun _ => by simp only [Governed.commit, hreply]⟩

/-! ## The watermark is not seen -/

namespace Seen

/-- A revision that skips numbers. -/
def orphan : Manifest :=
  { OneFact.genesis with revision := 7, parent := some 5, transaction_id := .uuid 9 }

def receipt : IdentityReceipt :=
  ⟨.init, 2, 5, none, [(.immutable_intent 2, 2), (.identity 1, 1), (.store_identity, 1),
    (.current, 9), (.watermark, 13), (.project_identity, 0)], [[], [2], [11], [15]]⟩

theorem ordered : Ordered (OneFact.init_contents ++
    [.manifest orphan, .bytes 7, .identity_receipt receipt]) :=
  ordered_of_supposed (by decide +kernel) (by decide +kernel)

/-- A host that numbers these contents by their places. -/
noncomputable def host : Crypto := Crypto.ofTable _ ordered

/-- A store whose watermark binds the orphan. -/
noncomputable def bound : Disk :=
  ((( bootstrap_initialize host OneFact.init).1.write (.revision 12) (.manifest orphan)).write
    .watermark (.watermark ⟨12, some 5, none⟩))

/-- A store whose identity receipt is on a malformed watermark. -/
noncomputable def watched : Disk :=
  (((( bootstrap_initialize host OneFact.init).1.remove (.identity_receipt 11)).write
    (.identity_receipt 14) (.identity_receipt receipt)).write .watermark (.bytes 7))

/-- A plan on a revision that checks nothing more than its own keys. -/
def call (base : Digest) : Governed := .checkpoint
  { planning_result := dict
      [("schema", .str "an-kla/checkpoint-planning-result-v1"),
        ("current_revision", .str (ident base)), ("proposal", dict []), ("authority", dict []),
        ("decision", dict []), ("plan", dict [])]
    expected_current := base
    transaction_id := none }

end Seen

end AnKla
