import AnKla.Guarantees.Checkpoints
import AnKla.Guarantees.Reachable
import Mathlib.Data.List.Destutter

/-!
# The chain of checkpoints

A checkpoint names the one that it supersedes. In every reachable store the names lead
back, without a gap and without a repetition, over the checkpoints that the revisions held.

* `MadeOn`: a revision on the one that it was made on, also across a compaction.
* `History`: a revision with all before it, each with the checkpoint of the one before or
  with a new one on top of it.
* `Reachable.history`: every revision of a reachable store has one.
* `CheckpointChain`: what follows for the checkpoints.
* `checkpoint_chain`: all of it, and what every operation does.
-/

namespace AnKla

open PyJson Durable

/-! ## Lists without adjacent repetitions -/

section Destutter

variable {α : Type*} [DecidableEq α]

theorem exists_destutter' (a : α) (l : List α) : ∃ t, l.destutter' (· ≠ ·) a = a :: t := by
  induction l with
  | nil => exact ⟨[], rfl⟩
  | cons b l ih =>
    rw [List.destutter']
    split_ifs
    · exact ⟨_, rfl⟩
    · exact ih

/-- Where neighbours are equal or related, different neighbours are related. -/
theorem isChain_destutter_of {R : α → α → Prop} {l : List α}
    (h : l.IsChain fun a b => a = b ∨ R a b) : (l.destutter (· ≠ ·)).IsChain R := by
  cases l with
  | nil => exact .nil
  | cons a l =>
    rw [List.destutter_cons']
    induction l generalizing a with
    | nil => exact .singleton a
    | cons b l ih =>
      obtain ⟨hab, htail⟩ := List.isChain_cons_cons.1 h
      rw [List.destutter']
      split_ifs with hne
      · obtain ⟨t, ht⟩ := exists_destutter' b l
        have hb := ih b htail
        rw [ht] at hb ⊢
        exact List.isChain_cons_cons.2 ⟨hab.resolve_left hne, hb⟩
      · rw [not_not] at hne
        subst hne
        exact ih a htail

theorem mem_destutter_iff {l : List α} {x : α} : x ∈ l.destutter (· ≠ ·) ↔ x ∈ l := by
  refine ⟨(List.destutter_sublist _ l).mem, fun h => ?_⟩
  cases l with
  | nil => cases h
  | cons a l =>
    rw [List.destutter_cons']
    induction l generalizing a with
    | nil => exact h
    | cons b l ih =>
      rw [List.destutter']
      split_ifs with hne
      · rw [List.mem_cons] at h ⊢
        exact h.imp_right (ih b)
      · rw [not_not] at hne
        subst hne
        exact ih a ((List.mem_cons.1 h).elim (fun hx => hx ▸ List.mem_cons_self) id)

end Destutter

variable (H : Crypto)

/-! ## Histories -/

/-- The revision that a manifest was made on: its parent, or for a compaction root the
    revision that was compacted. -/
def Manifest.made_on (m : Manifest) : Option Digest :=
  m.parent.or (m.compaction_epoch.map (·.source_revision))

/-- A manifest is the next one on another. -/
structure MadeOn (m b : Manifest) : Prop where
  base : m.made_on = some (H.digest (.manifest b))
  revision : m.revision = b.revision + 1

/-- A checkpoint of the second version that a manifest has, on a base with another. -/
structure Supersedes (m b : Manifest) (checkpoint : Json) : Prop where
  digest : H.digest_json checkpoint = m.checkpoint
  schema : item checkpoint "schema" = .str "an-kla/checkpoint-v2"
  revision : item checkpoint "revision" = .int m.revision
  parent : item (item checkpoint "working_state") "supersedes_checkpoint" =
    .str (ident b.checkpoint)

/-- The checkpoint of a manifest is that of its base, or supersedes it. -/
def Carries (m b : Manifest) : Prop :=
  m.checkpoint = b.checkpoint ∨ ∃ checkpoint, Supersedes H m b checkpoint

/-- A manifest after all those before it, down to the first one of the store. -/
inductive History : List Manifest → Prop
  | first {m} (base : m.made_on = none) (revision : m.revision = 0)
    (checkpoint : m.checkpoint = H.digest_json InitCall.checkpoint) : History [m]
  | next {m b ms} (made : MadeOn H m b) (carries : Carries H m b) (history : History (b :: ms)) :
    History (m :: b :: ms)

/-- A checkpoint of the second version, under its digest, names another. -/
def NamesParent (c p : Digest) : Prop :=
  ∃ checkpoint, H.digest_json checkpoint = c ∧
    item checkpoint "schema" = .str "an-kla/checkpoint-v2" ∧
    item (item checkpoint "working_state") "supersedes_checkpoint" = .str (ident p)

/-- The checkpoints that the manifests held, each once for each time it was taken up. -/
def held (ms : List Manifest) : List Digest := (ms.map (·.checkpoint)).destutter (· ≠ ·)

variable {H}

theorem Carries.names {m b : Manifest} (h : Carries H m b) :
    m.checkpoint = b.checkpoint ∨ NamesParent H m.checkpoint b.checkpoint := by
  obtain h | ⟨checkpoint, h⟩ := h
  · exact .inl h
  · exact .inr ⟨checkpoint, h.digest, h.schema, h.parent⟩

/-- A checkpoint is of higher rank than the one that it names. -/
theorem NamesParent.rank_lt {c p : Digest} (h : NamesParent H c p) : H.rank p < H.rank c := by
  obtain ⟨checkpoint, rfl, -, hp⟩ := h
  refine H.rank_lt (c := .json checkpoint) ?_
  refine mem_idents_item (mem_idents_item (?_ : _ ∈ idents (item (item checkpoint "working_state")
    "supersedes_checkpoint")))
  rw [hp, idents, bare_digest_ident]
  simp

namespace History

variable {ms : List Manifest}

theorem made (h : History H ms) : ms.IsChain (MadeOn H) := by
  induction h with
  | first => exact .singleton _
  | next made _ _ ih => exact List.isChain_cons_cons.2 ⟨made, ih⟩

theorem carries (h : History H ms) : ms.IsChain (Carries H) := by
  induction h with
  | first => exact .singleton _
  | next _ carries _ ih => exact List.isChain_cons_cons.2 ⟨carries, ih⟩

theorem names (h : History H ms) : (held ms).IsChain (NamesParent H) := by
  refine isChain_destutter_of ?_
  rw [List.isChain_map]
  exact h.carries.imp fun m b hc => hc.names

theorem nodup (h : History H ms) : (held ms).Nodup := by
  have hrank : (held ms).IsChain fun c p => H.rank p < H.rank c :=
    h.names.imp fun c p hcp => hcp.rank_lt
  have htrans : IsTrans Digest fun c p => H.rank p < H.rank c :=
    ⟨fun a b c hab hbc => hbc.trans hab⟩
  exact (List.isChain_iff_pairwise.1 hrank).imp fun {c p} hlt heq => by
    rw [heq] at hlt
    exact lt_irrefl _ hlt

/-- No manifest has a higher number than one that comes after it. -/
theorem revision_le {m : Manifest} (h : History H (m :: ms)) : ∀ x ∈ ms, x.revision < m.revision := by
  induction ms generalizing m with
  | nil => exact fun x hx => absurd hx List.not_mem_nil
  | cons b ms ih =>
    cases h with
    | next made _ history =>
      have hm := made.revision
      intro x hx
      obtain rfl | hx := List.mem_cons.1 hx
      · omega
      · have := ih history x hx
        omega

/-- A checkpoint of the second version was committed by a manifest of the history, which
    all manifests after it have kept. -/
theorem committed {m : Manifest} {checkpoint : Json} (h : History H (m :: ms))
    (hd : H.digest_json checkpoint = m.checkpoint)
    (hv2 : item checkpoint "schema" = .str "an-kla/checkpoint-v2") :
    ∃ later author base earlier, m :: ms = later ++ author :: base :: earlier ∧
      Supersedes H author base checkpoint ∧
      ∀ x ∈ later, x.checkpoint = m.checkpoint ∧ author.revision ≤ x.revision := by
  induction ms generalizing m with
  | nil =>
    cases h with
    | first _ _ first =>
      rw [first] at hd
      obtain rfl := Crypto.digest_json_inj hd
      exact absurd hv2 (by decide +kernel)
  | cons b ms ih =>
    cases h with
    | next made carries history =>
      obtain hkeep | ⟨doc, hdoc⟩ := carries
      · obtain ⟨later, author, base, earlier, heq, hs, hall⟩ := ih history (hd.trans hkeep)
        refine ⟨m :: later, author, base, earlier, by rw [heq]; rfl, hs, fun x hx => ?_⟩
        have hle : author.revision ≤ b.revision := by
          have hmem : author ∈ b :: ms := by
            rw [heq]
            exact List.mem_append_right _ List.mem_cons_self
          obtain rfl | hmem := List.mem_cons.1 hmem
          · exact le_rfl
          · exact (history.revision_le _ hmem).le
        obtain rfl | hx := List.mem_cons.1 hx
        · exact ⟨rfl, hle.trans (made.revision ▸ Nat.le_succ _)⟩
        · exact ⟨(hall x hx).1.trans hkeep.symm, (hall x hx).2⟩
      · obtain rfl := Crypto.digest_json_inj (hdoc.digest.trans hd.symm)
        exact ⟨[], m, b, ms, rfl, hdoc, fun x hx => absurd hx List.not_mem_nil⟩

end History

/-! ## What the operations do -/

section Operations

variable {d d₀ : Disk} {g : Governed} {c : CommitRequest} {base : Snapshot} {m : Manifest}

/-- A manifest that is read is the one of its digest. -/
theorem digest_of_snapshot {id : Digest} {s : Snapshot} (h : snapshot H d id = .ok s) :
    H.digest (.manifest s.manifest) = id :=
  (read_manifest_iff.1 (snapshot_reads h).manifest).2

theorem manifest_of_snapshot {id : Digest} {s s' : Snapshot} {e : Disk}
    (h : snapshot H d id = .ok s) (h' : snapshot H e id = .ok s') : s.manifest = s'.manifest := by
  have hd := (digest_of_snapshot h).trans (digest_of_snapshot h').symm
  have := @H.injective (.manifest s.manifest) (.manifest s'.manifest) rfl hd
  injection this

/-- What a checkpoint call has checked of its base, and the checkpoint that it plans. -/
theorem checkpoint_prepared {k : CheckpointCall} {r : Binding × Snapshot × Option Attempt}
    (h : k.prepare H d = .ok r) : snapshot H d k.expected_current = .ok r.2.1 ∧
      item (item k.proposal "working_state") "supersedes_checkpoint" =
        .str (ident r.2.1.manifest.checkpoint) ∧
      item k.plan "checkpoint" =
        checkpoint_object (item k.proposal "working_state") (r.2.1.manifest.revision + 1) := by
  rw [CheckpointCall.prepare] at h
  obtain ⟨_, -, h⟩ := bind_ok.1 h
  obtain ⟨_, -, h⟩ := bind_ok.1 h
  obtain ⟨binding, -, h⟩ := bind_ok.1 h
  obtain ⟨base, hbase, h⟩ := bind_ok.1 h
  obtain ⟨_, hparent, h⟩ := bind_ok.1 h
  obtain ⟨_, hplan, h⟩ := bind_ok.1 h
  obtain ⟨_, -, h⟩ := bind_ok.1 h
  obtain ⟨attempt, -, h⟩ := bind_ok.1 h
  obtain rfl := pure_ok.1 h
  rw [CheckpointCall.check_parent] at hparent
  obtain ⟨_, -, hparent⟩ := bind_ok.1 hparent
  obtain ⟨_, -, hparent⟩ := bind_ok.1 hparent
  rw [verify_checkpoint_plan] at hplan
  obtain ⟨plan, hbuild, hplan⟩ := bind_ok.1 hplan
  have hplan : k.plan = plan := by simpa using ensure_ok.1 hplan
  rw [build_checkpoint_plan] at hbuild
  obtain ⟨_, -, hbuild⟩ := bind_ok.1 hbuild
  obtain ⟨_, -, hbuild⟩ := bind_ok.1 hbuild
  obtain ⟨_, -, hbuild⟩ := bind_ok.1 hbuild
  refine ⟨hbase, by simpa using ensure_ok.1 hparent, ?_⟩
  rw [hplan, ← pure_ok.1 hbuild]
  exact item_dict (by simp) (by simp)

/-- What a call other than a checkpoint asks for is no checkpoint. -/
theorem operation_of_request (h : Requests H d g d₀ c) (hg : ∀ k, g ≠ .checkpoint k) :
    c.attempt.operation ≠ .checkpoint := by
  cases h with
  | write current checked writes request =>
    obtain ⟨f, hf⟩ := Requests.write_attempt (Requests.write_request_fields request).1
    rw [hf]
    exact fun hop => nomatch hop
  | replay current advanced request =>
    obtain ⟨f, hf⟩ := Requests.write_attempt (Requests.replay_request_fields request).1
    rw [hf]
    exact fun hop => nomatch hop
  | checkpoint prepared request => exact absurd rfl (hg _)
  | refute prepared request =>
    obtain ⟨ha, -, s, -, hr⟩ := Requests.refute_lock prepared request
    obtain ⟨t, f, -, -, rfl⟩ := Requests.refute_attempt ha
    rw [(Requests.refute_request_fields hr).2.1]
    exact fun hop => nomatch hop

/-- A call other than a checkpoint keeps the checkpoint of its base. -/
theorem kept_of_request (h : Requests H d g d₀ c) (hg : ∀ k, g ≠ .checkpoint k) :
    c.checkpoint_id H base = base.manifest.checkpoint := by
  rw [CommitRequest.checkpoint_id, CommitRequest.new_checkpoint,
    if_neg (operation_of_request h hg)]

/-- A checkpoint call has its checkpoint supersede that of its base. -/
theorem supersedes_of_request {k : CheckpointCall} (h : Requests H d (.checkpoint k) d₀ c)
    (hprep : c.prepare H d₀ = .ok (.inr base)) (hm : c.manifest H base = .ok m) :
    ∃ checkpoint, Supersedes H m base.manifest checkpoint := by
  obtain ⟨entry, hchild⟩ := CommitRequest.manifest_child hm
  cases h with
  | @checkpoint _ binding s a _ prepared request =>
    obtain ⟨ha, identity, rfl, -⟩ := Requests.checkpoint_lock prepared request
    obtain ⟨t, f, -, rfl⟩ := Requests.checkpoint_attempt ha
    obtain ⟨hs, hparent, hplan⟩ := checkpoint_prepared prepared
    have hread := (AnKla.prepared hprep).read
    have hbase : s.manifest = base.manifest := manifest_of_snapshot hs hread
    dsimp only at hparent hplan
    rw [hbase] at hparent hplan
    have hid := hchild.checkpoint
    rw [CommitRequest.checkpoint_id, CommitRequest.new_checkpoint, if_pos (by rfl)] at hid
    change m.checkpoint = H.digest_json ((item k.plan "checkpoint").set "revision" _) at hid
    have hobj : (item k.plan "checkpoint").isObj = true := by
      rw [hplan]
      rfl
    refine ⟨_, hid.symm, ?_, ?_, ?_⟩
    · rw [item_set_ne (by decide), hplan]
      exact item_dict (by simp) (by simp)
    · rw [item_set hobj, hchild.revision]
      rfl
    · rw [item_set_ne (by decide), hplan]
      rw [show item (checkpoint_object (item k.proposal "working_state") _) "working_state" =
        item k.proposal "working_state" from item_dict (by simp) (by simp), hparent]

/-- A candidate is made on its base. -/
theorem made_on_of_child {entry : List RefutationEntry} (hprep : c.prepare H d₀ = .ok (.inr base))
    (h : Child H c base entry m) : MadeOn H m base.manifest where
  base := by
    rw [Manifest.made_on, h.parent, Option.some_or, digest_of_snapshot (AnKla.prepared hprep).read]
  revision := h.revision

/-- A candidate carries the checkpoint of its base, or one that supersedes it. -/
theorem carries_of_request (h : Requests H d g d₀ c) (hprep : c.prepare H d₀ = .ok (.inr base))
    (hm : c.manifest H base = .ok m) : Carries H m base.manifest := by
  obtain ⟨entry, hchild⟩ := CommitRequest.manifest_child hm
  by_cases hg : ∀ k, g ≠ .checkpoint k
  · exact .inl (hchild.checkpoint.trans (kept_of_request h hg))
  · push Not at hg
    obtain ⟨k, rfl⟩ := hg
    exact .inr (supersedes_of_request h hprep hm)

/-- What a compaction has checked of its base and of its root. -/
structure Compacts (k : CompactionCall) (d : Disk) (base : Snapshot) : Prop where
  current : read_current d = .ok k.expected_current
  read : snapshot H d k.expected_current = .ok base
  candidate : k.candidate = H.digest (.manifest k.planning.candidate_manifest)
  made : MadeOn H k.planning.candidate_manifest base.manifest
  kept : k.planning.candidate_manifest.checkpoint = base.manifest.checkpoint

theorem compacts {k : CompactionCall} (h : k.check H d = .ok (some base)) :
    Compacts (H := H) k d base := by
  rw [CompactionCall.check] at h
  obtain ⟨_, -, h⟩ := bind_ok.1 h
  obtain ⟨_, hsame, h⟩ := bind_ok.1 h
  obtain ⟨binding, -, h⟩ := bind_ok.1 h
  obtain ⟨current, -, h⟩ := bind_ok.1 h
  have hsame : k.expected_current = k.planning.proposal.base_revision := by
    simpa using ensure_ok.1 hsame
  split_ifs at h
  · cases h
  obtain ⟨_, hplan, heq⟩ := map_ok.1 h
  cases heq
  rw [CompactionCall.check_plan] at hplan
  obtain ⟨current', hcur, hplan⟩ := bind_ok.1 hplan
  obtain ⟨_, hexpected, hplan⟩ := bind_ok.1 hplan
  obtain ⟨_, -, hplan⟩ := bind_ok.1 hplan
  obtain ⟨_, -, hplan⟩ := bind_ok.1 hplan
  obtain rfl : current' = k.expected_current := by simpa using ensure_ok.1 hexpected
  split at hplan
  · cases hplan
  obtain ⟨proof, -, hplan⟩ := bind_ok.1 hplan
  obtain ⟨_, -, hplan⟩ := bind_ok.1 hplan
  obtain ⟨rebuilt, hbuild, hplan⟩ := bind_ok.1 hplan
  obtain ⟨_, hdrift, hplan⟩ := bind_ok.1 hplan
  obtain ⟨_, -, hread⟩ := bind_ok.1 hplan
  have hdrift : rebuilt = k.planning := by simpa using ensure_ok.1 hdrift
  rw [build_under_gate] at hbuild
  obtain ⟨_, -, hbuild⟩ := bind_ok.1 hbuild
  obtain ⟨_, -, hbuild⟩ := bind_ok.1 hbuild
  obtain ⟨s, hs, hbuild⟩ := bind_ok.1 hbuild
  obtain ⟨_, -, hbuild⟩ := bind_ok.1 hbuild
  obtain ⟨_, -, hbuild⟩ := bind_ok.1 hbuild
  obtain ⟨⟨_, _⟩, -, hbuild⟩ := bind_ok.1 hbuild
  obtain ⟨_, -, hbuild⟩ := bind_ok.1 hbuild
  obtain ⟨_, -, hbuild⟩ := bind_ok.1 hbuild
  obtain ⟨_, -, hbuild⟩ := bind_ok.1 hbuild
  obtain ⟨_, -, hbuild⟩ := bind_ok.1 hbuild
  have hplanning := (pure_ok.1 hbuild).trans hdrift
  rw [← hsame] at hs
  obtain rfl := Except.ok.inj (hs.symm.trans hread)
  refine ⟨hcur, hread, ?_, ⟨?_, ?_⟩, ?_⟩
  · rw [CompactionCall.candidate, ← hplanning]
    rfl
  · rw [← hplanning, digest_of_snapshot hread, hsame]
    rfl
  · rw [← hplanning]
    rfl
  · rw [← hplanning]
    rfl

end Operations

/-! ## Reachable stores -/

variable (H) in
/-- A manifest that is filed as a revision has a history. -/
def HasHistory (p : Path) (x : Document) : Prop :=
  ∀ id m, p = .revision id → x = .manifest m → ∃ ms, History H (m :: ms)

variable (H) in
/-- Writes that file no manifest. -/
def Manifestless (ws : List (Write Path Document Failure)) : Prop :=
  ∀ w ∈ ws, ∀ p m, w ≠ .replace p (.manifest m) ∧ w ≠ .create p (.manifest m)

theorem Manifestless.wrote {ws : List (Write Path Document Failure)} (h : Manifestless ws) :
    Wrote (HasHistory H) ws := by
  rintro p x - hw id m rfl rfl
  exact (hw.elim (fun hw => (h _ hw _ m).1 rfl) fun hw => (h _ hw _ m).2 rfl).elim

theorem history_of_snapshot {d : Disk} {id : Digest} {s : Snapshot} (hd : Contents (HasHistory H) d)
    (h : snapshot H d id = .ok s) : ∃ ms, History H (s.manifest :: ms) :=
  hd _ _ rfl (read_manifest_iff.1 (snapshot_reads h).manifest).1 id s.manifest rfl rfl

theorem wrote_init (i : InitCall) : Wrote (HasHistory H) (i.writes H) := by
  rintro p x - hw id m rfl rfl
  have hm : id = i.revision H ∧ m = i.genesis H := by
    simpa [InitCall.writes, InitCall.identity_writes, InitCall.publish_intent,
      InitCall.root_writes, write_receipt, sync_protected] using hw
  exact ⟨[], hm.2 ▸ .first rfl rfl rfl⟩

theorem manifestless_spend (now : String) (receipt : Json) :
    Manifestless (consume_tombstone H now receipt) := by
  simp [Manifestless, consume_tombstone]

theorem manifestless_objects {c : CommitRequest} {base : Snapshot} :
    Manifestless (c.object_writes H base) := by
  refine fun w hw p m => ⟨?_, CommitRequest.object_not_manifest w hw⟩
  rintro rfl
  rw [CommitRequest.object_writes, List.cons_append, List.cons_append, List.mem_cons,
    List.mem_append, List.mem_append] at hw
  obtain hw | (hw | hw) | hw := hw
  · cases hw
  · obtain ⟨x, -, hx⟩ := List.mem_map.1 hw
    cases hx
  · obtain ⟨v, -, hv⟩ := List.mem_map.1 hw
    cases hv
  · rw [CommitRequest.refute_writes] at hw
    split at hw
    · exact absurd hw List.not_mem_nil
    · simp at hw

/-- A commit writes no manifest but one on its base. -/
theorem wrote_candidate {d d₀ : Disk} {g : Governed} {c : CommitRequest} {base : Snapshot}
    (hd : Contents (HasHistory H) d₀) (h : Requests H d g d₀ c)
    (hprep : c.prepare H d₀ = .ok (.inr base)) : Wrote (HasHistory H) (c.writes H base) := by
  rw [CommitRequest.writes]
  refine manifestless_objects.wrote.append ?_
  cases hm : c.manifest H base with
  | error e => exact Manifestless.wrote (by simp [Manifestless])
  | ok m =>
    rintro p x - hw id m' rfl rfl
    obtain hw | hw := hw
    · simp [CommitRequest.publish_writes, CommitRequest.stage_writes, CommitRequest.move_writes,
        CommitRequest.audit_writes, CommitRequest.observe_writes, write_receipt,
        sync_protected] at hw
    · obtain rfl := CommitRequest.publish_manifest _ hw rfl
      obtain ⟨entry, hchild⟩ := CommitRequest.manifest_child hm
      obtain ⟨ms, history⟩ := history_of_snapshot hd (prepared hprep).read
      exact ⟨_, .next (made_on_of_child hprep hchild) (carries_of_request h hprep hm) history⟩

/-- A compaction writes no manifest but its root. -/
theorem wrote_root {d : Disk} {k : CompactionCall} {base : Snapshot}
    (hd : Contents (HasHistory H) d) (h : k.check H d = .ok (some base)) :
    Wrote (HasHistory H) (k.writes H base) := by
  refine (((Wrote.append ?_ ?_).append ?_).append ?_).append ?_
  · refine Manifestless.wrote fun w hw p m => ?_
    rw [List.mem_flatMap] at hw
    obtain ⟨s, -, hw⟩ := hw
    rw [CompactionCall.segment_writes] at hw
    split_ifs at hw
    · exact absurd hw List.not_mem_nil
    · rw [List.mem_cons, List.mem_singleton] at hw
      obtain rfl | rfl := hw <;> simp [write_segment]
  · rintro p x - hw id m rfl rfl
    have hm : m = k.planning.candidate_manifest := by
      have hw : id = H.digest (.manifest k.planning.candidate_manifest) ∧
          m = k.planning.candidate_manifest := by simpa using hw
      exact hw.2
    obtain ⟨ms, history⟩ := history_of_snapshot hd (compacts h).read
    rw [hm]
    exact ⟨_, .next (compacts h).made (.inl (compacts h).kept) history⟩
  · refine Manifestless.wrote ?_
    simp [Manifestless, CompactionCall.stage_writes, write_receipt, sync_protected]
  · exact Manifestless.wrote (by simp [Manifestless, CompactionCall.move_writes])
  · refine Manifestless.wrote ?_
    simp [Manifestless, CompactionCall.audit_writes, write_receipt, sync_protected]

theorem manifestless_cleanup (k : CompactionCall) (j : Journal) (current : Digest) :
    Manifestless (k.cleanup_writes H j current) := by
  intro w hw p m
  simp only [CompactionCall.cleanup_writes, CompactionCall.reconcile_writes,
    CompactionCall.delete_writes, CompactionCall.delete_exact, List.mem_append, List.mem_cons,
    List.mem_flatMap, List.not_mem_nil, or_false] at hw
  rcases hw with (hw | rfl) | rfl | ⟨t, -, rfl | rfl⟩ | rfl | rfl | rfl
  · split_ifs at hw
    · exact absurd hw List.not_mem_nil
    · rw [List.nil_append, List.mem_singleton] at hw
      simp [hw]
    · rw [List.mem_append, List.mem_singleton, List.mem_singleton] at hw
      obtain rfl | rfl := hw <;> simp
  all_goals simp

/-- Every revision of a reachable store has a history. -/
theorem Reachable.history {d : Disk} (h : Reachable H d) : Contents (HasHistory H) d :=
  h.contents (fun _ _ _ _ _ hx => nomatch hx) wrote_init
    (fun now receipt => (manifestless_spend now receipt).wrote)
    (fun hd hreq hprep => wrote_candidate hd hreq hprep) (fun hd hcheck => wrote_root hd hcheck)
    (manifestless_cleanup _ _ _).wrote

/-! ## Moves of CURRENT -/

variable (H) in
/-- CURRENT has moved from a revision to one that was made on it. -/
structure Advances (d d' : Disk) (b m : Manifest) : Prop where
  before : d.read .current = some (.current (H.digest (.manifest b)))
  after : d'.read .current = some (.current (H.digest (.manifest m)))
  made : MadeOn H m b

/-- A governed call that moves CURRENT makes a revision on it. Its checkpoint is new and
    supersedes the one before, if the call is a checkpoint, and is the one before if not. -/
theorem Governed.advances {g : Governed} {incident : Option Incident} {d : Disk}
    (hne : (g.commit H incident d).1.read .current ≠ d.read .current) :
    ∃ b m, Advances H d (g.commit H incident d).1 b m ∧
      ((∀ k, g ≠ .checkpoint k) → m.checkpoint = b.checkpoint) ∧
      ∀ k, g = .checkpoint k → ∃ checkpoint, Supersedes H m b checkpoint := by
  obtain hsame | ⟨d₀, c, base, m, hspends, hreq, hprep, hmoved⟩ := g.moves (H := H) incident d
  · exact absurd hsame hne
  obtain ⟨entry, hchild⟩ := CommitRequest.manifest_child hmoved.manifest
  have hcur : d.read .current = some (.current c.observed) := by
    rw [← hspends.read (by simp) (by simp)]
    exact read_current_ok.1 hmoved.before
  refine ⟨base.manifest, m, ⟨?_, read_current_ok.1 hmoved.after, made_on_of_child hprep hchild⟩,
    fun hg => hchild.checkpoint.trans (kept_of_request hreq hg), ?_⟩
  · rw [digest_of_snapshot (prepared hprep).read, hcur]
  · rintro k rfl
    exact supersedes_of_request hreq hprep hmoved.manifest

/-- Deletions leave every path that is of no kind of object. -/
theorem delete_frame {q : Path} (hq : q.object_kind = none) (ha : ¬(storage H).aside q)
    {rest : List (Write Path Document Failure)} (hrest : ∀ w ∈ rest, w.target ≠ some q)
    (ts : List ObjectTombstone) (f : Option Fault) (d : Disk) :
    (perform (storage H) (ts.flatMap (CompactionCall.delete_exact H) ++ rest) f d).1.read q =
      d.read q := by
  induction ts generalizing f d with
  | nil => exact perform_frame f hrest ha
  | cons t ts ih =>
    rw [List.flatMap_cons, List.append_assoc, CompactionCall.delete_exact, List.cons_append]
    set guard : Disk → Except Failure Unit := fun d => do
      ensure (t.path.object_kind = some t.kind) (.compaction "compaction_delete_path_invalid")
      ensure ((d.read t.path).all fun c => H.digest c = t.content_sha256)
        (.compaction "compaction_delete_content_changed") with hguard
    by_cases hpath : t.path = q
    · -- The check refuses the path before it is removed.
      have hrefused : (Write.check guard : Write Path Document Failure).exec (storage H) d =
          .error (.compaction "compaction_delete_path_invalid") := by
        rw [Write.exec, hguard]
        simp [hpath, hq, ensure, bind, Except.bind, Except.map]
      rcases f with _ | ⟨_ | n, pt⟩
      · rw [perform, hrefused]
      · rw [perform]
        exact Write.left_frame (by simp [Write.target]) ha
      · rw [perform, hrefused]
    · have hpre : ∀ w ∈ [Write.check guard, .remove t.path], w.target ≠ some q := by
        intro w hw ht
        rw [List.mem_cons, List.mem_singleton] at hw
        obtain rfl | rfl := hw
        · cases ht
        · exact hpath (Option.some.inj ht)
      obtain h | ⟨e, he, h⟩ := @perform_append _ _ _ _ _ (storage H) [Write.check guard, .remove t.path]
        (ts.flatMap (CompactionCall.delete_exact H) ++ rest) f d
      · exact (congrArg (fun x : Disk => x.read q) h).trans (perform_frame f hpre ha)
      · refine (congrArg (fun x : Disk => x.read q) h).trans ((ih _ e).trans ?_)
        exact execs_frame he hpre ha

theorem cleanup_current {k : CompactionCall} {current : Digest} {incident : Option Incident}
    {d : Disk} : (k.cleanup H current incident d).1.read .current = d.read .current := by
  have ha : ¬(storage H).aside .current := not_aside (by simp)
  rw [CompactionCall.cleanup]
  split
  · rfl
  · next j _ =>
    set pre := k.reconcile_writes H j ++
      [.check (k.validate_cleanup_evidence H (k.reconciled H j) current)] with hpre
    have heq : k.cleanup_writes H j current = pre ++ k.delete_writes H (k.reconciled H j) := by
      rw [CompactionCall.cleanup_writes, hpre, List.append_assoc, List.singleton_append]
    have hframe : ∀ w ∈ pre, w.target ≠ some .current := by
      intro w hw ht
      rw [hpre, CompactionCall.reconcile_writes] at hw
      simp only [List.mem_append, List.mem_singleton] at hw
      rcases hw with (hw | rfl) | rfl
      · split_ifs at hw
        · exact absurd hw List.not_mem_nil
        · rw [List.nil_append, List.mem_singleton] at hw
          rw [hw] at ht
          cases ht
        · rw [List.mem_append, List.mem_singleton, List.mem_singleton] at hw
          obtain rfl | rfl := hw <;> cases ht
      all_goals cases ht
    have hrest : ∀ w ∈ [Write.check fun d => ensure (remaining d k.planning.delete_set = 0)
        (.compaction "compaction_cleanup_remaining"),
        .create (.receipt k.txid (H.digest (.cleanup_receipt (k.cleanup_receipt H))))
          (.cleanup_receipt (k.cleanup_receipt H)),
        .replace (.journal k.txid) (.journal
          { k.reconciled H j with
            cleanup_receipt := some (H.digest (.cleanup_receipt (k.cleanup_receipt H))) })],
        w.target ≠ some .current := by
      intro w hw ht
      simp only [List.mem_cons, List.not_mem_nil, or_false] at hw
      rcases hw with rfl | rfl | rfl <;> cases ht
    have hdelete (f : Option Fault) (d : Disk) : (perform (storage H)
        (k.delete_writes H (k.reconciled H j)) f d).1.read .current = d.read .current :=
      delete_frame rfl ha hrest k.planning.delete_set f d
    dsimp only
    rw [heq]
    obtain h | ⟨e, he, h⟩ := @perform_append _ _ _ _ _ (storage H) pre
      (k.delete_writes H (k.reconciled H j)) (incident.map (·.fault)) d
    · exact (congrArg (fun x : Disk => x.read .current) h).trans (perform_frame _ hframe ha)
    · refine (congrArg (fun x : Disk => x.read .current) h).trans ((hdelete _ e).trans ?_)
      exact execs_frame he hframe ha

/-- The writes of a compaction move CURRENT to its root or not at all. -/
theorem compaction_writes_current {k : CompactionCall} {base : Snapshot} (f : Option Fault)
    (d : Disk) : (perform (storage H) (k.writes H base) f d).1.read .current = d.read .current ∨
      (perform (storage H) (k.writes H base) f d).1.read .current = some (.current k.candidate) := by
  have ha : ¬(storage H).aside .current := not_aside (by simp)
  let I (x : Option Document) : Prop := x = d.read .current ∨ x = some (.current k.candidate)
  refine perform_invariant (I := fun e : Disk => I (e.read .current)) f (fun w hw => ?_) (.inl rfl)
  by_cases ht : w.target = some .current
  · have hw : w = .replace .current (.current k.candidate) := by
      rw [CompactionCall.writes, List.mem_append, List.mem_append, List.mem_append] at hw
      rcases hw with ((hw | hw) | hw) | hw
      · rw [CompactionCall.object_writes, List.mem_append, List.mem_flatMap] at hw
        obtain ⟨s, -, hw⟩ | hw := hw
        · rw [CompactionCall.segment_writes] at hw
          split_ifs at hw
          · exact absurd hw List.not_mem_nil
          · rw [List.mem_cons, List.mem_singleton] at hw
            obtain rfl | rfl := hw <;> cases ht
        · simp only [List.mem_cons, List.not_mem_nil, or_false] at hw
          rcases hw with rfl | rfl | rfl | rfl <;> cases ht
      · simp only [CompactionCall.stage_writes, write_receipt, List.mem_append, List.mem_cons,
          List.not_mem_nil, or_false] at hw
        rcases hw with ((rfl | rfl | rfl) | rfl | rfl) | rfl <;> cases ht
      · rw [CompactionCall.move_writes, List.mem_cons, List.mem_singleton] at hw
        obtain rfl | rfl := hw
        · cases ht
        · rfl
      · simp only [CompactionCall.audit_writes, write_receipt, List.mem_append, List.mem_cons,
          List.not_mem_nil, or_false] at hw
        rcases hw with (rfl | rfl) | rfl | rfl | rfl <;> cases ht
    rw [hw]
    exact Write.keeps_replace (I := I) (.inr rfl)
  · exact Write.keeps_of_target ht ha

/-- CURRENT is where the writes of a compaction leave it, and its cleanup leaves it there. -/
theorem commit_compaction_current {k : CompactionCall} {incident : Option Incident} {d : Disk}
    {base : Snapshot} (h : k.check H d = .ok (some base)) :
    (commit_compaction H k incident d).1.read .current =
      (perform (storage H) (k.writes H base) (incident.map (·.fault)) d).1.read .current := by
  rw [commit_compaction, h]
  simp only
  split
  · next e heq => rw [heq, cleanup_current]
  · next e n heq => rw [heq, apply_ite Prod.fst, ite_self]
  · next e n code heq => rw [heq]
  · next e n err _ heq => rw [heq]

/-- A compaction that moves CURRENT makes a root on it, and keeps its checkpoint. -/
theorem compaction_advances {k : CompactionCall} {incident : Option Incident} {d : Disk}
    (hne : (commit_compaction H k incident d).1.read .current ≠ d.read .current) :
    ∃ b m, Advances H d (commit_compaction H k incident d).1 b m ∧ m.checkpoint = b.checkpoint := by
  cases hcheck : k.check H d with
  | error e =>
    rw [commit_compaction, hcheck] at hne
    exact absurd rfl hne
  | ok found =>
    cases found with
    | none =>
      rw [commit_compaction, hcheck] at hne
      exact absurd cleanup_current hne
    | some base =>
      have h := compacts hcheck
      have hcur := @commit_compaction_current _ _ incident _ _ hcheck
      have hmoved : (commit_compaction H k incident d).1.read .current =
          some (.current k.candidate) := by
        rw [hcur] at hne ⊢
        exact (compaction_writes_current (incident.map (·.fault)) d).resolve_left hne
      refine ⟨base.manifest, k.planning.candidate_manifest, ⟨?_, ?_, h.made⟩, h.kept⟩
      · rw [digest_of_snapshot h.read]
        exact read_current_ok.1 h.current
      · rw [hmoved, h.candidate]

/-! ## The chain -/

variable (H) in
/-- The checkpoints of a manifest and of all those before it. -/
structure CheckpointChain (m : Manifest) (before : List Manifest) : Prop where
  /-- Each manifest was made on the next one of the list. -/
  made : (m :: before).IsChain (MadeOn H)
  /-- Each has the checkpoint of the next one, or one that supersedes it. -/
  carries : (m :: before).IsChain (Carries H)
  /-- A checkpoint of the second version was committed by one of them, on the base whose
      checkpoint it names, and all manifests since have kept it under higher numbers. -/
  committed : ∀ checkpoint, H.digest_json checkpoint = m.checkpoint →
    item checkpoint "schema" = .str "an-kla/checkpoint-v2" →
    ∃ later author base earlier, m :: before = later ++ author :: base :: earlier ∧
      Supersedes H author base checkpoint ∧
      ∀ x ∈ later, x.checkpoint = m.checkpoint ∧ author.revision ≤ x.revision
  /-- The names of superseded checkpoints lead over all checkpoints that were held. -/
  names : (held (m :: before)).IsChain (NamesParent H)
  no_skip : ∀ x ∈ m :: before, x.checkpoint ∈ held (m :: before)
  no_repeat : (held (m :: before)).Nodup

theorem History.chain {m : Manifest} {ms : List Manifest} (h : History H (m :: ms)) :
    CheckpointChain H m ms where
  made := h.made
  carries := h.carries
  committed _ hd hv2 := h.committed hd hv2
  names := h.names
  no_skip _ hx := mem_destutter_iff.2 (List.mem_map_of_mem hx)
  no_repeat := h.nodup

/-- In a reachable store every revision has its chain of checkpoints, and of the operations
    only a checkpoint takes up another one. -/
theorem checkpoint_chain {d : Disk} (h : Reachable H d) :
    (∀ id m, d.read (.revision id) = some (.manifest m) → ∃ before, CheckpointChain H m before) ∧
    (∀ g incident, (Governed.commit H incident d g).1.read .current ≠ d.read .current →
      ∃ b m, Advances H d (Governed.commit H incident d g).1 b m ∧
        ((∀ k, g ≠ .checkpoint k) → m.checkpoint = b.checkpoint) ∧
        ∀ k, g = .checkpoint k → ∃ checkpoint, Supersedes H m b checkpoint) ∧
    ∀ k incident, (commit_compaction H k incident d).1.read .current ≠ d.read .current →
      ∃ b m, Advances H d (commit_compaction H k incident d).1 b m ∧
        m.checkpoint = b.checkpoint := by
  refine ⟨fun id m hm => ?_, fun g incident => g.advances, fun k incident => compaction_advances⟩
  obtain ⟨ms, history⟩ := h.history _ _ rfl hm id m rfl rfl
  exact ⟨ms, history.chain⟩

namespace OneCheckpoint

theorem reachable_of (g : Governed) : Reachable host (store_of g) :=
  .commit g none (.init OneFact.init none)

theorem reachable : Reachable host store := by
  rw [store_of_call]
  exact reachable_of (.checkpoint call)

theorem read_child : store.read (.revision 18) = some (.manifest child) := by
  rw [store_eq]
  decide +kernel

end OneCheckpoint

/-- The revision with the first checkpoint has its chain. -/
theorem checkpoint_chain_one_checkpoint :
    ∃ before, CheckpointChain OneCheckpoint.host OneCheckpoint.child before :=
  (checkpoint_chain OneCheckpoint.reachable).1 18 OneCheckpoint.child OneCheckpoint.read_child

end AnKla
