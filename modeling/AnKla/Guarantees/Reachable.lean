import AnKla.Compaction.Commit
import AnKla.Governed
import AnKla.Initialization
import AnKla.Json.Loads
import AnKla.Transactions.Base

/-!
# Reachable stores

The disks that a store can come to: it is created, clients commit, it is compacted, any
of this may be interrupted, and the host keeps files of its own beside it.

* `Reachable`.
* `Reachable.contents`: what is true of every file that is written is true of every file
  of a reachable store.
* `Reachable.named`: every record of a reachable store has a nonempty text as its id.
-/

namespace AnKla

open PyJson Durable

variable (H : Crypto)

/-- A file that no revision rests on: of readers, of indexes, of attestations, or moved
    aside. -/
def Path.beside : Path → Bool
  | .watermark | .quarantine _ | .index_current _ | .index _ _ | .attest_key | .attest_whitelist
  | .attest_receipt _ => true
  | _ => false

/-- The disks that a store can come to. -/
inductive Reachable : Disk → Prop
  | init (i : InitCall) (f : Option Fault) : Reachable (perform (storage H) (i.writes H) f ∅).1
  | commit {d} (g : Governed) (incident : Option Incident) :
    Reachable d → Reachable (g.commit H incident d).1
  | compact {d} (k : CompactionCall) (incident : Option Incident) :
    Reachable d → Reachable (commit_compaction H k incident d).1
  | host {d e} : Reachable d → (∀ p, p.beside = false → e.read p = d.read p) → Reachable e

/-- What is true of every file, but for those beside the store. -/
def Contents (W : Path → Document → Prop) (d : Disk) : Prop :=
  ∀ p c, p.beside = false → d.read p = some c → W p c

/-- What is true of every content that some writes write. -/
def Wrote (W : Path → Document → Prop) (ws : List (Write Path Document Failure)) : Prop :=
  ∀ p c, p.beside = false → .replace p c ∈ ws ∨ .create p c ∈ ws → W p c

variable {H} {W : Path → Document → Prop}

theorem Contents.perform {ws : List (Write Path Document Failure)} {d : Disk} (h : Contents W d)
    (hws : Wrote W ws) (torn : ∀ p k, W p (.torn k)) (f : Option Fault) :
    Contents W (perform (storage H) ws f d).1 := by
  intro p c hp hc
  have hcut (p : Path) (x : Document) (k : ℕ) : W p ((storage H).cut x k) := torn p k
  refine perform_contents (W := fun p c => p.beside = false → W p c) f
    (fun w hw p c hwc hp => ?_) (fun p x k _ _ => hcut p x k) (fun p c _ hc hp => h p c hp hc) p c
    (not_aside ?_) hc hp
  · obtain rfl | rfl := hwc
    · exact hws p c hp (.inl hw)
    · exact hws p c hp (.inr hw)
  · rintro n rfl
    cases hp

/-- What every write of every operation writes, is what a reachable store holds. -/
theorem Reachable.contents {d : Disk} (h : Reachable H d) (torn : ∀ p k, W p (.torn k))
    (init : ∀ i, Wrote W (InitCall.writes H i))
    (spend : ∀ now receipt, Wrote W (consume_tombstone H now receipt))
    (commit : ∀ {g d₀ d c base}, Contents W d₀ → Requests H d g d₀ c →
      c.prepare H d₀ = .ok (.inr base) → Wrote W (c.writes H base))
    (compact : ∀ {k d base}, Contents W d → CompactionCall.check H k d = .ok (some base) →
      Wrote W (k.writes H base))
    (cleanup : ∀ {k j current}, Wrote W (CompactionCall.cleanup_writes H k j current)) :
    Contents W d := by
  induction h with
  | init i f => exact Contents.perform (fun p c _ hc => by cases hc) (init i) torn f
  | @commit d g incident _ ih =>
    obtain ⟨d₀, hspends, heffect⟩ := g.effect (H := H) incident d
    have h₀ : Contents W d₀ := by
      cases hspends with
      | nothing => exact ih
      | receipt _ _ f => exact ih.perform (spend _ _) torn f
    obtain heq | ⟨c, rest, hreq, heq⟩ := heffect
    · rwa [heq]
    · rw [heq]
      obtain hsame | ⟨base, hprep, hwrites⟩ := commit_locked_cases (H := H) c rest d₀
      · rwa [hsame]
      · rw [hwrites]
        exact h₀.perform (commit h₀ hreq hprep) torn _
  | @compact d k incident _ ih =>
    have hcleanup (current : Digest) (incident : Option Incident) {e : Disk} (he : Contents W e) :
        Contents W (k.cleanup H current incident e).1 := by
      rw [CompactionCall.cleanup]
      split
      · exact he
      · exact he.perform cleanup torn _
    rw [commit_compaction]
    split
    · exact ih
    · exact hcleanup _ _ ih
    · next base hcheck =>
      have hws := ih.perform (H := H) (compact ih hcheck) torn (incident.map (·.fault))
      simp only
      split
      · next d' heq =>
        rw [heq] at hws
        exact hcleanup _ _ hws
      · next d' n heq =>
        rw [heq] at hws
        split_ifs <;> exact hws
      · next d' n code heq =>
        rw [heq] at hws
        exact hws
      · next d' n e heq =>
        rw [heq] at hws
        exact hws
  | host _ hsame ih => exact fun p c hp hc => ih p c hp (hsame p hp ▸ hc)

/-! ## Ids -/

/-- The id of a record is a text, and not empty. -/
def Named (row : Json) : Prop := ∃ s, item row "id" = .str s ∧ s ≠ ""

/-- The records of a segment are named. -/
def NamedRows (p : Path) (c : Document) : Prop :=
  ∀ stream id text rows, p = .segment stream id → c = .segment text →
    readLines text = some rows → ∀ row ∈ rows, Named row

/-- Writes that write no segment. -/
def Segmentless (ws : List (Write Path Document Failure)) : Prop :=
  ∀ w ∈ ws, ∀ p text, w ≠ .replace p (.segment text) ∧ w ≠ .create p (.segment text)

theorem Segmentless.wrote {ws : List (Write Path Document Failure)} (h : Segmentless ws) :
    Wrote NamedRows ws := by
  rintro p c - hw stream id text rows rfl rfl
  exact (hw.elim (fun hw => (h _ hw _ text).1 rfl) fun hw => (h _ hw _ text).2 rfl).elim

theorem Segmentless.append {ws vs : List (Write Path Document Failure)} (hw : Segmentless ws)
    (hv : Segmentless vs) : Segmentless (ws ++ vs) := fun w hmem =>
  (List.mem_append.1 hmem).elim (hw w) (hv w)

theorem Wrote.append {W : Path → Document → Prop} {ws vs : List (Write Path Document Failure)}
    (hw : Wrote W ws) (hv : Wrote W vs) : Wrote W (ws ++ vs) := by
  intro p c hp hmem
  rw [List.mem_append, List.mem_append] at hmem
  rcases hmem with (h | h) | h | h
  · exact hw p c hp (.inl h)
  · exact hv p c hp (.inl h)
  · exact hw p c hp (.inr h)
  · exact hv p c hp (.inr h)

theorem segmentless_write_receipt (r : Receipt) : Segmentless (write_receipt H r) := by
  simp [Segmentless, write_receipt, sync_protected]

theorem segmentless_init (i : InitCall) : Segmentless (i.writes H) := by
  simp [Segmentless, InitCall.writes, InitCall.identity_writes, InitCall.publish_intent,
    InitCall.root_writes, write_receipt, sync_protected]

theorem segmentless_spend (now : String) (receipt : Json) :
    Segmentless (consume_tombstone H now receipt) := by
  simp [Segmentless, consume_tombstone]

theorem segmentless_publish (c : CommitRequest) (m : Manifest) :
    Segmentless (c.publish_writes H m) := by
  simp [Segmentless, CommitRequest.publish_writes, CommitRequest.stage_writes,
    CommitRequest.move_writes, CommitRequest.audit_writes, CommitRequest.observe_writes,
    write_receipt, sync_protected]

theorem segmentless_cleanup (k : CompactionCall) (j : Journal) (current : Digest) :
    Segmentless (k.cleanup_writes H j current) := by
  intro w hw p text
  simp only [CompactionCall.cleanup_writes, CompactionCall.reconcile_writes,
    CompactionCall.delete_writes, CompactionCall.delete_exact, List.mem_append, List.mem_cons,
    List.mem_flatMap, List.not_mem_nil, or_false] at hw
  rcases hw with (hw | rfl) | rfl | ⟨t, -, rfl | rfl⟩ | rfl | rfl | rfl
  · split_ifs at hw
    · exact absurd hw List.not_mem_nil
    · rw [List.nil_append, List.mem_singleton] at hw
      simp [hw]
    · rw [List.mem_append, List.mem_singleton, List.mem_singleton] at hw
      obtain rfl | rfl := hw <;> simp
  all_goals simp

/-! ## The segments that are written -/

/-- The rows that a request adds are named, and have a canonical text. -/
theorem named_of_assign {stream : Stream} {existing : List String} {rows : List Json}
    (h : assign_rows stream existing rows = .ok ()) : ∀ row ∈ rows, Named row := by
  induction rows generalizing existing with
  | nil => exact fun row hrow => absurd hrow List.not_mem_nil
  | cons row rows ih =>
    rw [assign_rows] at h
    split at h
    · next s hs =>
      split_ifs at h with hne hused
      exact List.forall_mem_cons.2 ⟨⟨s, hs, hne⟩, ih h⟩
    · cases h

theorem Requests.storable {d d₀ : Disk} {g : Governed} {c : CommitRequest}
    (h : Requests H d g d₀ c) (s : Stream) : ∀ row ∈ c.pending.get s, Storable row := by
  have hnone : ∀ row ∈ no_pending.get s, Storable row := by
    intro row hrow
    rw [no_pending, PerStream.get_ofFn] at hrow
    exact absurd hrow List.not_mem_nil
  cases h with
  | write current checked writes request =>
    rw [(write_request_fields request).2.2.1]
    rw [WriteCall.check] at checked
    obtain ⟨_, -, checked⟩ := bind_ok.1 checked
    obtain ⟨⟨⟩, hv, -⟩ := bind_ok.1 checked
    exact WriteCall.pending_storable hv s
  | replay current advanced request =>
    rw [(replay_request_fields request).2.2]
    exact hnone
  | checkpoint prepared request =>
    obtain ⟨-, s, rfl, -⟩ := checkpoint_lock prepared request
    exact hnone
  | refute prepared request =>
    obtain ⟨-, -, s, -, hr⟩ := refute_lock prepared request
    rw [(refute_request_fields hr).2.2.1]
    exact hnone

/-- A segment of named rows. -/
theorem namedRows_of_rows {p : Path} {rows : List Json} (hs : ∀ row ∈ rows, Storable row)
    (hn : ∀ row ∈ rows, Named row) : NamedRows p (.segment (writeLines rows)) := by
  rintro stream id text read - heq hread
  cases heq
  rw [readLines_writeLines_eq (fun row hrow => (hs row hrow).1) (fun row hrow => (hs row hrow).2)
    hread]
  exact hn

theorem wrote_commit {d₀ d : Disk} {g : Governed} {c : CommitRequest} {base : Snapshot}
    (h : Requests H d g d₀ c) (hprep : c.prepare H d₀ = .ok (.inr base)) :
    Wrote NamedRows (c.writes H base) := by
  refine ((Wrote.append ?_ ?_).append ?_).append ?_
  · intro p x _ hw
    simp only [List.mem_cons, List.mem_map, write_segment, reduceCtorEq, false_or, and_false,
      exists_false, or_false] at hw
    obtain heq | ⟨e, he, heq⟩ := hw
    · cases heq
      rintro _ _ _ _ _ ⟨⟩
    · cases heq
      rw [CommitRequest.new_rows, List.mem_filter, List.mem_map] at he
      obtain ⟨⟨s, hs, rfl⟩, -⟩ := he
      exact namedRows_of_rows (h.storable s) (named_of_assign (forM_ok.1 (prepared hprep).rows s hs))
  · exact Segmentless.wrote (by simp [Segmentless])
  · refine Segmentless.wrote ?_
    rw [CommitRequest.refute_writes]
    split <;> simp [Segmentless]
  · split
    · exact Segmentless.wrote (by simp [Segmentless])
    · exact (segmentless_publish c _).wrote

/-- The rows of a snapshot come from its segments. -/
theorem mem_of_read_segments {d : Disk} {stream : Stream} {ids : List Digest}
    {rows all : List Json} (h : read_segments H d stream rows ids = .ok all) {row : Json}
    (hrow : row ∈ all) : row ∈ rows ∨
      ∃ id new, read_segment H d stream id = .ok new ∧ row ∈ new := by
  induction ids generalizing rows with
  | nil =>
    rw [read_segments] at h
    cases h
    exact .inl hrow
  | cons id ids ih =>
    simp only [read_segments, bind_ok] at h
    obtain ⟨new, hn, mid, hm, h⟩ := h
    obtain ⟨rfl, -⟩ := add_rows_ok.1 hm
    obtain hmem | hmem := ih h
    · exact (List.mem_append.1 hmem).imp_right fun hnew => ⟨id, new, hn, hnew⟩
    · exact .inr hmem

theorem mem_of_mapM {α β : Type} {f : α → Option β} {xs : List α} {ys : List β}
    (h : xs.mapM f = some ys) {y : β} (hy : y ∈ ys) : ∃ x, f x = some y := by
  induction xs generalizing ys with
  | nil =>
    cases h
    exact absurd hy List.not_mem_nil
  | cons x xs ih =>
    rw [List.mapM_cons] at h
    obtain ⟨y', hy', h⟩ := Option.bind_eq_some_iff.1 h
    obtain ⟨ys', hys, h⟩ := Option.bind_eq_some_iff.1 h
    cases h
    obtain rfl | hy := List.mem_cons.1 hy
    · exact ⟨x, hy'⟩
    · exact ih hys hy

/-- The rows of a snapshot are named and have a canonical text, if all stored rows are
    named. -/
theorem named_of_snapshot {d : Disk} (hd : Contents NamedRows d) {revision : Digest}
    {s : Snapshot} (h : snapshot H d revision = .ok s) {stream : Stream} :
    ∀ row ∈ s.raw_records.get stream, Named row ∧ Storable row := by
  intro row hrow
  have hread := read_records_ok.1 (snapshot_reads h).raw stream
  obtain hno | ⟨id, new, hseg, hmem⟩ := mem_of_read_segments hread hrow
  · exact absurd hno List.not_mem_nil
  · obtain ⟨text, hfile, -, hlines⟩ := read_segment_ok hseg
    refine ⟨hd _ _ rfl hfile stream id text new rfl rfl hlines row hmem, ?_⟩
    rw [readLines] at hlines
    obtain ⟨line, hl⟩ := mem_of_mapM hlines hmem
    exact loads_written hl

/-- A compaction starts from a snapshot. -/
theorem compaction_base {d : Disk} {k : CompactionCall} {base : Snapshot}
    (h : k.check H d = .ok (some base)) : ∃ current, snapshot H d current = .ok base := by
  rw [CompactionCall.check] at h
  obtain ⟨_, -, h⟩ := bind_ok.1 h
  obtain ⟨_, -, h⟩ := bind_ok.1 h
  obtain ⟨binding, -, h⟩ := bind_ok.1 h
  obtain ⟨current, -, h⟩ := bind_ok.1 h
  split_ifs at h
  · cases h
  · obtain ⟨base', hplan, heq⟩ := map_ok.1 h
    cases heq
    rw [CompactionCall.check_plan] at hplan
    obtain ⟨current', -, hplan⟩ := bind_ok.1 hplan
    obtain ⟨_, -, hplan⟩ := bind_ok.1 hplan
    obtain ⟨_, -, hplan⟩ := bind_ok.1 hplan
    obtain ⟨_, -, hplan⟩ := bind_ok.1 hplan
    split at hplan
    · cases hplan
    · obtain ⟨_, -, hplan⟩ := bind_ok.1 hplan
      obtain ⟨_, -, hplan⟩ := bind_ok.1 hplan
      obtain ⟨_, -, hplan⟩ := bind_ok.1 hplan
      obtain ⟨_, -, hplan⟩ := bind_ok.1 hplan
      obtain ⟨_, -, hplan⟩ := bind_ok.1 hplan
      exact ⟨current', hplan⟩

theorem wrote_compaction {d : Disk} (hd : Contents NamedRows d) {k : CompactionCall}
    {base : Snapshot} (h : k.check H d = .ok (some base)) : Wrote NamedRows (k.writes H base) := by
  obtain ⟨current, hbase⟩ := compaction_base h
  refine (((Wrote.append ?_ ?_).append ?_).append ?_).append ?_
  · intro p x _ hw
    simp only [List.mem_flatMap, CompactionCall.segment_writes] at hw
    obtain ⟨s, -, hw⟩ | ⟨s, -, hw⟩ := hw <;> split_ifs at hw
    · exact absurd hw List.not_mem_nil
    · simp [write_segment] at hw
    · exact absurd hw List.not_mem_nil
    · simp only [write_segment, List.mem_cons, reduceCtorEq, List.not_mem_nil, or_false] at hw
      cases hw
      have hrow (row : Json) (hrow : row ∈ active_rows H base s) :=
        named_of_snapshot hd hbase row (List.mem_filter.1 hrow).1
      exact namedRows_of_rows (fun row h => (hrow row h).2) fun row h => (hrow row h).1
  · exact Segmentless.wrote (by simp [Segmentless])
  · refine Segmentless.wrote ?_
    simp [Segmentless, CompactionCall.stage_writes, write_receipt, sync_protected]
  · exact Segmentless.wrote (by simp [Segmentless, CompactionCall.move_writes])
  · refine Segmentless.wrote ?_
    simp [Segmentless, CompactionCall.audit_writes, write_receipt, sync_protected]

/-- Every record of a reachable store is named. -/
theorem Reachable.named {d : Disk} (h : Reachable H d) : Contents NamedRows d :=
  h.contents (fun _ _ _ _ _ _ _ hx => nomatch hx) (fun i => (segmentless_init i).wrote)
    (fun now receipt => (segmentless_spend now receipt).wrote)
    (fun _ hreq hprep => wrote_commit hreq hprep) (fun hd hcheck => wrote_compaction hd hcheck)
    (segmentless_cleanup _ _ _).wrote

end AnKla
