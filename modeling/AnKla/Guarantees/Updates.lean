import AnKla.Guarantees.Segments
import AnKla.Initialization
import AnKla.Transactions.Base

/-!
# No lost or duplicated update

Clients plan on a revision that they read without the lock and commit later, in any
order and with any incidents. A commit moves CURRENT from the base of its plan, or
leaves it alone.

* `Extends`: CURRENT is a child of the CURRENT before, whose records are the
  parent's followed by those of one plan.
* `commit_extends_iff`: one commit.
* `updates_extend_iff`: every event of every run.
-/

namespace AnKla

open PyJson Durable

variable (H : Crypto)

/-- CURRENT has moved from a revision to a child of it. The records of the child are
    those of its parent, in their order, followed by the new ones, under distinct ids. -/
structure Extends (d d' : Disk) (parent : Digest) (rows : PerStream (List Json)) : Prop where
  before : read_current d = .ok parent
  child : ∃ id m p old new, read_current d' = .ok id ∧ read_manifest H d' id = .ok m ∧
    m.parent = some parent ∧ read_manifest H d parent = .ok p ∧ read_records H d p = .ok old ∧
    read_records H d' m = .ok new ∧ ∀ s, new.get s = old.get s ++ rows.get s ∧
      ((new.get s).map record_id).Nodup

variable {H}

/-! ## One commit -/

/-- Segments that a disk has, and another one keeps, read the same. -/
theorem read_segments_of_kept {d d' : Disk} {stream : Stream} {ids : List Digest}
    {rows all : List Json}
    (hkept : ∀ {p x}, Filed H p x → d.read p = some x → d'.read p = some x)
    (h : read_segments H d stream rows ids = .ok all) :
    read_segments H d' stream rows ids = .ok all := by
  induction ids generalizing rows with
  | nil => exact h
  | cons id ids ih =>
    rw [read_segments] at h ⊢
    obtain ⟨new, hn, h⟩ := bind_ok.1 h
    obtain ⟨mid, hm, h⟩ := bind_ok.1 h
    obtain ⟨text, hr, hf⟩ := read_segment_filed hn
    refine bind_ok.2 ⟨new, ?_, bind_ok.2 ⟨mid, hm, ih h⟩⟩
    rw [read_segment_congr ((hkept hf hr).trans hr.symm), hn]

/-- What is read of segments depends on their files alone. -/
theorem read_records_congr {d e : Disk} {m : Manifest}
    (h : ∀ s id, e.read (.segment s id) = d.read (.segment s id)) :
    read_records H e m = read_records H d m := by
  have hseg (s : Stream) (rows : List Json) (ids : List Digest) :
      read_segments H e s rows ids = read_segments H d s rows ids := by
    induction ids generalizing rows with
    | nil => rfl
    | cons id ids ih => simp only [read_segments, read_segment_congr (h s id), ih]
  simp only [read_records, hseg]

/-- The rows that a request adds to a stream are filed in a segment of their own. -/
theorem Moved.segment {c : CommitRequest} {base : Snapshot} {m : Manifest} {d d' : Disk}
    (h : Moved H c base m d d') {s : Stream} (hne : c.pending.get s ≠ []) :
    d'.read (.segment s (segment_id H (c.pending.get s))) =
      some (.segment (writeLines (c.pending.get s))) := by
  refine h.created ⟨rfl, rfl⟩ (List.mem_append_left _ ?_)
  rw [CommitRequest.object_writes, List.cons_append, List.cons_append]
  refine List.mem_cons_of_mem _ (List.mem_append_left _ (List.mem_append_left _ ?_))
  refine List.mem_map.2 ⟨(s, c.pending.get s), ?_, rfl⟩
  rw [CommitRequest.new_rows, List.mem_filter]
  exact ⟨List.mem_map.2 ⟨s, s.mem_STREAMS, rfl⟩, by simpa using hne⟩

/-- What the candidate of a commit that moved CURRENT reads as. -/
theorem Moved.records_iff {c : CommitRequest} {base : Snapshot} {m : Manifest} {d d' : Disk}
    (h : Moved H c base m d d') (hp : Prepared H c d base)
    (hs : ∀ s, ∀ row ∈ c.pending.get s, Storable row) (raw : PerStream (List Json)) :
    read_records H d' m = .ok raw ↔
      (∀ s, ∀ row ∈ c.pending.get s, row.BreakFree) ∧
        ∀ s, raw.get s = base.raw_records.get s ++ c.pending.get s := by
  obtain ⟨entry, hchild⟩ := CommitRequest.manifest_child h.manifest
  have hbase := read_records_ok.1 (snapshot_reads hp.read).raw
  have hold (s : Stream) : read_segments H d' s [] (base.manifest.segments.get s) =
      .ok (base.raw_records.get s) := read_segments_of_kept h.kept (hbase s)
  have hids (s : Stream) : m.segments.get s = base.manifest.segments.get s ++
      if c.pending.get s = [] then [] else [segment_id H (c.pending.get s)] := by
    rw [hchild.segments, CommitRequest.segment_ids, PerStream.get_ofFn]
  -- stream by stream: the new segment is read exactly when it holds no raw line break
  have hstream (s : Stream) (rows : List Json) :
      read_segments H d' s [] (m.segments.get s) = .ok rows ↔
        (∀ row ∈ c.pending.get s, row.BreakFree) ∧
          rows = base.raw_records.get s ++ c.pending.get s := by
    rw [hids]
    by_cases hne : c.pending.get s = []
    · rw [if_pos hne, List.append_nil, hold s, hne, List.append_nil, Except.ok.injEq, eq_comm]
      exact ⟨fun hr => ⟨fun row hrow => absurd hrow List.not_mem_nil, hr⟩, And.right⟩
    · rw [if_neg hne]
      obtain ⟨h1, h2, h3⟩ := assign_records_ok hp.rows s
      rw [map_record_id_records hp.read] at h3
      constructor
      · intro hread
        obtain ⟨mid, hmid, hlast⟩ := read_segments_append.1 hread
        obtain rfl := Except.ok.inj ((hold s).symm.trans hmid)
        simp only [read_segments, bind_ok] at hlast
        obtain ⟨new, hnew, all, hall, hlast⟩ := hlast
        obtain rfl := eq_of_read_segment hnew (hs s)
        obtain rfl := Except.ok.inj hlast
        exact ⟨read_segment_of_break hnew, (add_rows_ok.1 hall).1⟩
      · rintro ⟨hb, rfl⟩
        have hread := read_segment_of_lines (h.segment hne) hne (hs s) hb
        exact appends_of_read_segment hread _ _ (hold s) h1 h2 h3
  rw [read_records_ok]
  simp only [hstream, forall_and]

/-- A commit leaves CURRENT alone, or CURRENT was the base of its plan. Then it is a
    child of it with the plan's records added, exactly when no string of these holds a
    raw line break. -/
theorem commit_extends_iff (g : Governed) (incident : Option Incident) (d : Disk) :
    (g.commit H incident d).1.read .current = d.read .current ∨
      read_current d = .ok g.base ∧
        (Extends H d (g.commit H incident d).1 g.base g.records ↔
          ∀ s, ∀ row ∈ g.records.get s, row.BreakFree) := by
  obtain h | ⟨d₀, c, base, m, hspends, hreq, hprep, hmoved⟩ := g.moves (H := H) incident d
  · exact .inl h
  set d' := (g.commit H incident d).1
  have hp := prepared hprep
  have hsame {p : Path} (ht : ∀ t, p ≠ .tombstone t) (hq : ∀ n, p ≠ .quarantine n) :
      d₀.read p = d.read p := hspends.read ht hq
  have hcur₀ : read_current d₀ = read_current d := by
    rw [read_current, read_current, hsame (by simp) (by simp)]
  have hbase : c.observed = g.base := hreq.binds.1
  have hcur : read_current d = .ok c.observed := hcur₀ ▸ hmoved.before
  obtain ⟨hpending, hstorable⟩ := hreq.pending hcur
  have hiff := hmoved.records_iff hp fun s row hrow => hstorable s row (hpending ▸ hrow)
  rw [hpending] at hiff
  have hreads := snapshot_reads hp.read
  obtain ⟨entry, hchild⟩ := CommitRequest.manifest_child hmoved.manifest
  refine .inr ⟨hbase ▸ hcur, ⟨fun hext => ?_, fun hb => ⟨hbase ▸ hcur, ?_⟩⟩⟩
  · obtain ⟨id, m', p, old, new, hid, hm', -, -, -, hnew, -⟩ := hext.child
    obtain rfl := Except.ok.inj (hmoved.after.symm.trans hid)
    obtain rfl := Except.ok.inj (hmoved.read_candidate.symm.trans hm')
    exact ((hiff _).1 hnew).1
  · let new : PerStream (List Json) := .ofFn fun s => base.raw_records.get s ++ g.records.get s
    have hnew (s : Stream) : new.get s = base.raw_records.get s ++ g.records.get s :=
      PerStream.get_ofFn _ s
    have hread := (hiff _).2 ⟨hb, hnew⟩
    have hparent : read_manifest H d g.base = .ok base.manifest := by
      rw [← hbase, ← hreads.manifest]
      exact (read_manifest_congr (hsame (by simp) (by simp))).symm
    have hold : read_records H d base.manifest = .ok base.raw_records := by
      rw [← hreads.raw]
      exact (read_records_congr fun s id => hsame (by simp) (by simp)).symm
    refine ⟨_, m, base.manifest, base.raw_records, new, hmoved.after, hmoved.read_candidate,
      by rw [hchild.parent, hbase], hparent, hold, hread, fun s => ⟨hnew s, ?_⟩⟩
    exact (nodup_of_read_segments (read_records_ok.1 hread s)
      ⟨List.nodup_nil, fun _ hrow => absurd hrow List.not_mem_nil⟩).1

/-! ## Runs -/

/-- What an event does to the store: planning writes nothing, a commit leaves CURRENT
    alone or extends it by its plan. -/
def Updates (d d' : Disk) : Event → Prop
  | .plan _ => d' = d
  | .commit _ g _ => d'.read .current = d.read .current ∨
      Extends H d d' g.base g.records

/-- No string of the records of a plan holds a raw line break. -/
def Event.BreakFree : Event → Prop
  | .plan _ => True
  | .commit _ g _ => ∀ s, ∀ row ∈ g.records.get s, row.BreakFree

/-- A commit that moves CURRENT and holds a raw line break is no update. -/
theorem not_updates_of_break {g : Governed} {n : ℕ} {incident : Option Incident} {d : Disk}
    {stream : Stream} {row : Json} (hrow : row ∈ g.records.get stream) (hb : ¬row.BreakFree)
    (hne : (g.commit H incident d).1.read .current ≠ d.read .current) :
    ¬Updates (H := H) d (g.commit H incident d).1 (.commit n g incident) := by
  intro hup
  rw [Updates] at hup
  obtain hsame | ⟨-, hiff⟩ := commit_extends_iff (H := H) g incident d
  · exact hne hsame
  · exact hb (hiff.1 (hup.resolve_left hne) stream row hrow)

/-- In every run of any number of clients, every event either leaves CURRENT alone, or
    it commits on the CURRENT that it finds, and extends it by its plan exactly when no
    string of the plan's records holds a raw line break. -/
theorem updates_extend_iff (s : World) (es : List Event) (e : Event) :
    ((s.run H es).step H e).disk.read .current = (s.run H es).disk.read .current ∨
      (∃ n g incident, e = .commit n g incident ∧ read_current (s.run H es).disk = .ok g.base) ∧
        (Updates (H := H) (s.run H es).disk ((s.run H es).step H e).disk e ↔ e.BreakFree) := by
  cases e with
  | plan n => exact .inl rfl
  | commit n g incident =>
    rw [World.step]
    split_ifs with hseen
    · obtain h | ⟨hbase, hiff⟩ := commit_extends_iff (H := H) g incident (s.run H es).disk
      · exact .inl h
      · by_cases hsame : (g.commit H incident (s.run H es).disk).1.read .current =
            (s.run H es).disk.read .current
        · exact .inl hsame
        · refine .inr ⟨⟨n, g, incident, rfl, hbase⟩, ?_⟩
          rw [Updates, Event.BreakFree, ← hiff]
          exact or_iff_right hsame
    · exact .inl rfl

/-! ## A plan that verifies -/

section Verified

namespace WriteCall

variable (H) in
/-- The checks under the lock, of a plan that verifies. -/
def check_verified (w : WriteCall) (binding : Binding) (d : Disk) : Except Failure Digest := do
  let store_identity ← assert_unchanged H d binding w.expected_current_hash
  let base := Json.str (ident w.expected_current_hash)
  ensure (item w.proposal "base_revision" = base && item w.authority "base_revision" = base &&
    item (item w.plan "core") "base_revision" = base) base_changed
  return store_identity

theorem check_eq {w : WriteCall}
    (h : verify_write_plan H w.plan w.proposal w.authority (some w.decision) = .ok ())
    (binding : Binding) (d : Disk) : w.check H binding d = w.check_verified H binding d := by
  simp only [check, check_verified, h]
  rfl

end WriteCall

variable (H) in
/-- `commit_write_plan`, with these checks under the lock. -/
def commit_checking (check : Binding → Disk → Except Failure Digest) (w : WriteCall)
    (incident : Option Incident) (d : Disk) : Disk × Reply WriteResult :=
  match mutation_preflight H d, read_current d with
  | .error e, _ => (d, .raised e)
  | .ok _, .error e => (d, .raised e)
  | .ok binding, .ok observed =>
    if observed ≠ w.expected_current_hash then commit_replay H w binding observed incident d
    else match check binding d with
    | .error e => (d, .raised e)
    | .ok store_identity =>
      match enforce_for_commit H w incident d with
      | (d', .died) => (d', .died)
      | (d', .raised e) => (d', .raised e)
      | (d', .returned rest) => commit_checked H w binding store_identity rest d'

variable (H) in
/-- `commit_write_plan`, of a plan that verifies. -/
def commit_verified (w : WriteCall) (incident : Option Incident) (d : Disk) :
    Disk × Reply WriteResult := commit_checking H (w.check_verified H) w incident d

theorem commit_write_plan_eq {w : WriteCall}
    (h : verify_write_plan H w.plan w.proposal w.authority (some w.decision) = .ok ())
    (incident : Option Incident) (d : Disk) :
    commit_write_plan H w incident d = commit_verified H w incident d := by
  have hcheck : w.check H = w.check_verified H := funext₂ (WriteCall.check_eq h)
  have hcommit : commit_write_plan H w incident d = commit_checking H (w.check H) w incident d := rfl
  rw [hcommit, hcheck, commit_verified]

theorem Governed.commit_write (w : WriteCall) (incident : Option Incident) (d : Disk) :
    ((Governed.write w).commit H incident d).1 = (commit_write_plan H w incident d).1 := rfl

end Verified

/-! ## A store that is given one fact

A plan adds one fact to a new store. The fact holds U+2028. A first attempt to commit
the plan has died. -/

namespace OneFact

/-- What the host chooses for the new store. -/
def init : InitCall := ⟨1, 2, 3, "0.1", "/p"⟩

def init_attempt : Attempt := ⟨.init, 3, none, 4⟩

def genesis : Manifest where
  schema := .v1
  revision := 0
  parent := none
  segments := ⟨[], [], []⟩
  checkpoint := 3
  transaction_id := .uuid 3
  canonicalization := "canonical-json/v1"
  integrity_claim := "content_identity_not_truth_or_authorship"
  store_identity := some 1
  supersedes_map := none
  features := none
  refutations_map := none
  compaction_epoch := none

/-- The contents that a new store is made of, each after what it mentions. -/
def init_contents : List Document :=
  [.project_identity ⟨1, "0.1"⟩, .store_identity ⟨2, 1, 0, "/p", "0.1"⟩,
    .intent_core ⟨.init, ⟨1, "0.1"⟩, ⟨2, 1, 0, "/p", "0.1"⟩, none, some 3⟩,
    .json InitCall.checkpoint, .initialization InitCall.checkpoint (some 1), .manifest genesis,
    .attempt init_attempt, .stage ⟨none, 5, init_attempt, none⟩,
    .receipt ⟨.candidate_data_durable, 3, 6, 5, none, none,
      [(.checkpoint 3, 3), (.revision 5, 5), (.stage 3 7, 7)], [[7], [18], [22, 3, 2]]⟩,
    .current 5, .receipt ⟨.current_durable, 3, 6, 5, some 8, none, [(.current, 9)], [[15]]⟩,
    .identity_receipt ⟨.init, 2, 5, none, [(.immutable_intent 2, 2), (.identity 1, 1),
      (.store_identity, 1), (.current, 9), (.project_identity, 0)], [[], [2], [11], [15]]⟩]

def proposal : Json := dict
  [("schema", .str "an-kla/write-proposal-v1"), ("base_revision", .str (ident 5)),
    ("stream", .str "facts"), ("operation", .str "add"),
    ("requested_representation", .str "summary"), ("record", separatorFact),
    ("lineage", dict [("derived_from_retrieval", .bool false), ("refs", .arr [])])]

def authority : Json := dict
  [("schema", .str "an-kla/write-authority-v1"), ("proposal_sha256", .str (ident 14)),
    ("base_revision", .str (ident 5)), ("authority_class", .str "model_derived"),
    ("issuer", dict [("kind", .str "model"), ("id", .str "m"),
      ("configuration_fingerprint", .str (ident 13))]),
    ("evidence", .arr []),
    ("scope", dict [("streams", str_list ["facts"]), ("representations", str_list ["summary"]),
      ("operations", str_list ["add"])])]

def decision : Json := dict
  [("schema", .str "an-kla/write-decision-v1"), ("proposal_sha256", .str (ident 14)),
    ("authority_sha256", .str (ident 15)), ("policy_profile", .str write_policy_profile),
    ("policy_fingerprint", .str (ident 12)), ("decision", .str "write-summary"),
    ("reason_codes", str_list ["derived_authority_capped", "representation_accepted"])]

def planned : List Json := [planned_item proposal separatorFact none, policy_event authority decision]

def core : Json := dict
  [("base_revision", .str (ident 5)), ("proposal_sha256", .str (ident 14)),
    ("authority_sha256", .str (ident 15)), ("policy_fingerprint", .str (ident 12)),
    ("decision", .str "write-summary"), ("decision_sha256", .str (ident 16)),
    ("planned_records_sha256", .str (ident 17))]

def plan : Json := dict
  [("schema", .str "an-kla/write-plan-v1"), ("core", core), ("records", .arr planned),
    ("plan_fingerprint", .str (ident 18))]

/-- The commit of the plan, under the id 4. -/
def call : WriteCall := ⟨5, plan, proposal, authority, decision, some 4, 0, ""⟩

def attempt : Attempt := ⟨.write, 4, some 5, 18⟩

/-- The revision with the fact. -/
def child : Manifest :=
  { genesis with
    revision := 1, parent := some 5, segments := ⟨[19], [20], []⟩, transaction_id := .uuid 4 }

/-- The contents that the plan and its commit add. -/
def contents : List Document :=
  [.json policy_configuration, .json .null, .json proposal, .json authority, .json decision,
    .json (.arr planned), .json core, .segment (writeLines [separatorFact]),
    .segment (writeLines [item (policy_event authority decision) "record"]), .manifest child,
    .ref_log ⟨.intent, 4, 5, 21⟩, .attempt attempt,
    .stage ⟨some 5, 21, attempt, some (.write_policy call.metadata)⟩,
    .receipt ⟨.candidate_data_durable, 4, 23, 21, none, none,
      [(.checkpoint 3, 3), (.ref_log 22, 22), (.revision 21, 21), (.segment .events 20, 20),
        (.segment .facts 19, 19), (.stage 4 24, 24)],
      [[7], [16], [18], [20], [21], [22, 4, 2]]⟩,
    .current 21, .receipt ⟨.current_durable, 4, 23, 21, some 25, none, [(.current, 26)], [[15]]⟩,
    .ref_log ⟨.observed_commit 22, 4, 5, 21⟩]

theorem ordered : Ordered (init_contents ++ contents) :=
  ordered_of_supposed (by decide +kernel) (by decide +kernel)

/-- A host that numbers these contents by their places. -/
noncomputable def host : Crypto := Crypto.ofTable _ ordered

/-- The same commit under the id 9, which dies after its first write. -/
def lost : Governed := .write { call with transaction_id := some 9 }

/-- The new store, after that. -/
noncomputable def store : Disk :=
  (lost.commit host (some ⟨(1, .before), none⟩) ( bootstrap_initialize host init).1).1

/-! ### The files

The store and what the commit leaves, file by file: facts about them are evaluated on these
files, and not by running the commits again. -/

/-- A content at a path. -/
def file (p : Path) (i : ℕ) : Σ _ : Path, Document :=
  ⟨p, (init_contents ++ contents).getD i (.bytes 0)⟩

def init_journal : Journal where
  stage := .committed
  parent := none
  attempt := init_attempt
  policy := none
  candidate := some 5
  stage_object := some 7
  candidate_receipt := some 8
  current_receipt := some 10
  observed_log := none
  intent_id := none
  cleanup_receipt := none

/-- The journal that the lost commit left. -/
def lost_journal : Journal where
  stage := .prepared
  parent := some 5
  attempt := ⟨.write, 9, some 5, 18⟩
  policy := some (.write_policy call.metadata)
  candidate := none
  stage_object := none
  candidate_receipt := none
  current_receipt := none
  observed_log := none
  intent_id := none
  cleanup_receipt := none

def files : List (Σ _ : Path, Document) :=
  [⟨.journal 9, .journal lost_journal⟩,
    ⟨.identity_intent, .identity_intent ⟨⟨.init, ⟨1, "0.1"⟩, ⟨2, 1, 0, "/p", "0.1"⟩, none, some 3⟩,
      .complete⟩⟩,
    file (.identity_receipt 11) 11, ⟨.journal 3, .journal init_journal⟩, file (.receipt 3 10) 10,
    file .current 9, file (.receipt 3 8) 8, file (.stage 3 7) 7, file (.revision 5) 5,
    file (.checkpoint 3) 3, file .project_identity 0, file .store_identity 1,
    file (.identity 1) 1, file (.immutable_intent 2) 2]

/-- The store, file by file. -/
def opened : Disk where
  entries := files
  nodupKeys := by
    have h : (files.map fun f => f.1).Nodup := by decide +kernel
    exact h

theorem decided : verified_decision host proposal authority (some decision) = .ok decision := by
  decide +kernel

theorem built_plan : build_write_plan host proposal authority (some decision) = .ok plan := by
  have hbatch : is_batch proposal = false := by decide +kernel
  have hplan : plan_object host proposal decision (single_records proposal authority decision) =
      plan := by decide +kernel
  rw [build_write_plan, hbatch, if_neg (by decide), ← hplan]
  exact bind_ok.2 ⟨decision, decided, rfl⟩

theorem verified : verify_write_plan host plan proposal authority (some decision) = .ok () := by
  have hvalid : validate_write_plan plan = .ok () := by decide +kernel
  have hfingerprint : item plan "plan_fingerprint" = host.json_ident (item plan "core") := by
    decide +kernel
  have hrecords : item (item plan "core") "planned_records_sha256" =
      host.json_ident (item plan "records") := by decide +kernel
  have hcheck : check_write_plan host plan proposal authority (some decision) = .ok () :=
    bind_ok.2 ⟨(), hvalid, bind_ok.2 ⟨decision, decided, bind_ok.2 ⟨(),
      ensure_ok.2 (decide_eq_true hfingerprint), bind_ok.2 ⟨(),
        ensure_ok.2 (decide_eq_true hrecords), bind_ok.2 ⟨plan, built_plan,
          ensure_ok.2 (decide_eq_true rfl)⟩⟩⟩⟩⟩
  rw [verify_write_plan, hcheck]
  rfl

/-- What the lost commit leaves of the new store, as a function of the commit: the kernel
    then compares the two spellings of the commit and runs neither. -/
noncomputable def store_of (g : Governed) : Disk :=
  (g.commit host (some ⟨(1, .before), none⟩) ( bootstrap_initialize host init).1).1

theorem store_of_lost : store = store_of lost := rfl

theorem lost_files : (commit_verified host { call with transaction_id := some 9 }
    (some ⟨(1, .before), none⟩) ( bootstrap_initialize host init).1).1.entries = files := by
  decide +kernel

theorem lost_opened : (commit_verified host { call with transaction_id := some 9 }
    (some ⟨(1, .before), none⟩) ( bootstrap_initialize host init).1).1 = opened := by
  apply AList.ext
  rw [lost_files]
  rfl

theorem store_eq : store = opened := by
  have hlost : lost = .write { call with transaction_id := some 9 } := by rw [lost]
  rw [store_of_lost, hlost, store_of, Governed.commit_write,
    @commit_write_plan_eq host { call with transaction_id := some 9 } verified, lost_opened]

def committed_journal : Journal where
  stage := .committed
  parent := some 5
  attempt := attempt
  policy := some (.write_policy call.metadata)
  candidate := some 21
  stage_object := some 24
  candidate_receipt := some 25
  current_receipt := some 27
  observed_log := some 28
  intent_id := none
  cleanup_receipt := none

def committed_files : List (Σ _ : Path, Document) :=
  [⟨.journal 4, .journal committed_journal⟩, file (.ref_log 28) 28, file (.receipt 4 27) 27,
    ⟨.watermark, .watermark ⟨21, some 5, none⟩⟩, file .current 26, file (.receipt 4 25) 25,
    file (.stage 4 24) 24, file (.ref_log 22) 22, file (.revision 21) 21,
    file (.segment .events 20) 20, file (.segment .facts 19) 19] ++
  files.filter fun f => f.1 ≠ .current

/-- The store with the fact, file by file. -/
def committed : Disk where
  entries := committed_files
  nodupKeys := by
    have h : (committed_files.map fun f => f.1).Nodup := by decide +kernel
    exact h

/-- The files that a commit leaves, and what it answers. -/
def left (x : Disk × Reply WriteResult) : List (Σ _ : Path, Document) × Option (Bool × Json × Json) :=
  (x.1.entries, match x.2 with
    | .returned r => some (r.committed, r.decision, r.plan_fingerprint)
    | _ => none)

theorem left_call : left (commit_verified host call none opened) =
    (committed_files, some (true, .str "write-summary", item plan "plan_fingerprint")) := by
  decide +kernel

/-- The plan is accepted, and its commit leaves the store with the fact. -/
theorem commit_eq : ∃ r, commit_write_plan host call none store = (committed, .returned r) ∧
    r.committed = true ∧ r.decision = .str "write-summary" ∧
      r.plan_fingerprint = item plan "plan_fingerprint" := by
  have h := left_call
  rw [store_eq, @commit_write_plan_eq host call verified]
  generalize commit_verified host call none opened = x at h
  obtain ⟨d, reply⟩ := x
  obtain ⟨hd, hreply⟩ := Prod.mk.inj h
  obtain rfl : d = committed := AList.ext hd
  cases reply with
  | returned r =>
    obtain ⟨hcommitted, hrest⟩ := Prod.mk.inj (Option.some.inj hreply)
    obtain ⟨hdecision, hfingerprint⟩ := Prod.mk.inj hrest
    exact ⟨r, rfl, hcommitted, hdecision, hfingerprint⟩
  | _ => cases hreply

theorem commit_disk : ((Governed.write call).commit host none store).1 = committed := by
  obtain ⟨r, hr, -⟩ := commit_eq
  rw [Governed.commit_write, hr]

/-- The commit moves CURRENT to the revision with the fact. -/
theorem moves : store.read .current = some (.current 5) ∧
    ((Governed.write call).commit host none store).1.read .current = some (.current 21) := by
  rw [commit_disk, store_eq]
  decide +kernel

theorem mem_records : separatorFact ∈ (Governed.write call).records.get .facts := by
  decide +kernel

/-- Clients that have read the CURRENT of the store. -/
noncomputable def world : World := ⟨store, fun _ => some 5⟩

theorem world_disk : world.disk = store := by rw [world]

theorem world_seen (n : ℕ) : world.seen n = some (Governed.write call).base := by rw [world]; rfl

end OneFact

/-- A client commits a plan on the CURRENT that it has read, and CURRENT is then no
    revision with the plan's records. -/
theorem update_with_separator : ∃ (H : Crypto) (s : World) (es : List Event) (e : Event),
    ((s.run H es).step H e).disk.read .current ≠ (s.run H es).disk.read .current ∧
      ¬Updates (H := H) (s.run H es).disk ((s.run H es).step H e).disk e := by
  refine ⟨OneFact.host, OneFact.world, [], .commit 0 (.write OneFact.call) none, ?_⟩
  have hrun : OneFact.world.run OneFact.host [] = OneFact.world := rfl
  rw [hrun, World.step_commit none (OneFact.world_seen 0), OneFact.world_disk]
  have hne : ((Governed.write OneFact.call).commit OneFact.host none OneFact.store).1.read
      .current ≠ OneFact.store.read .current := by
    rw [OneFact.moves.1, OneFact.moves.2]
    simp
  have hbreak : ¬separatorFact.BreakFree := by
    intro hb
    simp only [separatorFact, Json.BreakFree, Json.BreakFreeItems, String.toList_ofList] at hb
    exact absurd (hb.2.2.2.1 '\u2028' (by decide)) (by decide)
  exact ⟨hne, not_updates_of_break OneFact.mem_records hbreak hne⟩

end AnKla
