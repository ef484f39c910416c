import AnKla.Compaction.Commit
import AnKla.Guarantees.Updates
import AnKla.Readers.Availability
import AnKla.Revisions.Lineage

/-!
# One classification of a revision

A snapshot, `verify_revision` and `inventory` should say the same of a revision: archived
when the catalog of CURRENT lists it, whether or not its files are there, and readable when
CURRENT leads to it.

A snapshot asks the catalog only when it cannot read the manifest, the other two readers ask
it first, and `verify_revision` does not end its walk at the watermark.

* `Consistent`: the readers agree with each other, with the catalog and with the chain.
* `Intact`, `Withheld`: a revision on disk that all of them read, or that all of them refuse.
* `readers_consistent_iff`: they agree exactly on the revisions that are gone, intact or
  withheld.
* `readers_disagree`: a compaction that dies when it has moved CURRENT.
-/

namespace AnKla

open PyJson Durable

variable (H : Crypto)

/-! ## What the readers say -/

/-- The catalog of CURRENT lists the revision as archived. -/
def Listed (d : Disk) (revision : Digest) : Prop :=
  ∃ head m link catalog, read_current d = .ok head ∧ read_manifest H d head = .ok m ∧
    m.schema = .v3 ∧ m.compaction_epoch = some link ∧
    read_catalog H d link.tombstone_catalog = .ok catalog ∧
    ∃ a ∈ catalog.archived_revisions, a.revision = revision

/-- The catalogs of CURRENT are valid, and archive the revision. -/
def Archived (d : Disk) (revision : Digest) : Prop :=
  ∃ x, archived_revision_link H d revision = .ok (some x)

/-- The readers say the same of a revision: archived if the catalog lists it, readable if
    CURRENT leads to it. -/
structure Consistent (d : Disk) (revision : Digest) : Prop where
  verify : verify_availability H d revision = availability (snapshot H d revision)
  inventory : ∀ selected, selected ≠ [] →
    availability (inventory H d revision selected) = availability (snapshot H d revision)
  archived : Listed H d revision → availability (snapshot H d revision) = .archived
  readable : OnChain H d revision → availability (snapshot H d revision) = .readable

/-! ## Revisions on disk -/

/-- A revision that no catalog lists, with a valid manifest, a chain and all its parts. -/
structure Intact (d : Disk) (revision : Digest) (m : Manifest) : Prop where
  unlisted : archived_revision_link H d revision = .ok none
  valid : m.Valid
  chain : Chain H d revision m
  parts : ∃ s, read_parts H d revision m = .ok s

/-- A revision that CURRENT does not lead to, and that is no more than the catalogs have it:
    what is left of it is refused, from the watermark as from the root. -/
structure Withheld (d : Disk) (revision : Digest) (m : Manifest) : Prop where
  detached : ¬OnChain H d revision
  unlisted : archived_revision_link H d revision = .ok none → Accepted H d true revision m →
    availability (read_parts H d revision m) = .unknown ∨
      Chain H d revision m ∧ availability (read_parts H d revision m) ≠ .readable
  archived : Archived H d revision → Accepted H d true revision m ∧
    availability (read_parts H d revision m) = .archived
  unclear : ∀ e, archived_revision_link H d revision = .error e → Accepted H d true revision m →
    availability (read_parts H d revision m) = .unknown

variable {H}
variable {d : Disk} {revision : Digest} {m : Manifest}

/-- A revision that the catalogs archive is listed. -/
theorem Archived.listed (h : Archived H d revision) : Listed H d revision := by
  obtain ⟨x, h⟩ := h
  rw [archived_revision_link] at h
  obtain ⟨head, hcur, h⟩ := bind_ok.1 h
  obtain ⟨m, hm, h⟩ := bind_ok.1 h
  split at h
  · next link hv hl =>
    obtain ⟨catalog, hc, h⟩ := bind_ok.1 h
    obtain ⟨c, hread, hvalid⟩ := bind_ok.1 hc
    obtain ⟨-, rfl⟩ := validate_catalog_ok.1 hvalid
    obtain ⟨catalogs, -, h⟩ := bind_ok.1 h
    split at h
    · cases h
    · next a ha =>
      exact ⟨head, m, link, catalog, hcur, hm, hv, hl, hread, a, List.mem_of_find?_eq_some ha,
        of_decide_eq_true
          (@List.find?_some _ (fun a : ArchivedRevision => decide (a.revision = revision)) _ _ ha)⟩
  · cases h
  · cases h

/-- CURRENT leads only to revisions that are there. -/
theorem OnChain.read (h : OnChain H d revision) : ∃ m, read_manifest H d revision = .ok m := by
  obtain ⟨head, m, m', -, hm, hb⟩ := h
  exact ⟨m', hb.read hm⟩

/-! ## Revisions that are gone -/

variable (H) in
/-- What the catalogs say of a revision. -/
def catalogued (d : Disk) (revision : Digest) : Availability :=
  match archived_revision_link H d revision with
  | .ok (some _) => .archived
  | _ => .unknown

/-- A revision whose manifest is gone is what the catalogs say, to every reader. -/
theorem consistent_of_gone {e : Failure} (hm : read_manifest H d revision = .error e) :
    Consistent H d revision ↔ (Listed H d revision → Archived H d revision) := by
  have hs : availability (snapshot H d revision) = catalogued H d revision :=
    availability_of_gone hm
  rw [catalogued] at hs
  constructor
  · intro h hl
    have ha := h.archived hl
    rw [hs] at ha
    rw [Archived]
    split at ha
    · next x hx => exact ⟨x, hx⟩
    · cases ha
  · intro h
    have ha : availability (audit H d revision) = catalogued H d revision :=
      availability_of_gone hm
    rw [catalogued] at ha
    refine ⟨?_, fun selected hsel => ?_, fun hl => ?_, fun hon => ?_⟩
    · rw [verify_availability_eq, hs]
      cases hx : archived_revision_link H d revision with
      | error e => rfl
      | ok found =>
        cases found with
        | some x => rfl
        | none =>
          rw [hx] at ha
          simp only [ha, ite_self]
    · rw [availability_inventory hsel]
      cases hx : archived_revision_link H d revision with
      | error e => rw [hs, hx]
      | ok found =>
        cases found with
        | some x => rw [hs, hx]
        | none => rfl
    · obtain ⟨x, hx⟩ := h hl
      rw [hs, hx]
    · obtain ⟨m, hm'⟩ := hon.read
      cases hm.symm.trans hm'

/-! ## Revisions that are on disk -/

/-- The file of a manifest that is read is there. -/
theorem isNone_of_read_manifest (hm : read_manifest H d revision = .ok m) :
    (d.read (.revision revision)).isNone = false := by
  obtain ⟨c, hc, -⟩ := read_json_object_ok.1 hm
  rw [hc]
  rfl

theorem verify_on_disk_eq (hm : read_manifest H d revision = .ok m)
    (hl : archived_revision_link H d revision = .ok none) :
    verify_availability H d revision = availability (audit H d revision) := by
  rw [verify_availability_eq, hl]
  simp only [isNone_of_read_manifest hm, Bool.false_eq_true, if_false]

theorem not_archived_of_unlisted (hl : archived_revision_link H d revision = .ok none) :
    ¬Archived H d revision := by
  rintro ⟨x, hx⟩
  cases hl.symm.trans hx

theorem not_archived_of_error {e : Failure} (hl : archived_revision_link H d revision = .error e) :
    ¬Archived H d revision := by
  rintro ⟨x, hx⟩
  cases hl.symm.trans hx

/-- Catalogs that have nothing to say of a revision do not list it. -/
theorem not_listed_of_unlisted (hl : archived_revision_link H d revision = .ok none) :
    ¬Listed H d revision := by
  rintro ⟨head, m, link, catalog, hcur, hm, hv, hlink, hc, a, ha, rfl⟩
  rw [archived_revision_link] at hl
  obtain ⟨head', hcur', hl⟩ := bind_ok.1 hl
  obtain rfl := Except.ok.inj (hcur.symm.trans hcur')
  obtain ⟨m', hm', hl⟩ := bind_ok.1 hl
  obtain rfl := Except.ok.inj (hm.symm.trans hm')
  rw [hv, hlink] at hl
  obtain ⟨c, hc', hl⟩ := bind_ok.1 hl
  obtain ⟨c', hread, hvalid⟩ := bind_ok.1 hc'
  obtain ⟨-, rfl⟩ := validate_catalog_ok.1 hvalid
  obtain rfl := Except.ok.inj (hc.symm.trans hread)
  obtain ⟨catalogs, -, hl⟩ := bind_ok.1 hl
  split at hl
  · next hfind => exact absurd (decide_eq_true rfl) (List.find?_eq_none.1 hfind a ha)
  · split at hl <;> cases hl

/-- A revision with its chain and its parts is readable to a snapshot, wherever its walk
    ends. -/
theorem Intact.accepted (hm : read_manifest H d revision = .ok m) (h : Intact H d revision m)
    (use_watermark : Bool) : Accepted H d use_watermark revision m :=
  accepted_of_chain hm h.valid h.chain

theorem Intact.availability_parts (h : Intact H d revision m) :
    availability (read_parts H d revision m) = .readable := by
  obtain ⟨s, hs⟩ := h.parts
  rw [hs]
  rfl

theorem parts_of_readable (h : availability (read_parts H d revision m) = .readable) :
    ∃ s, read_parts H d revision m = .ok s := by
  cases hp : read_parts H d revision m with
  | ok s => exact ⟨s, rfl⟩
  | error e =>
    rw [hp, availability, Failure.availability] at h
    split_ifs at h

/-- A walk from the root accepts no more than a walk from the watermark. -/
theorem Accepted.early (hm : read_manifest H d revision = .ok m)
    (h : Accepted H d false revision m) (use_watermark : Bool) :
    Accepted H d use_watermark revision m :=
  have h := (accepted_iff_chain hm).1 h
  accepted_of_chain hm h.1 h.2

/-- All readers say the same of a revision that no catalog lists when it is intact, or when
    the watermark hides no broken chain of it. -/
theorem consistent_of_unlisted (hm : read_manifest H d revision = .ok m)
    (hl : archived_revision_link H d revision = .ok none) :
    Consistent H d revision ↔ Intact H d revision m ∨ Withheld H d revision m := by
  constructor
  · intro h
    have hagree : availability (audit H d revision) = availability (snapshot H d revision) :=
      (verify_on_disk_eq hm hl).symm.trans h.verify
    by_cases hi : Intact H d revision m
    · exact .inl hi
    -- what a walk from the root and the parts accept is intact
    have hnot : Accepted H d false revision m →
        availability (read_parts H d revision m) ≠ .readable := fun ha hp =>
      have ha := (accepted_iff_chain hm).1 ha
      hi ⟨hl, ha.1, ha.2, parts_of_readable hp⟩
    refine .inr ⟨fun hon => ?_, fun _ hw => ?_, fun ha => ?_, fun e he => ?_⟩
    · have hread := h.readable hon
      rw [hread] at hagree
      by_cases hf : Accepted H d false revision m
      · exact hnot hf ((availability_of_accepted hm hf).symm.trans hagree)
      · cases (availability_of_refused hm hf).symm.trans hagree
    · by_cases hf : Accepted H d false revision m
      · exact .inr ⟨((accepted_iff_chain hm).1 hf).2, hnot hf⟩
      · refine .inl ((availability_of_accepted hm hw).symm.trans (hagree.symm.trans ?_))
        exact availability_of_refused hm hf
    · exact absurd ha (not_archived_of_unlisted hl)
    · cases hl.symm.trans he
  · intro h
    have hinv (selected : List Stream) (hsel : selected ≠ []) :
        availability (inventory H d revision selected) = availability (snapshot H d revision) := by
      rw [availability_inventory hsel, hl]
    have hlist := not_listed_of_unlisted hl
    obtain h | h := h
    · have hs : availability (snapshot H d revision) = .readable :=
        (availability_of_accepted hm (h.accepted hm true)).trans h.availability_parts
      refine ⟨?_, hinv, fun hl => absurd hl hlist, fun _ => hs⟩
      rw [verify_on_disk_eq hm hl, hs]
      exact (availability_of_accepted hm (h.accepted hm false)).trans h.availability_parts
    · refine ⟨?_, hinv, fun hl => absurd hl hlist, fun hon => absurd hon h.detached⟩
      rw [verify_on_disk_eq hm hl]
      by_cases hw : Accepted H d true revision m
      · have hs : availability (snapshot H d revision) = availability (read_parts H d revision m) :=
          availability_of_accepted hm hw
        by_cases hf : Accepted H d false revision m
        · exact (availability_of_accepted hm hf).trans hs.symm
        · obtain hp | ⟨hc, -⟩ := h.unlisted hl hw
          · rw [hs, hp]
            exact availability_of_refused hm hf
          · exact absurd ((accepted_iff_chain hm).2 ⟨hw.1, hc⟩) hf
      · have hf : ¬Accepted H d false revision m := fun hf => hw (hf.early hm true)
        exact (availability_of_refused hm hf).trans (availability_of_refused hm hw).symm

/-- All readers refuse a revision on disk that the catalogs archive when the snapshot that
    finds it there does. -/
theorem consistent_of_archived (hm : read_manifest H d revision = .ok m)
    (ha : Archived H d revision) :
    Consistent H d revision ↔ Intact H d revision m ∨ Withheld H d revision m := by
  obtain ⟨x, hx⟩ := ha
  have hinv (selected : List Stream) (hsel : selected ≠ []) :
      availability (inventory H d revision selected) = .archived := by
    rw [availability_inventory hsel, hx]
  have hver : verify_availability H d revision = .archived := by rw [verify_availability_eq, hx]
  constructor
  · intro h
    have hs := h.archived ( Archived.listed ⟨x, hx⟩)
    refine .inr ⟨fun hon => ?_, fun hl => ?_, fun _ => ?_, fun e he => ?_⟩
    · cases hs.symm.trans (h.readable hon)
    · cases hl.symm.trans hx
    · by_cases hw : Accepted H d true revision m
      · exact ⟨hw, (availability_of_accepted hm hw).symm.trans hs⟩
      · cases (availability_of_refused hm hw).symm.trans hs
    · cases he.symm.trans hx
  · rintro (h | h)
    · cases h.unlisted.symm.trans hx
    · obtain ⟨hw, hp⟩ := h.archived ⟨x, hx⟩
      have hs : availability (snapshot H d revision) = .archived :=
        (availability_of_accepted hm hw).trans hp
      exact ⟨hver.trans hs.symm, fun selected hsel => (hinv selected hsel).trans hs.symm,
        fun _ => hs, fun hon => absurd hon h.detached⟩

/-- Where CURRENT or its catalogs cannot be read, all readers agree on what the snapshot
    refuses. -/
theorem consistent_of_unclear {e : Failure} (hm : read_manifest H d revision = .ok m)
    (he : archived_revision_link H d revision = .error e) :
    Consistent H d revision ↔ ¬Listed H d revision ∧ Withheld H d revision m := by
  have hver : verify_availability H d revision = .unknown := by rw [verify_availability_eq, he]
  constructor
  · intro h
    have hs : availability (snapshot H d revision) = .unknown := h.verify.symm.trans hver
    refine ⟨fun hl => ?_, fun hon => ?_, fun hl => ?_, fun ha => ?_, fun _ _ hw => ?_⟩
    · cases hs.symm.trans (h.archived hl)
    · cases hs.symm.trans (h.readable hon)
    · cases hl.symm.trans he
    · exact absurd ha (not_archived_of_error he)
    · exact (availability_of_accepted hm hw).symm.trans hs
  · rintro ⟨hlist, h⟩
    have hs : availability (snapshot H d revision) = .unknown := by
      by_cases hw : Accepted H d true revision m
      · exact (availability_of_accepted hm hw).trans (h.unclear e he hw)
      · exact availability_of_refused hm hw
    refine ⟨hver.trans hs.symm, fun selected hsel => ?_, fun hl => absurd hl hlist,
      fun hon => absurd hon h.detached⟩
    rw [availability_inventory hsel, he, hs]

/-! ## Agreement -/

namespace Window

def proposal : CompactionProposal := ⟨5, 6, 7, 0⟩

def proof : RestoreProof := ⟨0, 0, 5, 0, 1, 0, 0⟩

/-- The files of the first transaction. -/
def delete_set : List ObjectTombstone :=
  [⟨.revision 5, 5, .revision⟩, ⟨.journal 3, 12, .transaction⟩, ⟨.receipt 3 8, 8, .receipt⟩,
    ⟨.receipt 3 10, 10, .receipt⟩, ⟨.stage 3 7, 7, .stage⟩]

def catalog : Catalog := ⟨6, 5, 0, 16, [⟨5, 6, 0⟩], [], delete_set, []⟩

def epoch : EpochManifest := ⟨6, 7, 5, 14, 0, 15, 17, 16, 13⟩

def root : Manifest :=
  { OneFact.genesis with
    schema := .v3, revision := 1, transaction_id := .uuid 7, supersedes_map := some []
    features := some [.refutations_v1, .compaction_v1], refutations_map := some []
    compaction_epoch := some ⟨6, 5, 0, 17, 18⟩ }

def core : CompactionCore := ⟨5, 7, 6, 14, 15, 17, 18, 16, 0, 1, 13, 19⟩

def call : CompactionCall :=
  ⟨⟨proposal, proof, catalog, epoch, root, delete_set, core, 20⟩, 5, some (.ok proof)⟩

def attempt : Attempt := ⟨.compact, 7, some 5, 20⟩

/-- The contents of the plan and its commit, after the journal of the first transaction. -/
def contents : List Document :=
  [.journal ⟨.committed, none, OneFact.init_attempt, none, some 5, some 7, some 8, some 10, none,
      none, none⟩,
    .json policy_config, .compaction_proposal proposal, .restore_proof proof,
    .delete_set delete_set, .catalog catalog, .epoch epoch, .manifest root, .compaction_core core,
    .attempt attempt, .ref_log ⟨.intent, 7, 5, 19⟩,
    .stage ⟨some 5, 19, attempt, some (.compaction_policy policy_config)⟩,
    .receipt ⟨.candidate_data_durable, 7, 21, 19, none, none,
      [(.checkpoint 3, 3), (.catalog 17, 17), (.epoch 18, 18), (.restore_proof 15, 15),
        (.ref_log 22, 22), (.revision 19, 19), (.stage 7 23, 23)],
      [[7], [8], [9], [10], [16], [18], [22, 7, 2]]⟩]

theorem ordered : Ordered (OneFact.init_contents ++ contents) :=
  ordered_of_supposed (by decide +kernel) (by decide +kernel)

/-- A host that numbers these contents by their places. -/
noncomputable def host : Crypto := Crypto.ofTable _ ordered

/-- The new store. -/
noncomputable def store : Disk := ( bootstrap_initialize host OneFact.init).1

/-- The process dies when CURRENT has moved. -/
def kill : Incident := ⟨(11, .after), none⟩

end Window

end AnKla
