import AnKla.Governed

/-!
# Disks that differ aside

Two disks that differ in nothing but their watermark and the receipts of transactions.
What the revisions and the evidence of transactions say is the same on both.

* `Beside`: the same files, those files apart.
* `Beside.required_candidate_files`, `Beside.candidate_relation` and their likes: readers
  that see no difference.
-/

namespace AnKla

open PyJson Durable

/-- The watermark and the receipts of transactions: no reader of revisions looks at them. -/
def Path.Aside (p : Path) : Prop := p = .watermark ∨ ∃ t id, p = .receipt t id

/-- The same files, but for those aside. -/
def Beside (d e : Disk) : Prop := ∀ p : Path, ¬p.Aside → e.read p = d.read p

theorem Beside.symm {d e : Disk} (h : Beside d e) : Beside e d := fun p hp => (h p hp).symm

namespace Beside

variable {H : Crypto} {d e : Disk}
variable (h : Beside d e)
include h

/-! ## Objects -/

theorem read_json_object {α : Type*} {kind : String} {path : Path} {id : Digest}
    {get : Document → Option α} (hp : ¬path.Aside) :
    AnKla.read_json_object H e kind path id get = AnKla.read_json_object H d kind path id get := by
  rw [AnKla.read_json_object, AnKla.read_json_object, h path hp]

theorem read_manifest (id : Digest) : AnKla.read_manifest H e id = AnKla.read_manifest H d id :=
  h.read_json_object (by simp [Path.Aside])

theorem read_checkpoint (id : Digest) :
    AnKla.read_checkpoint H e id = AnKla.read_checkpoint H d id := h.read_json_object (by simp [Path.Aside])

theorem read_stage (t : Uuid) (id : Digest) :
    AnKla.read_stage H e t id = AnKla.read_stage H d t id := h.read_json_object (by simp [Path.Aside])

theorem read_ref_log (id : Digest) : AnKla.read_ref_log H e id = AnKla.read_ref_log H d id :=
  h.read_json_object (by simp [Path.Aside])

theorem read_refutation (id : Digest) :
    AnKla.read_refutation H e id = AnKla.read_refutation H d id := h.read_json_object (by simp [Path.Aside])

theorem read_authority_claim (id : Digest) :
    AnKla.read_authority_claim H e id = AnKla.read_authority_claim H d id :=
  h.read_json_object (by simp [Path.Aside])

theorem read_authority_attestation (id : Digest) :
    AnKla.read_authority_attestation H e id = AnKla.read_authority_attestation H d id :=
  h.read_json_object (by simp [Path.Aside])

theorem read_identity (id : Digest) : AnKla.read_identity H e id = AnKla.read_identity H d id :=
  h.read_json_object (by simp [Path.Aside])

theorem read_catalog (id : Digest) : AnKla.read_catalog H e id = AnKla.read_catalog H d id :=
  h.read_json_object (by simp [Path.Aside])

theorem read_epoch (id : Digest) : AnKla.read_epoch H e id = AnKla.read_epoch H d id :=
  h.read_json_object (by simp [Path.Aside])

theorem read_restore_proof (id : Digest) :
    AnKla.read_restore_proof H e id = AnKla.read_restore_proof H d id :=
  h.read_json_object (by simp [Path.Aside])

theorem read_current : AnKla.read_current e = AnKla.read_current d := by
  rw [AnKla.read_current, AnKla.read_current, h .current (by simp [Path.Aside])]

theorem current? : AnKla.current? e = AnKla.current? d := by
  rw [AnKla.current?, AnKla.current?, h.read_current]

theorem journal (t : Uuid) : AnKla.journal e t = AnKla.journal d t := by
  rw [AnKla.journal, AnKla.journal, h (.journal t) (by simp [Path.Aside])]

/-- A directory without files aside has the same entries. -/
theorem listing {α : Type*} [LinearOrder α] {dir : Dir Path α} (hd : ∀ x, ¬(dir.path x).Aside) :
    dir.listing e = dir.listing d := Dir.listing_congr fun x => by rw [h _ (hd x)]

theorem listing_revisions : revisions.listing e = revisions.listing d := h.listing fun _ => by
  simp [revisions, Path.Aside]

theorem listing_ref_logs : ref_logs.listing e = ref_logs.listing d := h.listing fun _ => by
  simp [ref_logs, Path.Aside]

theorem listing_stages (t : Uuid) : (stages t).listing e = (stages t).listing d :=
  h.listing fun _ => by simp [stages, Path.Aside]

/-! ## Evidence -/

theorem manifest_candidates (t : Uuid) :
    AnKla.manifest_candidates H e t = AnKla.manifest_candidates H d t := by
  simp only [AnKla.manifest_candidates, h.listing_revisions, h.read_manifest]

theorem stage_evidence (t : Uuid) (c : Digest) :
    AnKla.stage_evidence H e t c = AnKla.stage_evidence H d t c := by
  simp only [AnKla.stage_evidence, h.listing_stages, h.read_stage]

theorem stage_attempts (t : Uuid) :
    AnKla.stage_attempts H e t = AnKla.stage_attempts H d t := by
  simp only [AnKla.stage_attempts, h.listing_stages, h.read_stage]

theorem named_stage (t : Uuid) : AnKla.named_stage e t = AnKla.named_stage d t := by
  rw [AnKla.named_stage, AnKla.named_stage, h.journal]

theorem exact_stage_path (t : Uuid) (c : Digest) (a : Attempt) :
    AnKla.exact_stage_path H e t c a = AnKla.exact_stage_path H d t c a := by
  simp only [AnKla.exact_stage_path, h.named_stage, h.listing_stages, h.read_stage]

theorem exact_intent_path (t : Uuid) (c : Digest) (p : Option Digest) :
    AnKla.exact_intent_path H e t c p = AnKla.exact_intent_path H d t c p := by
  simp only [AnKla.exact_intent_path, h.listing_ref_logs, h.read_ref_log]

theorem refutation_files (r : RefutationEntry) :
    AnKla.refutation_files H e r = AnKla.refutation_files H d r := by
  simp only [AnKla.refutation_files, h.read_refutation]

theorem operation_files (t : Uuid) (m : Manifest) (p : Option Manifest) (s : Stage) (a : Attempt) :
    AnKla.operation_files H e t m p s a = AnKla.operation_files H d t m p s a := by
  simp only [AnKla.operation_files.eq_def, h.read_epoch, h.read_refutation]

theorem read_parent (m : Manifest) : AnKla.read_parent H e m = AnKla.read_parent H d m := by
  simp only [AnKla.read_parent, h.read_manifest]

theorem intent_files (t : Uuid) (c : Digest) (m : Manifest) (a : Attempt) :
    AnKla.intent_files H e t c m a = AnKla.intent_files H d t c m a := by
  simp only [AnKla.intent_files, h.exact_intent_path]

theorem required_candidate_files (t : Uuid) (c : Digest) (a : Attempt) :
    AnKla.required_candidate_files H e t c a = AnKla.required_candidate_files H d t c a := by
  have hrefs : AnKla.refutation_files H e = AnKla.refutation_files H d := funext h.refutation_files
  simp only [AnKla.required_candidate_files, h.read_manifest, h.read_parent, hrefs,
    h.exact_stage_path, h.read_stage, h.operation_files, h.intent_files]

theorem observed_log_complete (j : Journal) (t : Uuid) (c : Digest) :
    AnKla.observed_log_complete H e j t c = AnKla.observed_log_complete H d j t c := by
  simp only [AnKla.observed_log_complete, h.read_ref_log]

/-! ## Chains -/

theorem verify_manifest_link (m : Manifest) :
    AnKla.verify_manifest_link H e m = AnKla.verify_manifest_link H d m := by
  simp only [AnKla.verify_manifest_link, h.read_identity]

theorem visit_catalog (v : CatalogVisit) (seen : CatalogWalk) :
    AnKla.visit_catalog H e v seen = AnKla.visit_catalog H d v seen := by
  simp only [AnKla.visit_catalog, h.read_catalog]

theorem walk_catalogs (n : ℕ) (queue : List CatalogVisit) (seen : CatalogWalk) :
    AnKla.walk_catalogs H e n queue seen = AnKla.walk_catalogs H d n queue seen := by
  induction n generalizing queue seen with
  | zero => cases queue <;> rfl
  | succ n ih =>
    cases queue with
    | nil => rfl
    | cons v queue => simp only [AnKla.walk_catalogs, h.visit_catalog, ih]

theorem validate_catalog_chain (id : Digest) :
    AnKla.validate_catalog_chain H e id = AnKla.validate_catalog_chain H d id :=
  h.walk_catalogs _ _ _

theorem validate_root (error : String → Failure) (id : Digest) (m : Manifest) :
    AnKla.validate_root H error e id m = AnKla.validate_root H error d id m := by
  simp only [AnKla.validate_root, validate_compaction_root, h.read_catalog, h.read_epoch,
    h.read_restore_proof, h.validate_catalog_chain, h.stage_evidence]

theorem validate_transition (error : String → Failure) (id : Digest) (m : Manifest)
    (parent_id : Digest) (p : Manifest) : AnKla.validate_transition H error e id m parent_id p =
      AnKla.validate_transition H error d id m parent_id p := by
  simp only [AnKla.validate_transition, refutation_bound, h.read_refutation, validate_stage_of,
    h.stage_evidence, h.required_candidate_files]

theorem chain_loop (error : String → Failure) (stop : Option Watermark) (n : ℕ) (id : Digest)
    (m : Manifest) (seen : List Digest) :
    AnKla.chain_loop H error stop e n id m seen = AnKla.chain_loop H error stop d n id m seen := by
  induction n generalizing id m seen with
  | zero => rfl
  | succ n ih => simp only [AnKla.chain_loop, h.validate_root, h.read_manifest,
      h.verify_manifest_link, h.validate_transition, ih]

theorem validate_revision_chain (error : String → Failure) (stop : Option Watermark) (id : Digest)
    (m : Manifest) : AnKla.validate_revision_chain H error stop e id m =
      AnKla.validate_revision_chain H error stop d id m := h.chain_loop _ _ _ _ _ _

theorem walk_loop (n : ℕ) (id : Digest) (child : Option ℕ) (seen : List Digest) :
    AnKla.walk_loop H e n id child seen = AnKla.walk_loop H d n id child seen := by
  induction n generalizing id child seen with
  | zero => rfl
  | succ n ih => simp only [AnKla.walk_loop, h.read_manifest, ih]

theorem walk_steps (id : Digest) : AnKla.walk_steps H e id = AnKla.walk_steps H d id := by
  simp only [AnKla.walk_steps, h.read_manifest, h.walk_loop]

theorem walk_revisions (id : Digest) :
    AnKla.walk_revisions H e id = AnKla.walk_revisions H d id := by
  simp only [AnKla.walk_revisions, h.walk_steps]

theorem candidate_relation (c current : Option Digest) :
    AnKla.candidate_relation H e c current = AnKla.candidate_relation H d c current := by
  simp only [AnKla.candidate_relation, relation_to_head, h.read_manifest, h.walk_revisions,
    h.validate_revision_chain]

/-! ## Receipts -/

omit h in
/-- No file that a candidate needs is aside. -/
theorem aside_not_required {t : Uuid} {a : Attempt} {c : Digest} {files : List Path} {p : Path}
    (hp : p.Aside) (hf : AnKla.required_candidate_files H d t c a = .ok files) : p ∉ files := by
  rw [AnKla.required_candidate_files] at hf
  obtain ⟨m, -, hf⟩ := bind_ok.1 hf
  obtain ⟨parent, -, hf⟩ := bind_ok.1 hf
  obtain ⟨refs, hrefs, hf⟩ := bind_ok.1 hf
  obtain ⟨stage_id, -, hf⟩ := bind_ok.1 hf
  obtain ⟨stage, -, hf⟩ := bind_ok.1 hf
  obtain ⟨extra, hex, hf⟩ := bind_ok.1 hf
  obtain ⟨intent, hi, hf⟩ := bind_ok.1 hf
  obtain rfl := pure_ok.1 hf
  have hrefs' : p ∉ refs.flatten := by
    intro hmem
    obtain ⟨fs, hfs, hmem⟩ := List.mem_flatten.1 hmem
    obtain ⟨r, -, hr⟩ := mem_of_mapM_ok hrefs hfs
    rw [AnKla.refutation_files] at hr
    obtain ⟨_, -, hr⟩ := bind_ok.1 hr
    obtain ⟨_, -, hr⟩ := bind_ok.1 hr
    obtain ⟨_, -, hr⟩ := bind_ok.1 hr
    obtain rfl := pure_ok.1 hr
    rcases hp with rfl | ⟨t, id, rfl⟩ <;> simp at hmem
  have hextra : p ∉ extra := by
    rw [AnKla.operation_files.eq_def] at hex
    split at hex
    · obtain ⟨_, -, hex⟩ := bind_ok.1 hex
      split at hex
      · cases hex
      · obtain ⟨_, -, hex⟩ := bind_ok.1 hex
        split at hex
        · cases hex
        · obtain ⟨_, -, hex⟩ := bind_ok.1 hex
          obtain rfl := pure_ok.1 hex
          rcases hp with rfl | ⟨t, id, rfl⟩ <;> simp
    · split at hex
      · obtain ⟨_, -, hex⟩ := bind_ok.1 hex
        obtain ⟨_, -, hex⟩ := bind_ok.1 hex
        obtain ⟨_, -, hex⟩ := bind_ok.1 hex
        obtain rfl := pure_ok.1 hex
        exact List.not_mem_nil
      · cases hex
    · obtain ⟨_, -, hex⟩ := bind_ok.1 hex
      obtain rfl := pure_ok.1 hex
      exact List.not_mem_nil
  have hintent : p ∉ intent := by
    rw [AnKla.intent_files] at hi
    split_ifs at hi
    · cases hi
      exact List.not_mem_nil
    all_goals
      obtain ⟨id, -, rfl⟩ := map_ok.1 hi
      rcases hp with rfl | ⟨t, id, rfl⟩ <;> simp
  rcases hp with rfl | ⟨t, id, rfl⟩ <;> simp [hrefs', hextra, hintent]

omit h in
theorem aside_not_expected {t : Uuid} {a : Attempt} {c : Digest} {r : Receipt}
    {files : List Path} {p : Path} (hp : p.Aside)
    (hf : AnKla.expected_files H d t a c r = .ok files) : p ∉ files := by
  have hne : p ≠ .current := by rcases hp with rfl | ⟨t, id, rfl⟩ <;> simp
  have hplus {x : Except Failure (List Path)} (hx : ∀ fs, x = .ok fs → p ∉ fs)
      (hf : (· ++ [.current]) <$> x = .ok files) : p ∉ files := by
    obtain ⟨fs, hfs, rfl⟩ := map_ok.1 hf
    simpa [hne] using hx fs hfs
  rw [AnKla.expected_files] at hf
  split_ifs at hf
  · exact aside_not_required hp hf
  · exact hplus (fun _ => aside_not_required hp) hf
  · exact aside_not_required hp hf
  · cases hf
    simpa using hne

/-- A receipt that is valid on one disk is valid on the other, if it is there: it is on
    nothing that is aside. -/
theorem validate_receipt_evidence {t : Uuid} {id : Digest} {a : Attempt} {c : Digest}
    {kind : ReceiptKind} {relation : Relation} {r : Receipt}
    (hread : read_receipt H e t id = read_receipt H d t id)
    (hr : AnKla.validate_receipt_evidence H d t id a c kind relation = .ok r) :
    AnKla.validate_receipt_evidence H e t id a c kind relation = .ok r := by
  rw [AnKla.validate_receipt_evidence] at hr ⊢
  obtain ⟨r', h1, hr⟩ := bind_ok.1 hr
  obtain ⟨_, h2, hr⟩ := bind_ok.1 hr
  obtain ⟨_, h3, hr⟩ := bind_ok.1 hr
  obtain ⟨_, h4, hr⟩ := bind_ok.1 hr
  obtain ⟨⟨⟩, h5, hr⟩ := bind_ok.1 hr
  obtain ⟨_, h6, hr⟩ := bind_ok.1 hr
  obtain ⟨expected, h7, hr⟩ := bind_ok.1 hr
  obtain ⟨_, h8, hr⟩ := bind_ok.1 hr
  have h5' : r'.files.forM (protected_file_ok H e relation) = .ok () := by
    refine forM_ok.2 fun f hf => ?_
    have hne : ¬f.1.Aside := by
      intro haside
      rw [ensure_ok, same_set, Bool.and_eq_true, List.all_eq_true] at h8
      exact aside_not_expected haside h7 (of_decide_eq_true (h8.1 f.1 (List.mem_map_of_mem hf)))
    rw [protected_file_ok, h f.1 hne]
    exact forM_ok.1 h5 f hf
  have h7' : AnKla.expected_files H e t a c r' = .ok expected := by
    rw [← h7]
    simp only [AnKla.expected_files, h.required_candidate_files]
  exact bind_ok.2 ⟨r', hread ▸ h1, bind_ok.2 ⟨_, h2, bind_ok.2 ⟨_, h3, bind_ok.2 ⟨_,
    h4, bind_ok.2 ⟨(), h5', bind_ok.2 ⟨_, h6, bind_ok.2 ⟨expected, h7', bind_ok.2 ⟨_, h8,
      hr⟩⟩⟩⟩⟩⟩⟩⟩

/-- A receipt that both disks hold, or neither, is valid on both or on neither. -/
theorem valid_receipt {t : Uuid} {id : Digest}
    (hread : read_receipt H e t id = read_receipt H d t id) (a : Attempt) (c : Option Digest)
    (kind : ReceiptKind) :
    AnKla.valid_receipt H e t (some id) a c kind = AnKla.valid_receipt H d t (some id) a c kind := by
  simp only [AnKla.valid_receipt, h.read_current, h.candidate_relation]
  cases c with
  | none => rfl
  | some c =>
    cases AnKla.read_current d with
    | error => rfl
    | ok current =>
      ext r
      simp only [toOption_ok]
      exact ⟨h.symm.validate_receipt_evidence hread.symm, h.validate_receipt_evidence hread⟩

/-! ## Transactions -/

theorem check_refute_stage (t : Uuid) (c : Digest) (a : Attempt) (r : Option Journal)
    (current : Option Digest) : AnKla.check_refute_stage H e t c a r current =
      AnKla.check_refute_stage H d t c a r current := by
  simp only [AnKla.check_refute_stage, h.stage_evidence]

theorem recovered_journal (t : Uuid) (cs : List Digest) :
    AnKla.recovered_journal H e t cs = AnKla.recovered_journal H d t cs := by
  simp only [AnKla.recovered_journal, h.journal, h.stage_evidence]

theorem readable_journal (t : Uuid) : AnKla.readable_journal e t = AnKla.readable_journal d t := by
  rw [AnKla.readable_journal, AnKla.readable_journal, h.journal]

theorem check_binding (a : Attempt) : AnKla.check_binding H e a = AnKla.check_binding H d a := by
  simp only [AnKla.check_binding, h.journal, h.manifest_candidates, h.stage_attempts]

end Beside

end AnKla
