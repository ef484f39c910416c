import AnKla.Context.Install
import AnKla.Guarantees.Blocks

/-!
# An installation that was cut

* `Fresh`: a project without the package, or with a part of what an installation writes before it
  touches the document.
* `Installation.Done`: what a whole installation leaves.
* `Crashed`: installations cut anywhere but between the document and the manifest.
* `install_survives`: after any of them, installing records the original document, and
  uninstalling brings it back.
-/

namespace AnKla.Context

open PyJson PyText Base64

variable {P : Sealed.Primitives} {T : ContextTexts}

/-! ## Texts and bytes -/

theorem utf8_of_decode {raw : Bytes} {text : List Char} (h : Sealed.decode_utf8 raw = some text) :
    Sealed.utf8 text = raw := by
  rw [Sealed.decode_utf8, Option.map_eq_some_iff] at h
  obtain ⟨chars, hchars, rfl⟩ := h
  have hsome : raw.toByteArray.utf8Decode?.isSome = true := by rw [hchars]; rfl
  have hget := ByteArray.utf8Encode_get_utf8Decode? (h := hsome)
  have hchars' : raw.toByteArray.utf8Decode?.get hsome = chars := by simp [hchars]
  rw [hchars', List.utf8Encode] at hget
  simpa [Sealed.utf8] using congrArg (fun b => b.data.toList) hget

theorem replace_newline_lf (text : List Char) : replace_newline ['\n'] text = text := by
  induction text with
  | nil => rfl
  | cons c text ih =>
    rw [replace_newline, List.flatMap_cons, ← replace_newline, ih]
    split_ifs with hc
    · rw [hc]
      rfl
    · rfl

theorem canonical_of_lines {text : List Char} (h : '\r' ∉ text) : canonical_payload text = text := by
  have hcrlf := replace_crlf_append h []
  rw [List.append_nil, show replace_crlf [] = [] from rfl, List.append_nil] at hcrlf
  rw [canonical_payload, hcrlf]
  refine (List.map_congr_left fun c hc => ?_).trans (List.map_id _)
  exact if_neg (ne_of_mem_of_not_mem hc h)

/-- A contract that was written is the contract. -/
theorem contract_equivalent_self : contract_equivalent T (some T.DETAILED_CONTRACT) = true := by
  rw [contract_equivalent, canonical_of_lines T.contract_lines]
  exact decide_eq_true rfl

theorem desired_contract_bytes_none :
    desired_contract_bytes T none = Sealed.utf8 T.DETAILED_CONTRACT := by
  rw [desired_contract_bytes, show (newline_for (Option.getD none [])).text = ['\n'] from rfl,
    replace_newline_lf]

theorem read_utf8_ok {file : Option Bytes} {text : Option (List Char)} :
    read_utf8 file = .ok text ↔ file = text.map Sealed.utf8 := by
  cases file with
  | none => cases text <;> simp [read_utf8]
  | some payload =>
    rw [read_utf8]
    cases hd : Sealed.decode_utf8 payload with
    | none =>
      refine iff_of_false (by simp) fun h => ?_
      obtain ⟨t, -, ht⟩ := Option.map_eq_some_iff.1 h.symm
      rw [← ht, Sealed.decode_utf8_utf8] at hd
      cases hd
    | some t =>
      obtain rfl := utf8_of_decode hd
      simp only [Except.ok.injEq]
      refine ⟨fun h => by rw [← h]; rfl, fun h => ?_⟩
      obtain ⟨t', rfl, ht⟩ := Option.map_eq_some_iff.1 h.symm
      rw [← ht, Sealed.decode_utf8_utf8] at hd
      exact (congrArg some (Option.some.inj hd)).symm

/-! ## The manifest of an installation -/

variable (P) in
/-- The original document as the manifest says it. -/
def recorded_original (original : Option Bytes) : Original :=
  ⟨.str (observed_sha P original),
    match original with
    | none => .null
    | some payload => .str (String.ofList (backup_path P payload TARGET)),
    .bool original.isNone, []⟩

theorem not_mem_hex {c : Char} (h : isHexDigit c = false) (raw : Bytes) : c ∉ hex raw := by
  intro hmem
  rw [List.all_eq_true.1 (isHexDigit_hex raw) c hmem] at h
  cases h

theorem no_parent_backup (payload : Bytes) :
    no_parent_part (backup_path P payload TARGET) = true := by
  have hpath : backup_path P payload TARGET = ['/'].intercalate
      [".an-kla".toList, "context".toList, "backups".toList, hex (P.sha256 payload),
        TARGET.toList] := by
    rw [backup_path, show BACKUPS = ".an-kla/context/backups/".toList from rfl]
    simp [List.intercalate, List.intersperse]
  have hhex : hex (P.sha256 payload) ≠ ['.', '.'] := by
    intro h
    have hlen := congrArg List.length h
    rw [length_hex, P.length_sha256] at hlen
    exact absurd hlen (by decide)
  have hslash : '/' ∉ hex (P.sha256 payload) := not_mem_hex (by decide) _
  rw [no_parent_part, hpath, List.splitOn_intercalate '/' _ (by simp)]
  · simp only [Bool.not_eq_true', List.contains_eq_mem, decide_eq_false_iff_not, List.mem_cons,
      List.not_mem_nil, or_false, not_or]
    exact ⟨by decide, by decide, by decide, hhex.symm, by decide⟩
  · simp only [List.forall_mem_cons, List.not_mem_nil, false_imp_iff, implies_true, and_true]
    exact ⟨by decide, by decide, by decide, hslash, by decide⟩

theorem is_backup_recorded (original : Option Bytes) :
    is_backup (recorded_original P original).backup = true := by
  cases original with
  | none => rfl
  | some payload =>
    have hprefix : BACKUPS.isPrefixOf (backup_path P payload TARGET) = true := by
      rw [List.isPrefixOf_iff_prefix, backup_path, List.append_assoc]
      exact List.prefix_append _ _
    show (BACKUPS.isPrefixOf (String.ofList _).toList && no_parent_part _) = true
    rw [String.toList_ofList, hprefix, no_parent_backup]
    rfl

section Manifest

variable (original : Option Bytes) (target contract : Bytes) (created : Bool)

variable (P) in
/-- The manifest of an installation into an original document. -/
def installed_manifest : Json :=
  manifest_payload P (recorded_original P original) target contract created

/-- The items of the manifest that are read again. -/
theorem manifest_items : let m := installed_manifest P original target contract created
    item m "template_version" = .str TEMPLATE_VERSION ∧
      item m "target_sha256" = .str (Sealed.digest_bytes P target) ∧
      item m "original_target_sha256" = (recorded_original P original).sha256 ∧
      item m "original_backup" = (recorded_original P original).backup ∧
      item m "file_created_by_an_kla" = (recorded_original P original).created ∧
      item m "contract_created_by_an_kla" = .bool created :=
  ⟨item_dict (by simp) (by simp), item_dict (by simp) (by simp), item_dict (by simp) (by simp),
    item_dict (by simp) (by simp), item_dict (by simp) (by simp), item_dict (by simp) (by simp)⟩

theorem manifest_valid_installed :
    manifest_valid (installed_manifest P original target contract created) = true := by
  have hkeys : exact_keys (installed_manifest P original target contract created) MANIFEST_KEYS =
      true := exact_keys_dict (by simp) fun _ => Iff.rfl
  have hsha (payload : Bytes) : is_sha (.str (Sealed.digest_bytes P payload)) = true :=
    Sealed.is_identifier_digest_bytes payload
  have horiginal : (decide ((recorded_original P original).sha256 = .str "missing") ||
      is_sha (recorded_original P original).sha256) = true := by
    cases original with
    | none => rfl
    | some payload =>
      rw [Bool.or_eq_true]
      exact .inr (hsha payload)
  have hschema : item (installed_manifest P original target contract created) "schema" =
      .str INSTALLATION_SCHEMA := item_dict (by simp) (by simp)
  have htarget : item (installed_manifest P original target contract created) "target" =
      .str TARGET := item_dict (by simp) (by simp)
  have hblock : item (installed_manifest P original target contract created) "block_id" =
      .str BLOCK_ID := item_dict (by simp) (by simp)
  have hmanaged : item (installed_manifest P original target contract created)
      "managed_content_sha256" = .str (managed_payload_sha256 P COMPACT_PAYLOAD) :=
    item_dict (by simp) (by simp)
  have hcontract : item (installed_manifest P original target contract created)
      "contract_sha256" = .str (Sealed.digest_bytes P contract) := item_dict (by simp) (by simp)
  obtain ⟨hversion, hsha', hfirst, hbackup, hfile, hcreated⟩ :=
    manifest_items (P := P) original target contract created
  rw [manifest_valid, hkeys, hschema, htarget, hblock, hmanaged, hcontract, hversion, hsha', hfirst,
    hbackup, hfile, hcreated, horiginal, is_backup_recorded, hsha, hsha, managed_payload_sha256,
    hsha]
  simp [is_str, is_bool, recorded_original]

theorem storable_installed_manifest :
    Storable (installed_manifest P original target contract created) := by
  refine (storable_dict (by simp)).2 ?_
  have hbackup : Storable (recorded_original P original).backup := by
    cases original with
    | none => exact ⟨trivial, rfl⟩
    | some payload => exact storable_str _
  have hbool (b : Bool) : Storable (.bool b) := ⟨trivial, rfl⟩
  simp only [List.forall_mem_cons, List.not_mem_nil, false_imp_iff, implies_true, and_true,
    storable_str, true_and]
  exact ⟨storable_str _, hbackup, hbool _, hbool _⟩

/-- The manifest that was written is read. -/
theorem load_installed_manifest : load_manifest (some (Sealed.utf8
    (manifest_text (installed_manifest P original target contract created)))) =
      .ok (some (installed_manifest P original target contract created)) := by
  obtain ⟨hw, hi⟩ := storable_installed_manifest (P := P) original target contract created
  have hend : NumEnd ['\n'] := ⟨by decide, by decide, by decide, by decide⟩
  rw [load_manifest, Sealed.json_loads, Sealed.decode_utf8_utf8, Option.bind_some, manifest_text,
    loads_dumpsIndent hw hi hend rfl]
  simp only
  rw [if_pos (manifest_valid_installed original target contract created)]

end Manifest

/-! ## Plans and their writes -/

variable (P T) in
/-- What the plan of an installation has read. -/
structure Installs (files : ContextFiles) (allow_target_drift : Bool)
    (before_text : Option (List Char)) (result : Option (List Char) × String)
    (manifest : Option Json) (contract_text : Option (List Char)) : Prop where
  reads_target : files .target = before_text.map Sealed.utf8
  transformed : transform_document P before_text "install" = .ok result
  parsed : ∃ block, parse_managed_block P (before_text.getD []) = .ok block ∧
    block_newer_than_runtime T block = false
  loaded : load_manifest (files .manifest) = .ok manifest
  undrifted : allow_target_drift = false → target_drift P manifest (files .target) = false
  reads_contract : files .contract = contract_text.map Sealed.utf8
  unmodified : contract_text = none ∨ contract_equivalent T contract_text = true

section Plans

variable {files : ContextFiles} {allow_target_drift : Bool} {before_text : Option (List Char)}
  {result : Option (List Char) × String} {manifest : Option Json}
  {contract_text : Option (List Char)}

theorem kept_install (current : List Char) (block : Option ManagedBlock) :
    kept_empty manifest "install" current block result = .ok result :=
  if_neg fun h => absurd h.1 (by decide)

theorem contract_modified_install {block : Option ManagedBlock} :
    contract_modified P T "install" block (contract_text.map Sealed.utf8) contract_text = false ↔
      contract_text = none ∨ contract_equivalent T contract_text = true := by
  have hop : decide ("install" = "update") = false := by decide
  rw [contract_modified, hop, Bool.false_and, Bool.not_false, Bool.and_true]
  cases contract_text with
  | none => simp
  | some text => simp

theorem Installs.plan
    (h : Installs P T files allow_target_drift before_text result manifest contract_text) :
    plan_context_change P T files "install" allow_target_drift =
      .ok (context_plan P T files "install" manifest contract_text result) := by
  have hop : installs "install" = true := by decide
  obtain ⟨block, hb, hnewer⟩ := h.parsed
  rw [plan_context_change, hop]
  refine bind_ok.2 ⟨_, read_utf8_ok.2 h.reads_target, bind_ok.2 ⟨_, h.transformed,
    bind_ok.2 ⟨_, hb, bind_ok.2 ⟨(), ensure_ok.2 ?_, bind_ok.2 ⟨_, h.loaded,
    bind_ok.2 ⟨(), ensure_ok.2 ?_, bind_ok.2 ⟨_, kept_install _ _,
    bind_ok.2 ⟨_, read_utf8_ok.2 h.reads_contract, bind_ok.2 ⟨(), ensure_ok.2 ?_, rfl⟩⟩⟩⟩⟩⟩⟩⟩⟩
  · rw [hnewer]
    rfl
  · cases allow_target_drift with
    | true => rfl
    | false =>
      rw [h.undrifted rfl]
      rfl
  · rw [h.reads_contract, contract_modified_install.2 h.unmodified]
    rfl

theorem installs_of_plan {plan : Json}
    (h : plan_context_change P T files "install" allow_target_drift = .ok plan) :
    ∃ before_text result manifest contract_text,
      Installs P T files allow_target_drift before_text result manifest contract_text := by
  have hop : installs "install" = true := by decide
  rw [plan_context_change, hop] at h
  simp only [Bool.true_and] at h
  obtain ⟨before_text, hread, h⟩ := bind_ok.1 h
  obtain ⟨result, htransform, h⟩ := bind_ok.1 h
  obtain ⟨block, hblock, h⟩ := bind_ok.1 h
  obtain ⟨_, hnewer, h⟩ := bind_ok.1 h
  obtain ⟨manifest, hmanifest, h⟩ := bind_ok.1 h
  obtain ⟨_, hdrift, h⟩ := bind_ok.1 h
  obtain ⟨_, -, h⟩ := bind_ok.1 h
  obtain ⟨contract_text, hcontract, h⟩ := bind_ok.1 h
  obtain ⟨_, hmodified, -⟩ := bind_ok.1 h
  have hread' := read_utf8_ok.1 hread
  have hcontract' := read_utf8_ok.1 hcontract
  rw [ensure_ok, Bool.not_eq_true'] at hnewer hdrift hmodified
  rw [hcontract', contract_modified_install] at hmodified
  refine ⟨before_text, result, manifest, contract_text, hread', htransform, ⟨block, hblock, hnewer⟩,
    hmanifest, fun hallow => ?_, hcontract', hmodified⟩
  rwa [hallow] at hdrift

theorem Installs.apply
    (h : Installs P T files allow_target_drift before_text result manifest contract_text) :
    let plan := context_plan P T files "install" manifest contract_text result
    apply_context_plan P T files plan allow_target_drift =
      .ok (if nothing_to_do T files manifest contract_text "install" result.2 plan then
        ([], apply_result "install" "noop" plan)
      else (install_writes P T files manifest contract_text result.1,
        apply_result "install" result.2 plan)) := by
  intro plan
  have hschema : item plan "schema" = .str PLAN_SCHEMA := item_dict (by simp) (by simp)
  have hoperation : item plan "operation" = .str "install" := item_dict (by simp) (by simp)
  have htarget : item plan "target" = .str TARGET := item_dict (by simp) (by simp)
  have hop : installs "install" = true := by decide
  rw [apply_context_plan, hschema, hoperation, htarget]
  refine bind_ok.2 ⟨(), ensure_ok.2 (by simp [plan, context_plan, dict, Json.isObj]), ?_⟩
  refine bind_ok.2 ⟨(), ensure_ok.2 (by simp), bind_ok.2 ⟨plan, h.plan, ?_⟩⟩
  refine bind_ok.2 ⟨(), ensure_ok.2 (by simp), bind_ok.2 ⟨(), ensure_ok.2 (by simp), ?_⟩⟩
  refine bind_ok.2 ⟨_, read_utf8_ok.2 h.reads_target, bind_ok.2 ⟨_, h.transformed,
    bind_ok.2 ⟨_, h.loaded, bind_ok.2 ⟨_, read_utf8_ok.2 h.reads_contract, ?_⟩⟩⟩⟩
  simp only [hop, if_true]
  split_ifs <;> rfl

end Plans

/-! ## Before anything is recorded -/

variable (P) in
/-- A project whose document has nothing recorded of it. A backup of the document, if there is one,
holds it. -/
structure Fresh (files : ContextFiles) (original : Option Bytes) : Prop where
  target : files .target = original
  manifest : files .manifest = none
  backup : ∀ payload, original = some payload →
    files (.backup (backup_path P payload TARGET)) = none ∨
      files (.backup (backup_path P payload TARGET)) = some payload

variable (P T) in
/-- The writes of an installation before it touches the document. -/
inductive Harmless (original : Option Bytes) : FileWrite → Prop
  | target : Harmless original (.target, original)
  | backup {payload : Bytes} (h : original = some payload) :
    Harmless original (.backup (backup_path P payload TARGET), some payload)
  | contract : Harmless original (.contract, some (Sealed.utf8 T.DETAILED_CONTRACT))

variable (T) in
/-- There is no contract, or it is the one of this version. -/
def ContractReady (files : ContextFiles) : Prop :=
  ∃ text, files .contract = text.map Sealed.utf8 ∧
    (text = none ∨ contract_equivalent T text = true)

@[simp] theorem write_same (files : ContextFiles) (place : Place) (content : Option Bytes) :
    files.write (place, content) place = content := Function.update_self ..

theorem write_other (files : ContextFiles) {place other : Place} (h : other ≠ place)
    (content : Option Bytes) : files.write (place, content) other = files other :=
  Function.update_of_ne h ..

theorem write_self (files : ContextFiles) (place : Place) :
    files.write (place, files place) = files := Function.update_eq_self ..

theorem run_singleton (files : ContextFiles) (w : FileWrite) : files.run [w] = files.write w := rfl

theorem run_append (files : ContextFiles) (writes writes' : List FileWrite) :
    files.run (writes ++ writes') = (files.run writes).run writes' := List.foldl_append

theorem Fresh.write {files : ContextFiles} {original : Option Bytes} (h : Fresh P files original)
    {w : FileWrite} (hw : Harmless P T original w) : Fresh P (files.write w) original := by
  cases hw with
  | target =>
    refine ⟨write_same .., ?_, fun payload hp => ?_⟩
    · rw [write_other _ (by simp), h.manifest]
    · rw [write_other _ (by simp)]
      exact h.backup payload hp
  | @backup saved hsaved =>
    refine ⟨?_, ?_, fun payload hp => ?_⟩
    · rw [write_other _ (by simp), h.target]
    · rw [write_other _ (by simp), h.manifest]
    · obtain rfl := Option.some.inj (hsaved.symm.trans hp)
      exact .inr (write_same ..)
  | contract =>
    refine ⟨?_, ?_, fun payload hp => ?_⟩
    · rw [write_other _ (by simp), h.target]
    · rw [write_other _ (by simp), h.manifest]
    · rw [write_other _ (by simp)]
      exact h.backup payload hp

theorem ContractReady.write {files : ContextFiles} {original : Option Bytes}
    (h : ContractReady T files) {w : FileWrite} (hw : Harmless P T original w) :
    ContractReady T (files.write w) := by
  obtain ⟨text, hcontract, hready⟩ := h
  cases hw with
  | target => exact ⟨text, by rw [write_other _ (by simp), hcontract], hready⟩
  | backup => exact ⟨text, by rw [write_other _ (by simp), hcontract], hready⟩
  | contract =>
    exact ⟨some T.DETAILED_CONTRACT, write_same .., .inr contract_equivalent_self⟩

/-- Writes that are harmless one by one are so together. -/
theorem Fresh.run {files : ContextFiles} {original : Option Bytes} (h : Fresh P files original)
    (hready : ContractReady T files) {writes : List FileWrite}
    (hw : ∀ w ∈ writes, Harmless P T original w) :
    Fresh P (files.run writes) original ∧ ContractReady T (files.run writes) := by
  induction writes generalizing files with
  | nil => exact ⟨h, hready⟩
  | cons w writes ih =>
    have hfirst := hw w List.mem_cons_self
    exact ih (h.write hfirst) (hready.write hfirst) fun x hx => hw x (List.mem_cons_of_mem _ hx)

section Writes

variable {files : ContextFiles} {original : Option Bytes}

theorem original_of_fresh (h : Fresh P files original) :
    original_of P files none = ⟨(recorded_original P original).sha256,
      (recorded_original P original).backup, (recorded_original P original).created,
      (original_of P files none).writes⟩ := by
  rw [original_of, h.target]
  cases original <;> rfl

/-- The backup of the document is there after its write. -/
theorem original_writes (h : Fresh P files original) :
    (∀ w ∈ (original_of P files none).writes, ∃ payload, original = some payload ∧
        w = (.backup (backup_path P payload TARGET), some payload)) ∧
      ∀ payload, original = some payload →
        files.run (original_of P files none).writes (.backup (backup_path P payload TARGET)) =
          some payload := by
  rw [original_of, h.target]
  cases original with
  | none => exact ⟨fun w hw => absurd hw List.not_mem_nil, fun _ hp => absurd hp (by simp)⟩
  | some payload =>
    simp only
    split_ifs with hsome
    · refine ⟨fun w hw => absurd hw List.not_mem_nil, fun payload' hp => ?_⟩
      obtain hnone | hkept := h.backup payload' hp
      · obtain rfl := Option.some.inj hp
        rw [hnone] at hsome
        cases hsome
      · exact hkept
    · refine ⟨fun w hw => ⟨payload, rfl, List.mem_singleton.1 hw⟩, fun payload' hp => ?_⟩
      obtain rfl := Option.some.inj hp
      rw [run_singleton, write_same]

/-- The contract is written when it is missing. -/
theorem contract_writes_ready {contract_text : Option (List Char)}
    (hcontract : files .contract = contract_text.map Sealed.utf8)
    (hready : contract_text = none ∨ contract_equivalent T contract_text = true) :
    ∃ contract, (contract_writes P T files contract_text).2 = Sealed.utf8 contract ∧
      contract_equivalent T (some contract) = true ∧
      (∀ w ∈ (contract_writes P T files contract_text).1,
        w = (.contract, some (Sealed.utf8 T.DETAILED_CONTRACT))) ∧
      ∀ start : ContextFiles, start .contract = files .contract →
        start.run (contract_writes P T files contract_text).1 .contract =
          some (Sealed.utf8 contract) := by
  rw [contract_writes, hcontract]
  cases contract_text with
  | none =>
    simp only [Option.map_none, desired_contract_bytes_none]
    refine ⟨T.DETAILED_CONTRACT, rfl, contract_equivalent_self, fun w hw => List.mem_singleton.1 hw,
      fun start _ => ?_⟩
    rw [run_singleton, write_same]
  | some text =>
    have hequivalent : contract_equivalent T (some text) = true := hready.resolve_left (by simp)
    simp only [Option.map_some]
    rw [if_pos hequivalent]
    exact ⟨text, rfl, hequivalent, fun w hw => absurd hw List.not_mem_nil, fun start hstart => hstart⟩

/-- A place that is not written is as before. -/
theorem run_other {writes : List FileWrite} {place : Place} (h : ∀ w ∈ writes, w.1 ≠ place) :
    files.run writes place = files place := by
  induction writes generalizing files with
  | nil => rfl
  | cons w writes ih =>
    refine (ih fun x hx => h x (List.mem_cons_of_mem _ hx)).trans ?_
    exact write_other _ (h w List.mem_cons_self).symm _

/-- An installation writes what is harmless, then the document and the manifest. -/
theorem install_writes_fresh (h : Fresh P files original) {contract_text : Option (List Char)}
    (hcontract : files .contract = contract_text.map Sealed.utf8)
    (hready : contract_text = none ∨ contract_equivalent T contract_text = true)
    (result_text : Option (List Char)) : ∃ writes contract created,
      install_writes P T files none contract_text result_text =
        writes ++ [(.target, some (Sealed.utf8 (result_text.getD []))),
          (.manifest, some (Sealed.utf8 (manifest_text (installed_manifest P original
            (Sealed.utf8 (result_text.getD [])) (Sealed.utf8 contract) created))))] ∧
      (∀ w ∈ writes, Harmless P T original w) ∧ contract_equivalent T (some contract) = true ∧
      files.run writes .contract = some (Sealed.utf8 contract) ∧
      ∀ payload, original = some payload →
        files.run writes (.backup (backup_path P payload TARGET)) = some payload := by
  obtain ⟨hfirst, hbackup⟩ := original_writes h
  obtain ⟨contract, hbytes, hequivalent, hsecond, hwritten⟩ :=
    contract_writes_ready (P := P) hcontract hready
  refine ⟨(original_of P files none).writes ++ (contract_writes P T files contract_text).1, contract,
    (files .contract).isNone, ?_, fun w hw => ?_, hequivalent, ?_, fun payload hp => ?_⟩
  · rw [install_writes, original_of_fresh h, hbytes, List.append_assoc]
    rfl
  · obtain hw | hw := List.mem_append.1 hw
    · obtain ⟨payload, hp, rfl⟩ := hfirst w hw
      exact .backup hp
    · rw [hsecond w hw]
      exact .contract
  · rw [run_append]
    refine hwritten _ (run_other fun w hw => ?_)
    obtain ⟨payload, -, rfl⟩ := hfirst w hw
    simp
  · rw [run_append, run_other fun w hw => by rw [hsecond w hw]; simp]
    exact hbackup payload hp

end Writes

/-! ## After an installation -/

/-- A managed document: the lines around its block, and the contract beside it. -/
structure Installation where
  before : List (List Char)
  after : List (List Char)
  newline : Newline
  contract : List Char
  contract_created : Bool

namespace Installation

variable (P) in
def document (i : Installation) : List Char := framed P i.before i.after i.newline

variable (P) in
def manifest (i : Installation) (original : Option Bytes) : Json :=
  installed_manifest P original (Sealed.utf8 (i.document P)) (Sealed.utf8 i.contract)
    i.contract_created

variable (P) in
/-- The last two writes of an installation. -/
def writes (i : Installation) (original : Option Bytes) : List FileWrite :=
  [(.target, some (Sealed.utf8 (i.document P))),
    (.manifest, some (Sealed.utf8 (manifest_text (i.manifest P original))))]

variable (P T) in
/-- A project with the package, which remembers an original document. -/
structure Done (i : Installation) (files : ContextFiles) (original : Option Bytes) : Prop where
  frame : Frame i.before i.after none
  equivalent : contract_equivalent T (some i.contract) = true
  target : files .target = some (Sealed.utf8 (i.document P))
  contract : files .contract = some (Sealed.utf8 i.contract)
  manifest : files .manifest = some (Sealed.utf8 (manifest_text (i.manifest P original)))
  backup : ∀ payload, original = some payload →
    files (.backup (backup_path P payload TARGET)) = some payload

end Installation

section Fresh

variable {files : ContextFiles} {original : Option Bytes} {allow_target_drift : Bool}
  {before_text : Option (List Char)} {before after : List (List Char)} {newline : Newline}
  {action : String} {contract_text : Option (List Char)}

/-- Installing into a fresh project: harmless writes, then the document and the manifest. -/
theorem Fresh.install (h : Fresh P files original) (hframe : Frame before after none)
    (hi : Installs P T files allow_target_drift before_text
      (some (framed P before after newline), action) none contract_text) :
    ∃ plan writes result, ∃ i : Installation,
      plan_context_change P T files "install" allow_target_drift = .ok plan ∧
      apply_context_plan P T files plan allow_target_drift =
        .ok (writes ++ i.writes P original, result) ∧
      (∀ w ∈ writes, Harmless P T original w) ∧
      i.Done P T (files.run (writes ++ i.writes P original)) original ∧
      i.before = before ∧ i.after = after ∧ i.newline = newline := by
  obtain ⟨writes, contract, created, hwrites, hharmless, hequivalent, hcontract, hbackup⟩ :=
    install_writes_fresh h hi.reads_contract hi.unmodified (some (framed P before after newline))
  have hnothing (plan : Json) :
      nothing_to_do T files none contract_text "install" action plan = false := by
    rw [nothing_to_do]
    simp
  have happly := hi.apply
  simp only [hnothing, Bool.false_eq_true, if_false, hwrites, Option.getD_some] at happly
  refine ⟨_, writes, _, ⟨before, after, newline, contract, created⟩, hi.plan, happly, hharmless, ?_,
    rfl, rfl, rfl⟩
  rw [run_append]
  refine ⟨hframe, hequivalent, ?_, ?_, ?_, fun payload hp => ?_⟩
  · rfl
  · exact hcontract
  · rfl
  · exact hbackup payload hp

end Fresh

/-- A version is not newer than itself. -/
theorem compare_template_versions_self (label : String) :
    compare_template_versions label label = none ∨ compare_template_versions label label = some 0 := by
  rw [compare_template_versions]
  cases template_version label with
  | none => exact .inl rfl
  | some version =>
    right
    simp

theorem rendered_not_newer (newline : Newline) (index : ℕ) :
    block_newer_than_runtime T (some (rendered_block P newline index)) = false := by
  have hversion : item (rendered_block P newline index).metadata "version" =
      .str TEMPLATE_VERSION := item_dict (by simp) (by simp)
  rw [block_newer_than_runtime]
  simp only [hversion]
  split_ifs
  · rfl
  · obtain h | h := compare_template_versions_self TEMPLATE_VERSION
    · rw [h]
    · rw [h]
      rfl

namespace Installation

variable {i : Installation} {files : ContextFiles} {original : Option Bytes}

/-- The same block, with the line ends that the document calls for. -/
def renewed (P : Sealed.Primitives) (i : Installation) : Installation :=
  { i with newline := newline_for (i.document P) }

theorem items (i : Installation) (original : Option Bytes) :
    item (i.manifest P original) "template_version" = .str TEMPLATE_VERSION ∧
      item (i.manifest P original) "target_sha256" =
        .str (Sealed.digest_bytes P (Sealed.utf8 (i.document P))) ∧
      item (i.manifest P original) "original_target_sha256" = .str (observed_sha P original) ∧
      item (i.manifest P original) "original_backup" = (recorded_original P original).backup ∧
      item (i.manifest P original) "file_created_by_an_kla" = .bool original.isNone ∧
      item (i.manifest P original) "contract_created_by_an_kla" = .bool i.contract_created :=
  manifest_items ..

theorem Done.loads (h : i.Done P T files original) :
    load_manifest (files .manifest) = .ok (some (i.manifest P original)) := by
  rw [h.manifest]
  exact load_installed_manifest ..

theorem Done.planned (h : i.Done P T files original) (allow_target_drift : Bool) : ∃ action,
    Installs P T files allow_target_drift (some (i.document P))
      (some ((i.renewed P).document P), action) (some (i.manifest P original))
      (some i.contract) := by
  refine ⟨_, h.target, install_framed h.frame i.newline, ⟨_, h.frame.parse i.newline, ?_⟩, h.loads,
    fun _ => ?_, h.contract, .inr h.equivalent⟩
  · exact rendered_not_newer ..
  · obtain ⟨-, hsha, -⟩ := i.items (P := P) original
    rw [h.target, target_drift, hsha]
    simp

/-- What the second installation writes. -/
theorem Done.install_writes (h : i.Done P T files original) :
    install_writes P T files (some (i.manifest P original)) (some i.contract)
      (some ((i.renewed P).document P)) = (i.renewed P).writes P original := by
  obtain ⟨-, -, hfirst, hbackup, hfile, hcreated⟩ := i.items (P := P) original
  have hbool (b : Bool) : decide (Json.bool b = .bool true) = b := by cases b <;> simp
  rw [Context.install_writes, original_of, contract_writes, h.contract]
  simp only [h.equivalent, if_true, hfirst, hbackup, hfile, hcreated, hbool, List.nil_append,
    Option.getD_some]
  rfl

/-- The files after the second installation. -/
theorem Done.renew (h : i.Done P T files original) :
    (i.renewed P).Done P T (files.run ((i.renewed P).writes P original)) original :=
  ⟨h.frame, h.equivalent, rfl, h.contract, rfl, h.backup⟩

/-- Installing again writes nothing, or renews the block. -/
theorem Done.install (h : i.Done P T files original) (allow_target_drift : Bool) :
    ∃ plan writes result,
    plan_context_change P T files "install" allow_target_drift = .ok plan ∧
      apply_context_plan P T files plan allow_target_drift = .ok (writes, result) ∧
      (writes = [] ∨ writes = (i.renewed P).writes P original) := by
  obtain ⟨action, hi⟩ := h.planned allow_target_drift
  have happly := hi.apply
  simp only [h.install_writes] at happly
  split_ifs at happly
  · exact ⟨_, _, _, hi.plan, happly, .inl rfl⟩
  · exact ⟨_, _, _, hi.plan, happly, .inr rfl⟩

/-! ### Uninstalling -/

/-- The text around the block. -/
def rest (i : Installation) : List Char := i.before.flatten ++ i.after.flatten

/-- What uninstalling leaves of the document: nothing, if there was none before. -/
def remainder (i : Installation) (original : Option Bytes) : Option (List Char) :=
  if i.rest.all is_space ∧ original = none then none else some i.rest

theorem recorded_file (i : Installation) (original : Option Bytes) :
    recorded (some (i.manifest P original)) "file_created_by_an_kla" = original.isNone := by
  obtain ⟨-, -, -, -, hfile, -⟩ := i.items (P := P) original
  rw [recorded, hfile]
  cases original <;> simp

theorem Done.kept (h : i.Done P T files original) : ∃ action,
    kept_empty (some (i.manifest P original)) "uninstall" (i.document P)
      (some (rendered_block P i.newline i.before.length)) (left_over i.rest) =
        .ok (i.remainder original, action) := by
  have haround : around (split_keep (i.document P))
      (rendered_block P i.newline i.before.length) [] = i.rest := by
    rw [document, h.frame.split, Frame.around_eq, List.append_nil, rest]
  rw [kept_empty, recorded_file, left_over, remainder, haround]
  cases hspace : i.rest.all is_space with
  | false => exact ⟨"remove_block", by simp⟩
  | true =>
    cases original with
    | none => exact ⟨"delete", by simp⟩
    | some payload => exact ⟨"preserve_empty", by simp⟩

theorem Done.uninstall (h : i.Done P T files original) (allow_target_drift : Bool) :
    ∃ plan writes result,
    plan_context_change P T files "uninstall" allow_target_drift = .ok plan ∧
      apply_context_plan P T files plan allow_target_drift = .ok (writes, result) ∧
      files.run writes .target = (i.remainder original).map Sealed.utf8 ∧
      files.run writes .manifest = none := by
  obtain ⟨action, hkept⟩ := h.kept
  have hop : installs "uninstall" = false := by decide
  have hcontract : files .contract = (some i.contract).map Sealed.utf8 := h.contract
  have htarget : files .target = (some (i.document P)).map Sealed.utf8 := h.target
  have hplan : plan_context_change P T files "uninstall" allow_target_drift =
      .ok (context_plan P T files "uninstall" (some (i.manifest P original)) (some i.contract)
        (i.remainder original, action)) := by
    rw [plan_context_change, hop]
    exact bind_ok.2 ⟨_, read_utf8_ok.2 htarget, bind_ok.2 ⟨_, uninstall_framed h.frame i.newline,
      bind_ok.2 ⟨_, h.frame.parse i.newline, bind_ok.2 ⟨(), rfl, bind_ok.2 ⟨_, h.loads,
      bind_ok.2 ⟨(), rfl, bind_ok.2 ⟨_, hkept, bind_ok.2 ⟨_, read_utf8_ok.2 hcontract,
      bind_ok.2 ⟨(), rfl, rfl⟩⟩⟩⟩⟩⟩⟩⟩⟩
  generalize hp : context_plan P T files "uninstall" (some (i.manifest P original))
    (some i.contract) (i.remainder original, action) = plan at hplan
  have hschema : item plan "schema" = .str PLAN_SCHEMA := hp ▸ item_dict (by simp) (by simp)
  have hoperation : item plan "operation" = .str "uninstall" :=
    hp ▸ item_dict (by simp) (by simp)
  have hplace : item plan "target" = .str TARGET := hp ▸ item_dict (by simp) (by simp)
  have hobj : plan.isObj = true := hp ▸ rfl
  have hnothing : nothing_to_do T files (some (i.manifest P original)) (some i.contract)
      "uninstall" (left_over i.rest).2 plan = false := by
    rw [nothing_to_do, hop]
    rfl
  refine ⟨plan, uninstall_writes T files (some (i.manifest P original)) (some i.contract)
    (i.remainder original), apply_result "uninstall" action plan, hplan, ?_, ?_, ?_⟩
  · rw [apply_context_plan, hschema, hoperation, hplace]
    refine bind_ok.2 ⟨(), ensure_ok.2 (by simp [hobj]), bind_ok.2 ⟨(), ensure_ok.2 (by simp),
      bind_ok.2 ⟨plan, hplan, bind_ok.2 ⟨(), ensure_ok.2 (by simp),
      bind_ok.2 ⟨(), ensure_ok.2 (by simp), bind_ok.2 ⟨_, read_utf8_ok.2 htarget,
      bind_ok.2 ⟨_, uninstall_framed h.frame i.newline, bind_ok.2 ⟨_, h.loads,
      bind_ok.2 ⟨_, read_utf8_ok.2 hcontract, ?_⟩⟩⟩⟩⟩⟩⟩⟩⟩
    rw [show i.before.flatten ++ i.after.flatten = i.rest from rfl, hnothing, hop]
    simp only [Bool.false_eq_true, if_false]
    exact bind_ok.2 ⟨_, h.frame.parse i.newline, bind_ok.2 ⟨_, hkept, rfl⟩⟩
  · rw [uninstall_writes, ContextFiles.run, List.foldl_cons, ← ContextFiles.run]
    refine (run_other fun w hw => ?_).trans (write_same ..)
    obtain hw | hw := List.mem_append.1 hw
    · split_ifs at hw
      · rw [List.mem_singleton.1 hw]
        simp
      · exact absurd hw List.not_mem_nil
    · split_ifs at hw
      · rw [List.mem_singleton.1 hw]
        simp
      · exact absurd hw List.not_mem_nil
  · rw [uninstall_writes, h.manifest, Option.isSome_some, if_pos rfl, ← List.cons_append, run_append,
      run_singleton, write_same]

end Installation

/-! ## Crashes -/

variable (P T) in
/-- The state that cut installations leave: the document and its backup are untouched, or the
package is there. -/
inductive Pending (original : Option Bytes) (before after : List (List Char))
    (files : ContextFiles) : Prop
  | fresh (h : Fresh P files original) (hready : ContractReady T files)
  | done (i : Installation) (h : i.Done P T files original) (hbefore : i.before = before)
    (hafter : i.after = after)

variable (P T) in
/-- Installations that were cut, each one with the document as it was or with the manifest
written. -/
inductive Crashed (allow_target_drift : Bool) (files : ContextFiles) : ContextFiles → Prop
  | start : Crashed allow_target_drift files files
  | cut {files' : ContextFiles} {plan result : Json} {writes : List FileWrite}
    (h : Crashed allow_target_drift files files')
    (hplan : plan_context_change P T files' "install" allow_target_drift = .ok plan)
    (happly : apply_context_plan P T files' plan allow_target_drift = .ok (writes, result))
    {n : ℕ} (hpoint : writes.length ≤ n ∨ files'.run (writes.take n) .target = files' .target) :
    Crashed allow_target_drift files (files'.run (writes.take n))

variable (P T) in
/-- An original document that the package can be installed into, with the lines around its block. -/
structure Installable (original : Option Bytes) (before after : List (List Char)) : Prop where
  frame : Frame before after none
  planned : ∃ before_text newline action block, original = before_text.map Sealed.utf8 ∧
    transform_document P before_text "install" =
      .ok (some (framed P before after newline), action) ∧
    parse_managed_block P (before_text.getD []) = .ok block ∧
    block_newer_than_runtime T block = false

section Crashes

variable {original : Option Bytes} {before after : List (List Char)} {files : ContextFiles}
  {allow_target_drift : Bool}

theorem Installable.installs (h : Installable P T original before after)
    (hf : Fresh P files original) (hready : ContractReady T files) (allow_target_drift : Bool) :
    ∃ before_text newline action contract_text,
      Installs P T files allow_target_drift before_text
        (some (framed P before after newline), action) none contract_text := by
  obtain ⟨before_text, newline, action, block, hread, htransform, hparse, hnewer⟩ := h.planned
  obtain ⟨contract_text, hcontract, hunmodified⟩ := hready
  refine ⟨before_text, newline, action, contract_text, hf.target.trans hread, htransform,
    ⟨block, hparse, hnewer⟩, ?_, fun _ => ?_, hcontract, hunmodified⟩
  · rw [hf.manifest, load_manifest]
  · rfl

/-- Whatever was cut, installing once more leaves the package, and remembers the document. -/
theorem Pending.install (ho : Installable P T original before after)
    (h : Pending P T original before after files) (allow_target_drift : Bool) :
    ∃ plan writes result,
      plan_context_change P T files "install" allow_target_drift = .ok plan ∧
      apply_context_plan P T files plan allow_target_drift = .ok (writes, result) ∧
      ∃ i : Installation, i.Done P T (files.run writes) original ∧ i.before = before ∧
        i.after = after := by
  cases h with
  | fresh hf hready =>
    obtain ⟨_, _, _, _, hi⟩ := ho.installs hf hready allow_target_drift
    obtain ⟨plan, writes, result, i, hplan, happly, -, hdone, hbefore, hafter, -⟩ :=
      hf.install ho.frame hi
    exact ⟨plan, _, result, hplan, happly, i, hdone, hbefore, hafter⟩
  | done i hdone hbefore hafter =>
    obtain ⟨plan, writes, result, hplan, happly, hwrites⟩ := hdone.install allow_target_drift
    refine ⟨plan, writes, result, hplan, happly, ?_⟩
    obtain rfl | rfl := hwrites
    · exact ⟨i, hdone, hbefore, hafter⟩
    · exact ⟨i.renewed P, hdone.renew, hbefore, hafter⟩

/-- The last two writes, cut where the document is as it was, or not cut. -/
theorem run_take_writes (i : Installation) {n : ℕ}
    (hpoint : (i.writes P original).length ≤ n ∨
      files.run ((i.writes P original).take n) .target = files .target) :
    (i.writes P original).take n = i.writes P original ∨
      files.run ((i.writes P original).take n) = files := by
  match n with
  | 0 => exact .inr rfl
  | 1 =>
    obtain hle | htarget := hpoint
    · exact absurd hle (by simp [Installation.writes])
    · have hsame : some (Sealed.utf8 (i.document P)) = files .target := htarget
      have hone : (i.writes P original).take 1 = [(.target, files .target)] := by
        rw [← hsame]
        rfl
      exact .inr (by rw [hone, run_singleton, write_self])
  | n + 2 => exact .inl (List.take_of_length_le (by simp [Installation.writes]))

theorem run_take {i : Installation} {first : List FileWrite}
    (hkeeps : files.run first .target = files .target) {n : ℕ}
    (hpoint : (first ++ i.writes P original).length ≤ n ∨
      files.run ((first ++ i.writes P original).take n) .target = files .target) :
    (first ++ i.writes P original).take n = first ++ i.writes P original ∨
      (∃ k, (first ++ i.writes P original).take n = first.take k) ∨
      files.run ((first ++ i.writes P original).take n) = files.run first := by
  obtain hle | hlt := Nat.le_total n first.length
  · exact .inr (.inl ⟨n, List.take_append_of_le_length hle⟩)
  · obtain ⟨m, rfl⟩ := Nat.exists_eq_add_of_le hlt
    rw [List.take_length_add_append, run_append, ← hkeeps, List.length_append] at hpoint
    rw [List.take_length_add_append, run_append]
    obtain hall | hnone := run_take_writes i (hpoint.imp (fun h => by omega) id)
    · exact .inl (by rw [hall])
    · exact .inr (.inr hnone)

theorem Pending.cut (ho : Installable P T original before after)
    (h : Pending P T original before after files) {plan result : Json} {writes : List FileWrite}
    (hplan : plan_context_change P T files "install" allow_target_drift = .ok plan)
    (happly : apply_context_plan P T files plan allow_target_drift = .ok (writes, result))
    {n : ℕ} (hpoint : writes.length ≤ n ∨ files.run (writes.take n) .target = files .target) :
    Pending P T original before after (files.run (writes.take n)) := by
  cases h with
  | fresh hf hready =>
    obtain ⟨_, _, _, _, hi⟩ := ho.installs hf hready allow_target_drift
    obtain ⟨plan', first, result', i, hplan', happly', hharmless, hdone, hbefore, hafter, -⟩ :=
      hf.install ho.frame hi
    obtain rfl := Except.ok.inj (hplan.symm.trans hplan')
    obtain ⟨rfl, -⟩ := Prod.mk.inj (Except.ok.inj (happly.symm.trans happly'))
    have hkeeps : files.run first .target = files .target := by
      rw [(hf.run hready hharmless).1.target, hf.target]
    obtain hall | ⟨k, hk⟩ | hfirst := run_take hkeeps hpoint
    · rw [hall]
      exact .done i hdone hbefore hafter
    · rw [hk]
      obtain ⟨hf', hready'⟩ := hf.run hready fun w hw => hharmless w (List.mem_of_mem_take hw)
      exact .fresh hf' hready'
    · rw [hfirst]
      obtain ⟨hf', hready'⟩ := hf.run hready hharmless
      exact .fresh hf' hready'
  | done i hdone hbefore hafter =>
    obtain ⟨plan', writes', result', hplan', happly', hwrites⟩ := hdone.install allow_target_drift
    obtain rfl := Except.ok.inj (hplan.symm.trans hplan')
    obtain ⟨rfl, -⟩ := Prod.mk.inj (Except.ok.inj (happly.symm.trans happly'))
    obtain rfl | rfl := hwrites
    · rw [List.take_nil]
      exact .done i hdone hbefore hafter
    · obtain hall | hnone := run_take_writes _ hpoint
      · rw [hall]
        exact .done _ hdone.renew hbefore hafter
      · rw [hnone]
        exact .done i hdone hbefore hafter

/-- What cut installations leave of a project that the package could be installed into. -/
theorem Crashed.pending (ho : Installable P T original before after)
    (hf : Fresh P files original) (hready : ContractReady T files) {files' : ContextFiles}
    (h : Crashed P T allow_target_drift files files') : Pending P T original before after files' := by
  induction h with
  | start => exact .fresh hf hready
  | cut _ hplan happly hpoint ih => exact ih.cut ho hplan happly hpoint

end Crashes

/-! ## The original document -/

variable (P T) in
/-- The manifest says what the document was, and an uninstallation brings it back: none, or the
text outside of its block, with the separator behind it when there was no block. -/
structure Restores (files : ContextFiles) (original : Option Bytes) : Prop where
  recorded : ∃ manifest, load_manifest (files .manifest) = .ok (some manifest) ∧
    item manifest "original_target_sha256" = .str (observed_sha P original) ∧
    item manifest "file_created_by_an_kla" = .bool original.isNone ∧
    (original = none → item manifest "original_backup" = .null) ∧
    ∀ payload, original = some payload → ∃ path,
      item manifest "original_backup" = .str (String.ofList path) ∧
        files (.backup path) = some payload
  uninstalls : ∀ allow_target_drift, ∃ plan writes result,
    plan_context_change P T files "uninstall" allow_target_drift = .ok plan ∧
      apply_context_plan P T files plan allow_target_drift = .ok (writes, result) ∧
      files.run writes .manifest = none ∧
      (original = none → files.run writes .target = none) ∧
      ∀ document, original = some (Sealed.utf8 document) → ∃ separator, Ends separator ∧
        (parse_managed_block P document ≠ .ok none → separator = []) ∧
        files.run writes .target = some (Sealed.utf8
          ((outside P document).1 ++ separator ++ (outside P document).2))

theorem utf8_injective {s t : List Char} (h : Sealed.utf8 s = Sealed.utf8 t) : s = t := by
  have hdecode := congrArg Sealed.decode_utf8 h
  rw [Sealed.decode_utf8_utf8, Sealed.decode_utf8_utf8] at hdecode
  exact Option.some.inj hdecode

theorem Installation.Done.restores {i : Installation} {files : ContextFiles}
    {before_text : Option (List Char)} {separator : List Char}
    (h : i.Done P T files (before_text.map Sealed.utf8))
    (hplaced : Placed P (before_text.getD []) i.before i.after separator) :
    Restores P T files (before_text.map Sealed.utf8) := by
  obtain ⟨-, -, hfirst, hbackup, hfile, -⟩ := i.items (P := P) (before_text.map Sealed.utf8)
  have hrest : i.rest = (outside P (before_text.getD [])).1 ++ separator ++
      (outside P (before_text.getD [])).2 := by
    rw [Installation.rest, hplaced.before_eq, hplaced.after_eq]
  refine ⟨⟨_, h.loads, hfirst, hfile, fun hnone => ?_, fun payload hp => ?_⟩, fun allow => ?_⟩
  · rw [hbackup, hnone]
    rfl
  · refine ⟨backup_path P payload TARGET, ?_, h.backup payload hp⟩
    rw [hbackup, hp]
    rfl
  · obtain ⟨plan, writes, result, hplan, happly, htarget, hmanifest⟩ := h.uninstall allow
    refine ⟨plan, writes, result, hplan, happly, hmanifest, fun hnone => ?_, fun document hp => ?_⟩
    · obtain rfl : before_text = none := Option.map_eq_none_iff.1 hnone
      have hempty : outside P [] = ([], []) := outside_of_none rfl
      have hspace : i.rest.all is_space = true := by
        rw [hrest, Option.getD_none, hempty, List.append_nil, List.nil_append]
        exact List.all_eq_true.2 hplaced.separator_ends.space
      rw [htarget, Installation.remainder, if_pos ⟨hspace, rfl⟩]
      rfl
    · obtain ⟨document', rfl, hsame⟩ := Option.map_eq_some_iff.1 hp
      obtain rfl := utf8_injective hsame
      refine ⟨separator, hplaced.separator_ends, hplaced.separator_nil, ?_⟩
      rw [htarget, Installation.remainder, if_neg (by simp), hrest]
      rfl

/-- However often an installation was cut, outside of the step between the document and the
manifest, installing once more remembers the document that was there before the first one. -/
theorem install_survives {files files' : ContextFiles} {allow_target_drift : Bool} {plan : Json}
    (hf : Fresh P files (files .target))
    (hplan : plan_context_change P T files "install" allow_target_drift = .ok plan)
    (hfence : ∀ document, read_utf8 (files .target) = .ok document →
      parse_managed_block P (document.getD []) = .ok none → open_fence (document.getD []) = none)
    (h : Crashed P T allow_target_drift files files') : ∃ plan' writes result,
      plan_context_change P T files' "install" allow_target_drift = .ok plan' ∧
        apply_context_plan P T files' plan' allow_target_drift = .ok (writes, result) ∧
        Restores P T (files'.run writes) (files .target) := by
  obtain ⟨before_text, ⟨result_text, action⟩, manifest, contract_text, hi⟩ := installs_of_plan hplan
  have hread : files .target = before_text.map Sealed.utf8 := hi.reads_target
  obtain ⟨block, hblock, hnewer⟩ := hi.parsed
  obtain ⟨before, after, separator, hplaced, hresult⟩ :=
    install_placed hi.transformed (hfence _ (read_utf8_ok.2 hread))
  have ho : Installable P T (files .target) before after :=
    ⟨hplaced.frame, before_text, _, action, block, hread, hresult ▸ hi.transformed, hblock, hnewer⟩
  have hready : ContractReady T files := ⟨contract_text, hi.reads_contract, hi.unmodified⟩
  obtain ⟨plan', writes, result, hplan', happly', i, hdone, rfl, rfl⟩ :=
    (h.pending ho hf hready).install ho allow_target_drift
  refine ⟨plan', writes, result, hplan', happly', ?_⟩
  rw [hread] at hdone ⊢
  exact hdone.restores hplaced

/-- A release with an empty contract. -/
def PLAIN_TEXTS : ContextTexts := ⟨[], [], List.not_mem_nil⟩

/-- A project with a document of one line. -/
def ONE_PAGE : ContextFiles
  | .target => some (Sealed.utf8 ONE_LINE)
  | _ => none

theorem install_survives_one_page : ∃ files',
    Crashed Sealed.plain PLAIN_TEXTS false ONE_PAGE files' ∧ ∃ plan writes result,
      plan_context_change Sealed.plain PLAIN_TEXTS files' "install" false = .ok plan ∧
        apply_context_plan Sealed.plain PLAIN_TEXTS files' plan false = .ok (writes, result) ∧
        Restores Sealed.plain PLAIN_TEXTS (files'.run writes) (ONE_PAGE .target) := by
  have hscan : scan none 0 (split_keep ONE_LINE) = .ok ⟨[], [], none⟩ :=
    scan_unanchored (by decide) (by decide) 0
  have hi : Installs Sealed.plain PLAIN_TEXTS ONE_PAGE false (some ONE_LINE) _ none none :=
    ⟨rfl, transform_append hscan (by decide +kernel) (by decide),
      ⟨none, parse_of_scan hscan, rfl⟩, rfl, fun _ => rfl, rfl, .inl rfl⟩
  have hf : Fresh Sealed.plain ONE_PAGE (ONE_PAGE .target) := ⟨rfl, rfl, fun _ _ => .inl rfl⟩
  -- The backup is written, and nothing else.
  have hcut := Crashed.cut (n := 1) .start hi.plan hi.apply (.inr rfl)
  refine ⟨_, hcut, install_survives hf hi.plan (fun document hread _ => ?_) hcut⟩
  obtain ⟨text, rfl, htext⟩ := Option.map_eq_some_iff.1 (read_utf8_ok.1 hread).symm
  obtain rfl := utf8_injective htext
  show open_fence ONE_LINE = none
  rw [open_fence, hscan]

/-- A project without any file. -/
def NO_FILES : ContextFiles := fun _ => none

/-- Cut between the document and the manifest, the next installation takes the document for the
user's own. -/
theorem install_cut_before_manifest : NO_FILES .target = none ∧ ∃ plan writes result n,
    plan_context_change Sealed.plain PLAIN_TEXTS NO_FILES "install" false = .ok plan ∧
      apply_context_plan Sealed.plain PLAIN_TEXTS NO_FILES plan false = .ok (writes, result) ∧
      ∃ plan' writes' result' manifest,
        plan_context_change Sealed.plain PLAIN_TEXTS (NO_FILES.run (writes.take n)) "install"
          false = .ok plan' ∧
        apply_context_plan Sealed.plain PLAIN_TEXTS (NO_FILES.run (writes.take n)) plan' false =
          .ok (writes', result') ∧
        load_manifest ((NO_FILES.run (writes.take n)).run writes' .manifest) =
          .ok (some manifest) ∧
        item manifest "file_created_by_an_kla" = .bool false := by
  have hf : Fresh Sealed.plain NO_FILES none := ⟨rfl, rfl, fun _ hp => absurd hp (by simp)⟩
  have hcreate : transform_document Sealed.plain none "install" =
      .ok (some (framed Sealed.plain [] [] (newline_for [])), "create") := by
    rw [transform_document, if_neg (by decide)]
    refine bind_ok.2 ⟨none, rfl, ?_⟩
    simp only [Option.getD_none, if_true]
    rw [show legacy_context [] = false by decide +kernel, if_neg (by decide), framed]
    simp
  have hi : Installs Sealed.plain PLAIN_TEXTS NO_FILES false none
      (some (framed Sealed.plain [] [] (newline_for [])), "create") none none :=
    ⟨rfl, hcreate, ⟨none, rfl, rfl⟩, rfl, fun _ => rfl, rfl, .inl rfl⟩
  obtain ⟨plan, first, result, i, hplan, happly, hharmless, -, hbefore, hafter, -⟩ :=
    hf.install frame_empty hi
  obtain ⟨hf', hready⟩ := hf.run ⟨none, rfl, .inl rfl⟩ hharmless
  have htake : (first ++ i.writes Sealed.plain none).take (first.length + 1) =
      first ++ [(.target, some (Sealed.utf8 (i.document Sealed.plain)))] :=
    List.take_length_add_append 1
  have hdocument : i.document Sealed.plain = framed Sealed.plain [] [] i.newline := by
    rw [Installation.document, hbefore, hafter]
  -- The document with its block is all that the next installation finds.
  have hcut : Fresh Sealed.plain (NO_FILES.run ((first ++ i.writes Sealed.plain none).take
      (first.length + 1))) (some (Sealed.utf8 (i.document Sealed.plain))) := by
    rw [htake, run_append, run_singleton]
    refine ⟨write_same .., ?_, fun payload _ => .inl ?_⟩
    · rw [write_other _ (by simp), hf'.manifest]
    · rw [write_other _ (by simp)]
      refine run_other fun w hw hplace => ?_
      cases hharmless w hw with
      | target => cases hplace
      | backup hnone => cases hnone
      | contract => cases hplace
  have hready' : ContractReady PLAIN_TEXTS (NO_FILES.run
      ((first ++ i.writes Sealed.plain none).take (first.length + 1))) := by
    rw [htake, run_append, run_singleton]
    obtain ⟨text, hcontract, htext⟩ := hready
    exact ⟨text, by rw [write_other _ (by simp), hcontract], htext⟩
  have ho : Installable Sealed.plain PLAIN_TEXTS
      (some (Sealed.utf8 (i.document Sealed.plain))) [] [] := by
    have hinstall := install_framed (P := Sealed.plain) frame_empty i.newline
    have hparse := frame_empty.parse (P := Sealed.plain) i.newline
    rw [← hdocument] at hinstall hparse
    exact ⟨frame_empty, _, _, _, _, rfl, hinstall, hparse, rendered_not_newer ..⟩
  obtain ⟨plan', writes', result', hplan', happly', j, hdone, -, -⟩ :=
    (Pending.fresh hcut hready').install ho false
  obtain ⟨-, -, -, -, hfile, -⟩ := j.items (P := Sealed.plain)
    (some (Sealed.utf8 (i.document Sealed.plain)))
  exact ⟨rfl, plan, _, result, first.length + 1, hplan, happly, plan', writes', result', _, hplan',
    happly', hdone.loads, hfile⟩

end AnKla.Context
