import AnKla.Revisions.Chain
import AnKla.Policy.Refute

/-!
# The life of a record

A record is active until another one supersedes it, a refutation names it, or its
own status says so. The maps of the manifest say the first two.

* `is_active`: what the record itself says.
* `supersedes_ok`: targets and successors exist, and no record succeeds itself.
* `build_observations`, `validate_refutation_storage`: a stored refutation, checked
  against the revision it was made on.
* `validate_lifecycle`: the maps of a manifest, against its records.
-/

namespace AnKla

open PyJson Durable

/-! ## Records -/

/-- `str(row.get("id", ""))`. -/
def record_id (row : Json) : String :=
  match row.get? "id" with
  | some v => py_str v
  | none => ""

/-- `is_active(record)`. -/
def is_active (record : Json) : Bool :=
  let value := match record.get? "status" with
    | some v => v
    | none => (record.get? "nu").getD (.str "vigente")
  value = .null || one_of value ["vigente", "active"]

/-- A revision as it is read: the records as stored, and with their state. -/
structure Snapshot where
  revision_id : Digest
  manifest : Manifest
  checkpoint : Json
  records : PerStream (List Json)
  raw_records : PerStream (List Json)

/-! ## Supersedes -/

/-- The successor of a record. -/
def successor (entries : List SupersedeEntry) (stream : Stream) (id : String) : Option String :=
  (entries.find? fun e => e.stream = stream && e.target_id = id).map (·.sustituida_por)

/-- Following the successors of a record, none comes twice. -/
def successors_end (next : String → Option String) : ℕ → String → List String → Bool
  | 0, _, _ => false
  | n + 1, cursor, visited =>
    match next cursor with
    | none => true
    | some following => cursor ∉ visited && successors_end next n following (cursor :: visited)

/-- The supersede map, against the ids of the records. -/
def supersedes_ok (entries : List SupersedeEntry) (ids : Stream → List String) : Bool :=
  decide (entries.map fun e => (e.stream, e.target_id)).Nodup &&
    (entries.all fun e => e.target_id ∈ ids e.stream && e.sustituida_por ∈ ids e.stream) &&
    entries.all fun e =>
      successors_end (successor entries e.stream) (entries.length + 1) e.target_id []

/-! ## Refutations -/

variable (H : Crypto)

/-- `_ancestor_ids`: the revisions from one to its root. -/
def ancestor_ids (d : Disk) : ℕ → Digest → List Digest → Except Failure (List Digest)
  | 0, _, _ => .error (.refute_policy "invalid_refute_attestation" "revision_cycle")
  | n + 1, cursor, found =>
    if cursor ∈ found then
      .error (.refute_policy "invalid_refute_attestation" "revision_cycle")
    else do
      let m ← read_manifest H d cursor
      match m.parent with
      | none => return cursor :: found
      | some parent => ancestor_ids d n parent (cursor :: found)

/-- The stream that a kind of evidence lies in. -/
def evidence_stream (kind : Json) : Option Stream :=
  match kind with
  | .str "fact" => some .facts
  | .str "event" => some .events
  | .str "episode" => some .episodes
  | _ => none

/-- The rows of a stream with a digest. -/
def rows_of_digest (rows : List Json) (wanted : Json) : List Json :=
  rows.filter fun row => H.json_ident row = wanted

/-- What the store says of one piece of evidence. -/
def observe (d : Disk) (s : Snapshot) (evidence : Json) : Except Failure Json := do
  let kind := item evidence "kind"
  let wanted := evidence_digest evidence
  let present ← match evidence_stream kind with
    | some stream => do
      let found := rows_of_digest H (s.raw_records.get stream) wanted
      ensure (decide (found.length ≤ 1))
        (.refute_policy "invalid_refute_attestation" "evidence_ambiguous")
      pure (some (decide (found ≠ [])))
    | none =>
      if kind = .str "revision" then do
        let ancestors ← ancestor_ids H d (d.keys.length + 1) s.revision_id []
        pure (some (ancestors.any fun a => .str (ident a) = wanted))
      else pure none
  return dict
    [("schema", .str "an-kla/refute-observation-v1"),
      ("evidence", evidence),
      ("store_resolution", .str (match present with
        | some true => "present"
        | some false => "missing"
        | none => "unavailable")),
      ("observed_sha256", if present = some true then wanted else .null)]

/-- `build_observations(store, snapshot, claim)`. -/
def build_observations (d : Disk) (s : Snapshot) (claim : Json) : Except Failure Json := do
  validate_claim claim
  let items ← (elems (item claim "evidence")).mapM (observe H d s)
  let observations := dict
    [("schema", .str "an-kla/refute-observations-v1"),
      ("base_revision", item claim "base_revision"),
      ("items", .arr items)]
  validate_observations observations claim
  return observations

/-- The keys of a stored refutation. -/
def refutation_fields : List String :=
  ["schema", "target_revision", "stream", "target_record_sha256", "reason", "proposal_sha256",
    "authority_claim_sha256", "authority_attestation_id", "policy_fingerprint",
    "decision_sha256", "evidence_sha256", "plan_fingerprint"]

/-- The proposal of a stored refutation. -/
def refutation_proposal (refutation : Json) : Json := dict
  [("schema", .str "an-kla/refute-proposal-v1"),
    ("base_revision", item refutation "target_revision"),
    ("stream", item refutation "stream"),
    ("target_record_sha256", item refutation "target_record_sha256"),
    ("reason", item refutation "reason")]

/-- The decision of a stored refutation. -/
def refutation_decision (refutation : Json) : Json := dict
  [("schema", .str "an-kla/refute-decision-v1"),
    ("proposal_sha256", item refutation "proposal_sha256"),
    ("authority_claim_sha256", item refutation "authority_claim_sha256"),
    ("authority_attestation_id", item refutation "authority_attestation_id"),
    ("policy_profile", .str "refute-policy/v1"),
    ("policy_fingerprint", item refutation "policy_fingerprint"),
    ("decision", .str "refute"),
    ("reason_codes", str_list ["refute_accepted"])]

/-- `validate_refutation_storage(store, value, entry)`; the revision that it was
    made on is read again. -/
def validate_refutation_storage (snapshot : Digest → Except Failure Snapshot) (d : Disk)
    (refutation : Json) (entry : RefutationEntry) : Except Failure Unit := do
  let code := "refute_content_hash_mismatch"
  refute_exact refutation refutation_fields code "refutation.shape"
  ensure (item refutation "schema" = .str "an-kla/refutation-v1" &&
    item refutation "stream" = .str entry.stream.name &&
    item refutation "target_record_sha256" = .str (ident entry.target_record_sha256))
    (.refute_policy code "refutation.binding")
  ["target_revision", "target_record_sha256", "proposal_sha256", "authority_claim_sha256",
    "authority_attestation_id", "policy_fingerprint", "decision_sha256", "evidence_sha256",
    "plan_fingerprint"].forM fun name => refute_digest (item refutation name) code name
  let claim_id ← refutation_digest refutation "authority_claim_sha256"
  let claim ← read_authority_claim H d claim_id
  validate_claim claim
  let proposal := refutation_proposal refutation
  validate_refute_proposal proposal
  ensure (H.json_ident proposal = item refutation "proposal_sha256" &&
    H.json_ident claim = item refutation "authority_claim_sha256")
    (.refute_policy code "proposal_or_claim")
  let target ← refutation_digest refutation "target_revision"
  let parent ← snapshot target
  let observations ← build_observations H d parent claim
  let attestation_id ← refutation_digest refutation "authority_attestation_id"
  let attestation ← read_authority_attestation H d attestation_id
  let descriptor := item attestation "resolver"
  validate_descriptor descriptor
  validate_attestation H attestation proposal claim observations descriptor
  let decision := refutation_decision refutation
  let plan ← build_refute_plan H proposal claim (some attestation) decision false
  ensure (item refutation "decision_sha256" = H.json_ident decision &&
    item refutation "evidence_sha256" = H.json_ident (item claim "evidence") &&
    item refutation "plan_fingerprint" = item plan "plan_fingerprint")
    (.refute_policy code "policy_binding")

/-- One entry of the refutation map, against the records. -/
def validate_refutation_entry (snapshot : Digest → Except Failure Snapshot) (d : Disk)
    (supersedes : List SupersedeEntry) (raw : PerStream (List Json)) (entry : RefutationEntry) :
    Except Failure Unit :=
  match rows_of_digest H (raw.get entry.stream) (.str (ident entry.target_record_sha256)) with
  | [row] => do
    ensure (supersedes.all fun e => !(e.stream = entry.stream && e.target_id = record_id row))
      (.integrity "manifest_lifecycle_overlay_conflict")
    let refutation ← read_refutation H d entry.refutation_id
    validate_refutation_storage H snapshot d refutation entry
  | _ => .error (.integrity "manifest_refutations_map_invalid")

/-- `validate_lifecycle(store, manifest, raw_records)`. -/
def validate_lifecycle (snapshot : Digest → Except Failure Snapshot) (d : Disk) (m : Manifest)
    (raw : PerStream (List Json)) : Except Failure Unit := do
  ensure (supersedes_ok m.supersedes fun s => (raw.get s).map record_id)
    (.integrity "legacy_supersedes_adoption_required")
  m.refutations.forM fun e => validate_refutation_entry H snapshot d m.supersedes raw e

end AnKla
