import AnKla.Identity
import AnKla.Durable.Run
import AnKla.Policy.Write

/-!
# Attestation receipts

A receipt says that a command was run: it is signed with a key of the store and
filed under its digest. A commit under an authority of class `tool_observed`
spends one.

* `find_receipt_evidence`: the evidence that names the receipt.
* `verify_receipt_for_authority`: the receipt, checked.
* `consume_tombstone`: what is written so that the receipt is not used again.
-/

namespace AnKla

open PyJson Durable

/-- `AttestError(code)`, `AttestError("receipt_invalid", detail)`. -/
def receipt_invalid (detail : String) : Failure := .attest "receipt_invalid" detail

/-! ## The whitelist -/

/-- `_load_key(target)`. -/
def load_key (d : Disk) : Except Failure ℕ :=
  match d.read .attest_key with
  | some (.attest_key key) => .ok key
  | _ => .error (.attest "attest_not_initialized" "")

/-- `load_whitelist(target)`. -/
def load_whitelist (d : Disk) : Except Failure Json :=
  match d.read .attest_whitelist with
  | some (.json document) =>
    if document.isObj && item document "schema" = .str "an-kla/attest-whitelist-v1" &&
        is_list (item document "entries") && elems (item document "entries") ≠ [] then
      .ok document
    else .error (.attest "attest_whitelist_invalid" "")
  | _ => .error (.attest "attest_whitelist_invalid" "")

/-- One entry of the whitelist: the exact arguments, or a prefix of them with flags
    that may not follow. -/
def entry_allows (command : List String) (entry : Json) : Bool :=
  if is_list (item entry "argv") then command = (elems (item entry "argv")).map py_str
  else
    let head := (elems (item entry "argv_prefix")).map py_str
    let denied := match entry.get? "deny_flags" with
      | none => some []
      | some v => if is_list v then some ((elems v).map py_str) else none
    match denied with
    | none => false
    | some denied => head ≠ [] && head.isPrefixOf command &&
        (command.drop head.length).all fun arg => denied.all fun flag =>
          flag = "" || !flag.toList.isPrefixOf arg.toList

/-- `command_allowed(document, command)`. -/
def command_allowed (document : Json) (command : List String) : Bool :=
  (elems (item document "entries")).any (entry_allows command)

/-! ## Receipts -/

/-- The item is evidence that a receipt exists. -/
def is_receipt_evidence (evidence : Json) : Bool :=
  item evidence "kind" = .str "attestation_receipt"

/-- `find_receipt_evidence(authority)`: the first one. -/
def find_receipt_evidence (authority : Json) : Option Json :=
  (elems (item authority "evidence")).find? is_receipt_evidence

/-- The digest that an item of evidence names. -/
def receipt_sha256 (evidence : Json) : Except Failure Digest :=
  match item evidence "sha256" with
  | .str s =>
    if digestPrefix.isPrefixOf s.toList then
      match bare_digest s with
      | some d => .ok d
      | none => .error (receipt_invalid "sha256_malformed")
    else .error (receipt_invalid "sha256_missing")
  | _ => .error (receipt_invalid "sha256_missing")

/-- `receipt.pop(key)`: the receipt without its signature. -/
def without (key : String) : Json → Json
  | .obj kvs => .obj (kvs.filter fun kv => kv.1 ≠ key)
  | v => v

variable (H : Crypto)

/-- The receipt that is filed under a digest. -/
def read_attest_receipt (d : Disk) (sha256 : Digest) : Except Failure Json :=
  match d.read (.attest_receipt sha256) with
  | none => .error (receipt_invalid "receipt_file_missing")
  | some (.json receipt) =>
    if receipt.isObj && item receipt "schema" = .str "an-kla/attest-receipt-v1" then
      if H.digest_json receipt = sha256 then .ok receipt
      else .error (receipt_invalid "receipt_digest_mismatch")
    else .error (receipt_invalid "schema")
  | some _ => .error (receipt_invalid "receipt_unreadable")

/-- The signature of a receipt, and what it signs: the checks of
    `verify_receipt_for_authority` on the receipt alone. -/
def check_receipt (d : Disk) (receipt : Json) : Except Failure Unit := do
  let claimed := item receipt "receipt_hmac"
  ensure (match claimed with
    | .str s => "hmac-sha256:".toList.isPrefixOf s.toList
    | _ => false) (receipt_invalid "hmac_malformed")
  let key ← load_key d
  let body := without "receipt_hmac" receipt
  ensure (claimed = .str (H.sign key body)) (receipt_invalid "hmac_mismatch")
  ensure (item body "policy_fingerprint" = write_policy_fingerprint H)
    (receipt_invalid "policy_fingerprint_changed")
  ensure (item body "exit_code" = .int 0) (receipt_invalid "exit_code_not_zero")
  let document ← load_whitelist d
  ensure (item body "whitelist_digest" = H.json_ident document)
    (.attest "receipt_whitelist_changed" "")
  ensure (command_allowed document ((elems (item body "command")).map py_str))
    (.attest "attest_command_not_allowed" "")
  let mismatch := Failure.attest "receipt_identity_mismatch" ""
  let binding ← (read_binding H d).mapError fun _ => mismatch
  ensure (item body "store_identity" = .str (ident binding.store_identity) &&
    item body "project_uuid" = .str (uuidText binding.store.project_uuid)) mismatch
  ensure (body.keys.contains "nonce") (.value "nonce")

/-- `tombstone_path(target, nonce)`. -/
def tombstone_path (receipt : Json) : Path :=
  .tombstone (H.digest (.nonce (py_str (item receipt "nonce"))))

/-- The checks of `verify_receipt_for_authority` on one item of evidence. -/
def verify_receipt_evidence (d : Disk) (evidence : Json) : Except Failure Json := do
  ensure (item evidence "resolution" = .str "verified") (receipt_invalid "resolution_not_verified")
  let sha256 ← receipt_sha256 evidence
  let receipt ← read_attest_receipt H d sha256
  ensure (item evidence "id" = item receipt "receipt_id") (receipt_invalid "receipt_id_mismatch")
  check_receipt H d receipt
  ensure (d.read (tombstone_path H receipt)).isNone (.attest "receipt_replayed" "")
  return receipt

/-- `verify_receipt_for_authority(store, authority)`. -/
def verify_receipt_for_authority (d : Disk) (authority : Json) : Except Failure Json :=
  match find_receipt_evidence authority with
  | none => .error (receipt_invalid "evidence_item_missing")
  | some evidence => verify_receipt_evidence H d evidence

/-- `consume_tombstone(store, receipt)` at a time: the file is created, and must
    not be there. -/
def consume_tombstone (now : String) (receipt : Json) : List (Write Path Document Failure) :=
  [.check fun d => ensure (d.read (tombstone_path H receipt)).isNone
      (.attest "receipt_replayed" ""),
    .create (tombstone_path H receipt) (.json (dict
      [("schema", .str "an-kla/attest-tombstone-v1"),
        ("nonce", .str (py_str (item receipt "nonce"))),
        ("receipt_id", .str (match receipt.get? "receipt_id" with
          | some v => py_str v
          | none => "")),
        ("created_at", .str now)]))]

end AnKla
