import AnKla.Relocation.Site

/-!
# Receipts of relocations

Every move of a root leaves a receipt in the vault, which names the receipt before it.

* `load_one`, `load_relocation_receipt`: a receipt, and the receipts before it.
* `chain_head`: the one receipt of a kind that no other receipt names.
* `write_relocation_receipt`: the receipt of a move, and where it is filed.
-/

namespace AnKla.Relocation

open PyJson Durable Sealed Base64

variable (P : Primitives)

def RECEIPT_SCHEMA : String := "an-kla/relocation-receipt-v1"

/-- `KINDS`. -/
def KINDS : List String := ["project_root", "store_root"]

/-- `_KEYS`. -/
def RECEIPT_KEYS : List String := ["schema", "kind", "store_identity", "current_observed",
  "from_root_observed", "to_root_observed", "predecessor_receipt"]

/-- `_MAX_CHAIN`. -/
def MAX_CHAIN : ℕ := 10000

def receipt_invalid : Failure := receipt_error "relocation_receipt_invalid"

def chain_invalid : Failure := receipt_error "relocation_receipt_chain_invalid"

/-- The directory of the receipts. -/
def receipts_dir : String := "anchor/relocation-receipts/sha256/"

/-- `_path(store, identifier)`. -/
def receipt_path (identifier : String) : String :=
  receipts_dir ++ String.ofList (identifier.toList.drop 7) ++ ".json"

/-- The checks of `_load_one` on a receipt that was read. -/
def receipt_valid (identifier : String) (payload : Bytes) (value : Json) : Bool :=
  value.isObj && canonical_json value = payload && digest_bytes P payload = identifier &&
  exact_keys value RECEIPT_KEYS && item value "schema" = .str RECEIPT_SCHEMA &&
  one_of (item value "kind") KINDS &&
  (["store_identity", "current_observed", "from_root_observed", "to_root_observed"].all fun k =>
    is_str (item value k)) &&
  item value "from_root_observed" ≠ item value "to_root_observed" &&
  (item value "predecessor_receipt" = .null || is_str (item value "predecessor_receipt")) &&
  ["store_identity", "current_observed"].all fun k => is_identifier (py_str (item value k))

/-- `_load_one(store, identifier)`. -/
def load_one (v : Vault) (identifier : String) : Except Failure Json := do
  ensure (is_identifier identifier) receipt_invalid
  let payload ← (v.read (receipt_path identifier)).elim
    (.error (receipt_error "relocation_receipt_missing")) .ok
  let value ← (json_loads payload).elim (.error receipt_invalid) .ok
  ensure (receipt_valid P identifier payload value) receipt_invalid
  return value

/-- The loop of `load_relocation_receipt`, from a receipt on to the one before. -/
def load_chain (v : Vault) : ℕ → List String → Json → Except Failure Unit
  | 0, _, _ => .error chain_invalid
  | n + 1, seen, cursor =>
    match item cursor "predecessor_receipt" with
    | .str predecessor => do
      ensure (predecessor ∉ seen) chain_invalid
      let previous ← load_one P v predecessor
      ensure (item previous "store_identity" = item cursor "store_identity" &&
        item previous "kind" = item cursor "kind" &&
        item previous "to_root_observed" = item cursor "from_root_observed") chain_invalid
      load_chain v n (predecessor :: seen) previous
    | _ => .ok ()

/-- `load_relocation_receipt(store, identifier)`. -/
def load_relocation_receipt (v : Vault) (identifier : String) : Except Failure Json := do
  let head ← load_one P v identifier
  load_chain P v MAX_CHAIN [identifier] head
  return head

/-- `sha256:` and the stem of a file of the directory, for the files `*.json`. -/
def receipt_id (path : String) : Option String :=
  let l := path.toList
  let name := l.drop receipts_dir.toList.length
  if receipts_dir.toList.isPrefixOf l && ".json".toList.isSuffixOf name && !name.contains '/' then
    some ("sha256:" ++ String.ofList (name.take (name.length - 5)))
  else none

/-- The receipts of a vault, in the order of their files. -/
def receipt_ids (v : Vault) : List String :=
  (v.keys.insertionSort (· ≤ ·)).filterMap receipt_id

/-- `chain_head(store, store_identity, kind)`. -/
def chain_head (v : Vault) (store_identity kind : String) : Except Failure (Option String) := do
  let values ← (receipt_ids v).mapM fun identifier => do
    return (identifier, ← load_one P v identifier)
  let members := values.filter fun m =>
    item m.2 "store_identity" = .str store_identity && item m.2 "kind" = .str kind
  let referenced := members.map fun m => item m.2 "predecessor_receipt"
  match (members.map Prod.fst).filter fun identifier => Json.str identifier ∉ referenced with
  | [] => return none
  | [head] => return some head
  | _ => .error chain_invalid

/-- The receipt that `write_relocation_receipt(store, ...)` writes: its identifier and its
    text. -/
def write_relocation_receipt (v : Vault) (kind store_identity current_observed from_root to_root :
    String) : Except Failure (String × Bytes) := do
  ensure (KINDS.contains kind && from_root ≠ to_root) receipt_invalid
  let predecessor ← chain_head P v store_identity kind
  if let some head := predecessor then
    let previous ← load_relocation_receipt P v head
    ensure (item previous "to_root_observed" = .str from_root) chain_invalid
  let value := dict
    [("schema", .str RECEIPT_SCHEMA), ("kind", .str kind), ("store_identity", .str store_identity),
      ("current_observed", .str current_observed), ("from_root_observed", .str from_root),
      ("to_root_observed", .str to_root),
      ("predecessor_receipt", predecessor.elim .null Json.str)]
  let payload := canonical_json value
  return (digest_bytes P payload, payload)

end AnKla.Relocation
