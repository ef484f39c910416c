import AnKla.Crypto
import AnKla.Json.Ascii
import Mathlib.Tactic.DeriveCountable
import Mathlib.Logic.Equiv.List
import Mathlib.Data.Nat.Pairing
import Mathlib.Data.Countable.Basic

/-!
# A host with ideal hashing

The assumptions on a host can be met: there are countably many contents, so they
can be numbered, each above what it mentions.

* `encodeJson`: JSON values as numbers.
* `Crypto.ofTable`: a host that digests the contents of a list by their places in
  it, and numbers the others.
-/

namespace AnKla

open PyJson

/-! ## Contents are countable -/

mutual

/-- A JSON value as a number. -/
def encodeJson : Json → ℕ
  | .null => Nat.pair 0 0
  | .bool b => Nat.pair 1 (Encodable.encode b)
  | .int i => Nat.pair 2 (Encodable.encode i)
  | .float x => Nat.pair 3 (Encodable.encode (x.text.map Char.toNat))
  | .str s => Nat.pair 4 (Encodable.encode (s.toList.map Char.toNat))
  | .arr xs => Nat.pair 5 (encodeJsonList xs)
  | .obj kvs => Nat.pair 6 (encodeJsonItems kvs)

def encodeJsonList : List Json → ℕ
  | [] => 0
  | x :: xs => Nat.pair (encodeJson x) (encodeJsonList xs) + 1

def encodeJsonItems : List (String × Json) → ℕ
  | [] => 0
  | (k, x) :: kvs =>
    Nat.pair (Encodable.encode (k.toList.map Char.toNat))
      (Nat.pair (encodeJson x) (encodeJsonItems kvs)) + 1

end

theorem charToNat_injective : Function.Injective Char.toNat :=
  fun _ _ h => Char.ext (UInt32.toNat_inj.1 h)

theorem chars_injective {s t : List Char}
    (h : Encodable.encode (s.map Char.toNat) = Encodable.encode (t.map Char.toNat)) : s = t :=
  charToNat_injective.list_map (Encodable.encode_injective h)

theorem string_injective {s t : String}
    (h : Encodable.encode (s.toList.map Char.toNat) = Encodable.encode (t.toList.map Char.toNat)) :
    s = t :=
  String.toList_inj.1 (chars_injective h)

mutual

theorem encodeJson_injective : ∀ {v w : Json}, encodeJson v = encodeJson w → v = w
  | .null, w, h => by
    cases w <;> simp_all [encodeJson, Nat.pair_eq_pair]
  | .bool b, w, h => by
    cases w <;> simp_all [encodeJson, Nat.pair_eq_pair]
  | .int i, w, h => by
    cases w <;> simp_all [encodeJson, Nat.pair_eq_pair]
  | .float x, w, h => by
    cases w with
    | float y =>
      obtain ⟨x, hx⟩ := x
      obtain ⟨y, hy⟩ := y
      obtain rfl : x = y := by
        simp only [encodeJson, Nat.pair_eq_pair, true_and] at h
        exact chars_injective h
      rfl
    | _ => simp [encodeJson, Nat.pair_eq_pair] at h
  | .str s, w, h => by
    cases w with
    | str t =>
      simp only [encodeJson, Nat.pair_eq_pair, true_and] at h
      rw [string_injective h]
    | _ => simp [encodeJson, Nat.pair_eq_pair] at h
  | .arr xs, w, h => by
    cases w with
    | arr ys =>
      simp only [encodeJson, Nat.pair_eq_pair, true_and] at h
      rw [encodeJsonList_injective h]
    | _ => simp [encodeJson, Nat.pair_eq_pair] at h
  | .obj kvs, w, h => by
    cases w with
    | obj lws =>
      simp only [encodeJson, Nat.pair_eq_pair, true_and] at h
      rw [encodeJsonItems_injective h]
    | _ => simp [encodeJson, Nat.pair_eq_pair] at h

theorem encodeJsonList_injective : ∀ {xs ys : List Json},
    encodeJsonList xs = encodeJsonList ys → xs = ys
  | [], ys, h => by
    cases ys <;> simp_all [encodeJsonList]
  | x :: xs, ys, h => by
    cases ys with
    | nil => simp [encodeJsonList] at h
    | cons y ys =>
      simp only [encodeJsonList, Nat.add_right_cancel_iff, Nat.pair_eq_pair] at h
      rw [encodeJson_injective h.1, encodeJsonList_injective h.2]

theorem encodeJsonItems_injective : ∀ {xs ys : List (String × Json)},
    encodeJsonItems xs = encodeJsonItems ys → xs = ys
  | [], ys, h => by
    cases ys <;> simp_all [encodeJsonItems]
  | (k, x) :: xs, ys, h => by
    cases ys with
    | nil => simp [encodeJsonItems] at h
    | cons y ys =>
      obtain ⟨l, y⟩ := y
      simp only [encodeJsonItems, Nat.add_right_cancel_iff, Nat.pair_eq_pair] at h
      rw [string_injective h.1, encodeJson_injective h.2.1, encodeJsonItems_injective h.2.2]

end

instance : Countable Json := Function.Injective.countable fun _ _ => encodeJson_injective

instance countableChar : Countable Char := charToNat_injective.countable

instance countableString : Countable String := Function.Injective.countable fun _ _ => string_injective

deriving instance Countable for Stream
deriving instance Countable for Path
deriving instance Countable for Operation
deriving instance Countable for Attempt
deriving instance Countable for PolicyMetadata
deriving instance Countable for Stage
deriving instance Countable for JournalStage
deriving instance Countable for Journal
deriving instance Countable for RefLogKind
deriving instance Countable for RefLog
deriving instance Countable for ReceiptKind
deriving instance Countable for Receipt
deriving instance Countable for RevisionSchema
deriving instance Countable for Txid
deriving instance Countable for SupersedeEntry
deriving instance Countable for RefutationEntry
deriving instance Countable for EpochLink
deriving instance Countable for Feature
deriving instance Countable for PerStream
deriving instance Countable for Manifest
deriving instance Countable for Watermark
deriving instance Countable for CompactionProposal
deriving instance Countable for RestoreProof
deriving instance Countable for TombstoneState
deriving instance Countable for RecordTombstone
deriving instance Countable for ObjectKind
deriving instance Countable for ObjectTombstone
deriving instance Countable for ArchivedRevision
deriving instance Countable for PreviousCatalog
deriving instance Countable for Catalog
deriving instance Countable for EpochManifest
deriving instance Countable for CompactionCore
deriving instance Countable for CleanupReceipt
deriving instance Countable for ProjectIdentity
deriving instance Countable for StoreIdentity
deriving instance Countable for IdentityOperation
deriving instance Countable for IdentityIntentCore
deriving instance Countable for IdentityStage
deriving instance Countable for IdentityIntent
deriving instance Countable for IdentityReceipt
deriving instance Countable for Document

/-! ## The host of a table -/

/-- A number for every content. -/
noncomputable def Document.number : Document → ℕ := (Countable.exists_injective_nat Document).choose

theorem Document.number_injective : Function.Injective Document.number :=
  (Countable.exists_injective_nat Document).choose_spec

theorem le_foldr_max {l : List ℕ} {n : ℕ} (h : n ∈ l) : n ≤ l.foldr max 0 := by
  induction l with
  | nil => cases h
  | cons m l ih =>
    rw [List.foldr_cons]
    obtain rfl | h := List.mem_cons.1 h
    · exact le_max_left _ _
    · exact (ih h).trans (le_max_right _ _)

/-- The digest of a content: its place in a table, or a number above all places and
    above what it mentions. -/
noncomputable def tableDigest (table : List Document) (c : Document) : ℕ :=
  if c ∈ table then table.idxOf c
  else table.length + 1 + Nat.pair c.number (c.mentions.foldr max 0)

/-- A table lists no content before one that it mentions. -/
def Ordered (table : List Document) : Prop :=
  ∀ i : Fin table.length, ∀ d ∈ table[i].mentions, d < table.idxOf table[i]

instance (table : List Document) : Decidable (Ordered table) := by
  unfold Ordered
  infer_instance

/-- The number that a text would write if it wrote a digest. A digest is written in
    ASCII, and the bytes of a closed text are faster to compute than its characters. -/
def supposedDigest (s : String) : List Digest :=
  let chars := ascii s
  if digestPrefix.isPrefixOf chars then [hexValue (chars.drop digestPrefix.length)] else []

theorem ascii_toDigits (n : ℕ) : ∀ c ∈ Nat.toDigits 16 n, c.toNat < 128 := by
  have hdigit : ∀ d < 16, d.digitChar.toNat < 128 := by decide
  induction n using Nat.strong_induction_on with
  | _ n ih =>
    rw [Nat.toDigits_eq_if (by decide)]
    split_ifs with h
    · exact List.forall_mem_singleton.2 (hdigit n h)
    · intro c hc
      obtain hc | hc := List.mem_append.1 hc
      · exact ih (n / 16) (by omega) c hc
      · rw [List.mem_singleton.1 hc]
        exact hdigit _ (Nat.mod_lt _ (by decide))

/-- A digest is written in ASCII. -/
theorem ascii_ident (d : Digest) : ascii (ident d) = digestPrefix ++ hexDigits 64 d := by
  have hprefix : ∀ c ∈ digestPrefix, c.toNat < 128 := by decide
  rw [ascii_eq, toList_ident]
  rw [toList_ident]
  intro c hc
  obtain hc | hc := List.mem_append.1 hc
  · exact hprefix c hc
  · rw [hexDigits, List.leftpad] at hc
    obtain hc | hc := List.mem_append.1 hc
    · rw [List.eq_of_mem_replicate hc]
      decide
    · exact ascii_toDigits d c hc

theorem mem_supposedDigest {s : String} {d : Digest} (h : bare_digest s = some d) :
    d ∈ supposedDigest s := by
  rw [eq_ident_of_bare_digest h, supposedDigest, ascii_ident,
    if_pos (List.isPrefixOf_iff_prefix.2 (List.prefix_append _ _)), List.drop_left,
    hexValue_hexDigits]
  exact List.mem_singleton_self d

mutual

/-- The numbers that the texts of a JSON value would write. -/
def supposed : Json → List Digest
  | .str s => supposedDigest s
  | .arr xs => supposedList xs
  | .obj kvs => supposedItems kvs
  | _ => []

def supposedList : List Json → List Digest
  | [] => []
  | x :: xs => supposed x ++ supposedList xs

def supposedItems : List (String × Json) → List Digest
  | [] => []
  | (_, x) :: kvs => supposed x ++ supposedItems kvs

end

mutual

theorem idents_subset : ∀ v : Json, idents v ⊆ supposed v
  | .str s => fun d hd => by
    rw [idents, Option.mem_toList] at hd
    exact mem_supposedDigest hd
  | .arr xs => by rw [idents, supposed]; exact identsList_subset xs
  | .obj kvs => by rw [idents, supposed]; exact identsItems_subset kvs
  | .null | .bool _ | .int _ | .float _ => by simp [idents]

theorem identsList_subset : ∀ xs : List Json, identsList xs ⊆ supposedList xs
  | [] => List.Subset.refl _
  | x :: xs => List.append_subset.2
    ⟨List.subset_append_of_subset_left _ (idents_subset x),
      List.subset_append_of_subset_right _ (identsList_subset xs)⟩

theorem identsItems_subset : ∀ kvs : List (String × Json), identsItems kvs ⊆ supposedItems kvs
  | [] => List.Subset.refl _
  | (_, x) :: kvs => List.append_subset.2
    ⟨List.subset_append_of_subset_left _ (idents_subset x),
      List.subset_append_of_subset_right _ (identsItems_subset kvs)⟩

end

/-- The numbers that the texts of a content would write, and its other digests. -/
def Document.supposed : Document → List Digest
  | .json v => AnKla.supposed v
  | c => c.mentions

theorem Document.mentions_subset (c : Document) : c.mentions ⊆ c.supposed := by
  cases c with
  | json v => exact idents_subset v
  | _ => exact List.Subset.refl _

/-- A table without repetition lists no content before one that it mentions, if every
    number that its texts would write is smaller than its place. -/
theorem ordered_of_supposed {table : List Document} (hn : table.Nodup)
    (h : ∀ i : Fin table.length, ∀ d ∈ table[i].supposed, d < i.1) : Ordered table := by
  intro i d hd
  have hidx : table.idxOf table[i] = i.1 := hn.idxOf_getElem i.1 i.2
  rw [hidx]
  exact h i d (table[i].mentions_subset hd)

theorem tableDigest_injective (table : List Document) :
    Function.Injective (tableDigest table) := by
  intro c c' h
  rw [tableDigest, tableDigest] at h
  split_ifs at h with hc hc' hc'
  · exact (List.idxOf_inj hc).1 h
  · have := List.idxOf_lt_length_of_mem hc
    omega
  · have := List.idxOf_lt_length_of_mem hc'
    omega
  · have hp := Nat.add_left_cancel h
    exact Document.number_injective (Nat.pair_eq_pair.1 hp).1

/-- A host that digests the contents of a table by their places in it. -/
noncomputable def Crypto.ofTable (table : List Document) (h : Ordered table) : Crypto where
  digest := tableDigest table
  injective _ h := tableDigest_injective table h
  rank d := d
  rank_lt {c d} hd := by
    rw [tableDigest]
    split_ifs with hc
    · obtain ⟨i, hi, rfl⟩ := List.getElem_of_mem hc
      exact h ⟨i, hi⟩ d hd
    · have := le_foldr_max hd
      have := Nat.right_le_pair c.number (c.mentions.foldr max 0)
      omega
  size _ := 1
  sign key v := "hmac-sha256:" ++ toString key ++ toString (encodeJson v)

end AnKla
