import AnKla.Policy.Proposals
import AnKla.Readers.View

/-!
# Cursors of a context view

A cursor that the view has written for one of its subjects is read back as the place of that
subject, as long as it is not longer than a cursor may be; and it is not, for digests of 256
bits and subjects that can be parsed.

* `fromhex_hex`, `length_hex_json`: the hexadecimal text of a document.
* `decode_encode_cursor`: what is read of a cursor that was written.
* `length_encode_cursor`: how long it is.
-/

namespace AnKla

open PyJson

/-! ## Hexadecimal -/

theorem blank_digitChar {n : ℕ} (h : n < 16) : Sealed.blank n.digitChar = false := by
  interval_cases n <;> rfl

theorem fromhex_hex (raw : Base64.Bytes) : fromhex (Base64.hex raw) = some raw := by
  induction raw with
  | nil => rfl
  | cons b raw ih =>
    have hb := b.toNat_lt
    have hhigh : b.toNat / 16 < 16 := by omega
    have hlow : b.toNat % 16 < 16 := by omega
    have hbyte : 16 * (b.toNat / 16) + b.toNat % 16 = b.toNat := Nat.div_add_mod _ _
    have hcons : Base64.hex (b :: raw) =
        (b.toNat / 16).digitChar :: (b.toNat % 16).digitChar :: Base64.hex raw := rfl
    rw [hcons, fromhex, blank_digitChar hhigh, hexVal_digitChar hhigh, hexVal_digitChar hlow, ih]
    change some (UInt8.ofNat (16 * (b.toNat / 16) + b.toNat % 16) :: raw) = _
    rw [hbyte, UInt8.ofNat_toNat]

/-- The bytes of a text in UTF-8 are counted. -/
theorem length_utf8 (s : List Char) : (Sealed.utf8 s).length = textSize s := by
  rw [Sealed.utf8, List.length_flatMap, textSize]
  exact congrArg List.sum (List.map_congr_left fun c _ => String.length_utf8EncodeChar c)

theorem length_hex_json (document : Json) : (hex_json document).length = 2 * document.size := by
  rw [hex_json, String.length_ofList, Base64.length_hex, Sealed.canonical_json, length_utf8]
  rfl

theorem textSize_escape_digitChar {n : ℕ} (h : n < 16) :
    textSize (escapeChar n.digitChar) = 1 := by
  interval_cases n <;> rfl

/-- Hexadecimal digits are written as they are. -/
theorem textSize_escape_hex (raw : Base64.Bytes) :
    textSize ((Base64.hex raw).flatMap escapeChar) = 2 * raw.length := by
  induction raw with
  | nil => rfl
  | cons b raw ih =>
    have hb := b.toNat_lt
    have hcons : Base64.hex (b :: raw) =
        (b.toNat / 16).digitChar :: (b.toNat % 16).digitChar :: Base64.hex raw := rfl
    rw [hcons, List.flatMap_cons, List.flatMap_cons, textSize_append, textSize_append, ih,
      textSize_escape_digitChar (by omega), textSize_escape_digitChar (by omega),
      List.length_cons]
    omega

/-- What a text costs, with its quotes. -/
theorem size_str (s : String) : (Json.str s).size = textSize (s.toList.flatMap escapeChar) + 2 := by
  rw [Json.size, dumps, dumpStr, textSize_cons, textSize_append]
  simp only [textSize_cons, textSize_nil, show '"'.utf8Size = 1 from rfl]
  omega

theorem size_hex_json (document : Json) :
    (Json.str (hex_json document)).size = 2 * document.size + 2 := by
  rw [size_str, hex_json, String.toList_ofList, textSize_escape_hex, Sealed.canonical_json,
    length_utf8]
  rfl

/-! ## Reading what was written -/

variable (H : Crypto) (revision identity_digest : Digest)

theorem nodup_cursor_keys (v r ih n d : Json) :
    (([("v", v), ("r", r), ("ih", ih), ("n", n), ("d", d)] : List (String × Json)).map
      Prod.fst).Nodup := by
  simp

theorem storable_cursor_document (next_subject : String) :
    Storable (cursor_document H revision identity_digest next_subject) := by
  rw [cursor_document, storable_dict (nodup_cursor_keys _ _ _ _ _)]
  simp [Crypto.json_ident]

theorem cursor_subject_document (next_subject : String) :
    cursor_subject H revision identity_digest
      (encode_cursor H revision identity_digest next_subject)
      (cursor_document H revision identity_digest next_subject) = some next_subject := by
  have hitem {key : String} {value : Json} (h : (key, value) ∈
      [("v", Json.str CONTRACT_VERSION), ("r", .str (ident revision)),
        ("ih", .str (ident identity_digest)), ("n", .str next_subject),
        ("d", H.json_ident (cursor_core (.str CONTRACT_VERSION) (.str (ident revision))
          (.str (ident identity_digest)) (.str next_subject)))]) :
      item (cursor_document H revision identity_digest next_subject) key = value :=
    item_dict (nodup_cursor_keys _ _ _ _ _) h
  have hv : item (cursor_document H revision identity_digest next_subject) "v" =
    .str CONTRACT_VERSION := hitem (by simp)
  have hr : item (cursor_document H revision identity_digest next_subject) "r" =
    .str (ident revision) := hitem (by simp)
  have hih : item (cursor_document H revision identity_digest next_subject) "ih" =
    .str (ident identity_digest) := hitem (by simp)
  have hn : item (cursor_document H revision identity_digest next_subject) "n" =
    .str next_subject := hitem (by simp)
  have hd : item (cursor_document H revision identity_digest next_subject) "d" = _ :=
    hitem (List.mem_append_right [_, _, _, _] (List.mem_singleton.2 rfl))
  have hkeys : exact_keys (cursor_document H revision identity_digest next_subject)
      ["v", "r", "ih", "n", "d"] = true :=
    exact_keys_dict (nodup_cursor_keys _ _ _ _ _) fun _ => Iff.rfl
  rw [cursor_subject, hv, hr, hih, hn, if_pos ⟨hkeys, rfl, hd, rfl, rfl, rfl⟩]

/-- A cursor that is not too long is read as the subject that it was written for. -/
theorem read_encode_cursor {next_subject : String}
    (h : (encode_cursor H revision identity_digest next_subject).length ≤ MAX_CURSOR_CHARS) :
    read_cursor H revision identity_digest (encode_cursor H revision identity_digest next_subject) =
      some next_subject := by
  have hne : encode_cursor H revision identity_digest next_subject ≠ "" := by
    intro he
    have hlength := length_hex_json (cursor_document H revision identity_digest next_subject)
    rw [← encode_cursor, he, cursor_document, size_dict (nodup_cursor_keys _ _ _ _ _)
      (List.cons_ne_nil _ _)] at hlength
    simp at hlength
  obtain ⟨hwf, hints⟩ := storable_cursor_document H revision identity_digest next_subject
  have hbytes : fromhex (encode_cursor H revision identity_digest next_subject).toList =
      some (Sealed.canonical_json (cursor_document H revision identity_digest next_subject)) := by
    rw [encode_cursor, hex_json, String.toList_ofList, fromhex_hex]
  rw [read_cursor, if_neg (by simp [hne, h]), hbytes, Option.bind_some,
    Sealed.json_loads_canonical_json hwf hints, Option.bind_some, cursor_subject_document]

theorem decode_encode_cursor {subjects : List String} {ref : String} (href : ref ∈ subjects)
    (h : (encode_cursor H revision identity_digest ref).length ≤ MAX_CURSOR_CHARS) :
    decode_cursor H (some (encode_cursor H revision identity_digest ref)) revision
      identity_digest subjects = .ok (subjects.idxOf ref) := by
  rw [decode_cursor.eq_def]
  simp only [read_encode_cursor H revision identity_digest h, if_pos href]

/-- What is read of a cursor that was written, if it is read, is the place of its subject. -/
theorem start_of_encode_cursor {subjects : List String} {ref : String} (href : ref ∈ subjects)
    {start : ℕ} (h : decode_cursor H (some (encode_cursor H revision identity_digest ref))
      revision identity_digest subjects = .ok start) : start = subjects.idxOf ref := by
  by_cases hlength : (encode_cursor H revision identity_digest ref).length ≤ MAX_CURSOR_CHARS
  · rw [decode_encode_cursor H revision identity_digest href hlength] at h
    exact (Except.ok.inj h).symm
  · have hnone : read_cursor H revision identity_digest
        (encode_cursor H revision identity_digest ref) = none := by
      rw [read_cursor, if_pos (.inr (not_le.1 hlength))]
    rw [decode_cursor.eq_def] at h
    simp only [hnone] at h
    cases h

/-! ## How long a cursor is -/

theorem utf8Size_digitChar {n : ℕ} (h : n < 16) : n.digitChar.utf8Size = 1 := by
  interval_cases n <;> rfl

theorem textSize_escapeChar_le (c : Char) : textSize (escapeChar c) ≤ 6 := by
  rw [escapeChar]
  split_ifs with _ _ _ _ _ _ _ hlow
  · decide
  · decide
  · decide
  · decide
  · decide
  · decide
  · decide
  · simp only [textSize_cons, textSize_nil, utf8Size_digitChar (show c.toNat / 16 < 16 by omega),
      utf8Size_digitChar (show c.toNat % 16 < 16 by omega)]
    decide
  · rw [textSize_cons, textSize_nil]
    have := c.utf8Size_le_four
    omega

/-- A text takes six bytes for each character at most, and its quotes. -/
theorem size_str_le (s : String) : (Json.str s).size ≤ 6 * s.length + 2 := by
  have hlist (l : List Char) : textSize (l.flatMap escapeChar) ≤ 6 * l.length := by
    induction l with
    | nil => exact le_rfl
    | cons c l ih =>
      have := textSize_escapeChar_le c
      rw [List.flatMap_cons, textSize_append, List.length_cons]
      omega
  rw [size_str]
  exact Nat.add_le_add_right ((hlist s.toList).trans_eq (by rw [String.length_toList])) 2

/-- A digest of 256 bits is written with 64 digits. -/
theorem length_ident {d : Digest} (h : d < 16 ^ 64) : (ident d).length = 71 := by
  have hdigits : (Nat.toDigits 16 d).length ≤ 64 :=
    (Nat.length_toDigits_le_iff (by decide) (by decide)).2 h
  rw [ident, String.length_ofList, List.length_append, hexDigits, List.length_leftpad,
    max_eq_left hdigits]
  rfl

/-- The parts between colons, and the colons. -/
theorem length_split_colons (s : List Char) :
    ((split_colons s).map List.length).sum + (split_colons s).length = s.length + 1 := by
  induction s with
  | nil => rfl
  | cons c s ih =>
    rw [split_colons]
    cases hparts : split_colons s with
    | nil => simp [hparts] at ih
    | cons part parts =>
      rw [hparts] at ih
      simp only [List.map_cons, List.sum_cons, List.length_cons] at ih ⊢
      split_ifs
      · simp only [List.map_cons, List.sum_cons, List.length_cons, List.length_nil]
        omega
      · simp only [List.map_cons, List.sum_cons, List.length_cons]
        omega

theorem length_of_subject_kind {kind : String} (h : kind ∈ subject_kinds) : kind.length ≤ 11 := by
  simp only [subject_kinds, List.mem_cons, List.not_mem_nil, or_false] at h
  rcases h with rfl | rfl | rfl | rfl | rfl | rfl | rfl | rfl | rfl | rfl | rfl <;> decide

/-- A subject that can be parsed has a bounded length. -/
theorem length_of_parse_subject_ref {s : String}
    (h : (parse_subject_ref (.str s)).isSome = true) : s.length ≤ 129 := by
  have hparts := length_split_colons s.toList
  rw [parse_subject_ref] at h
  split at h
  · rename_i p t v kind space id hsplit
    split_ifs at h with hgrammar
    · obtain ⟨rfl, rfl, rfl, hkind, -, hspace, -, -, hid, -⟩ := hgrammar
      have hlength := length_of_subject_kind hkind
      rw [String.length_ofList] at hlength
      rw [hsplit] at hparts
      simp only [List.map_cons, List.map_nil, List.sum_cons, List.sum_nil, List.length_cons,
        List.length_nil, String.length_toList] at hparts
      have hp : "an-kla".length = 6 := rfl
      have ht : "subject".length = 7 := rfl
      have hv : "v1".length = 2 := rfl
      omega
    · simp at h
  · simp at h

/-- Digests of 256 bits and a subject that can be parsed make a cursor that is not too long. -/
theorem length_encode_cursor {ref : String} (href : (parse_subject_ref (.str ref)).isSome = true)
    (hrevision : revision < 16 ^ 64) (hidentity : identity_digest < 16 ^ 64)
    (hcore : H.digest_json (cursor_core (.str CONTRACT_VERSION) (.str (ident revision))
      (.str (ident identity_digest)) (.str ref)) < 16 ^ 64) :
    (encode_cursor H revision identity_digest ref).length ≤ MAX_CURSOR_CHARS := by
  have h1 := size_str_le (ident revision)
  have h2 := size_str_le (ident identity_digest)
  have h3 := size_str_le ref
  have h4 := size_str_le (ident (H.digest_json (cursor_core (.str CONTRACT_VERSION)
    (.str (ident revision)) (.str (ident identity_digest)) (.str ref))))
  rw [length_ident hrevision] at h1
  rw [length_ident hidentity] at h2
  rw [length_ident hcore] at h4
  have href' := length_of_parse_subject_ref href
  rw [encode_cursor, length_hex_json, cursor_document,
    size_dict (nodup_cursor_keys _ _ _ _ _) (List.cons_ne_nil _ _)]
  simp only [Json.itemsSize_cons, Json.itemsSize_nil, Crypto.json_ident, MAX_CURSOR_CHARS]
  have hversion : (Json.str CONTRACT_VERSION).size = 11 := by decide
  have hkeys : textSize (dumpStr "v") = 3 ∧ textSize (dumpStr "r") = 3 ∧
      textSize (dumpStr "ih") = 4 ∧ textSize (dumpStr "n") = 3 ∧ textSize (dumpStr "d") = 3 := by
    decide
  omega

end AnKla
