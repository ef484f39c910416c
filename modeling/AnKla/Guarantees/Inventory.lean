import AnKla.Guarantees.Updates
import AnKla.Readers.Cursor
import AnKla.Readers.Inventory

/-!
# The inventory partitions a store

* `cursor_decode_encode`: a cursor is read as the place that it was written for.
* `AddsUp`, `adds_stream_counts`: the counters of a stream add up, whatever the statuses are.
* `observable_status_overlay`: where the status of a record comes from.
* `PagesFrom`: the pages from a cursor to the last.
* `Partitions`, `inventory_partitions`: what the inventory promises.
* `named_record_physical`: a record that says of itself what the map says of it.
-/

namespace AnKla

open PyJson Durable Base64

variable {H : Crypto}

/-! ## Base64 -/

theorem of_urlsafe_to_urlsafe {n : ℕ} (h : n < 64) : of_urlsafe (to_urlsafe (sextet n)) = sextet n := by
  interval_cases n <;> rfl

theorem urlsafe_ascii {n : ℕ} (h : n < 64) : (to_urlsafe (sextet n)).toNat < 128 := by
  interval_cases n <;> decide

/-- The characters of an encoding. -/
theorem mem_b64encode {raw : Bytes} {c : Char} (h : c ∈ b64encode raw) :
    c = '=' ∨ ∃ n < 64, c = sextet n := by
  fun_induction b64encode raw with
  | case1 => cases h
  | case2 a =>
    have ha := a.toNat_lt
    simp only [List.mem_cons, List.not_mem_nil, or_false] at h
    obtain rfl | rfl | rfl | rfl := h
    · exact .inr ⟨_, by omega, rfl⟩
    · exact .inr ⟨_, by omega, rfl⟩
    · exact .inl rfl
    · exact .inl rfl
  | case3 a b =>
    have ha := a.toNat_lt
    have hb := b.toNat_lt
    simp only [List.mem_cons, List.not_mem_nil, or_false] at h
    obtain rfl | rfl | rfl | rfl := h
    · exact .inr ⟨_, by omega, rfl⟩
    · exact .inr ⟨_, by omega, rfl⟩
    · exact .inr ⟨_, by omega, rfl⟩
    · exact .inl rfl
  | case4 a b c' rest ih =>
    have ha := a.toNat_lt
    have hb := b.toNat_lt
    have hc := c'.toNat_lt
    simp only [List.mem_cons] at h
    obtain rfl | rfl | rfl | rfl | h := h
    · exact .inr ⟨_, by omega, rfl⟩
    · exact .inr ⟨_, by omega, rfl⟩
    · exact .inr ⟨_, by omega, rfl⟩
    · exact .inr ⟨_, by omega, rfl⟩
    · exact ih h

theorem map_urlsafe (raw : Bytes) :
    ((b64encode raw).map to_urlsafe).map of_urlsafe = b64encode raw := by
  rw [List.map_map]
  refine (List.map_congr_left fun c hc => ?_).trans (List.map_id _)
  obtain rfl | ⟨n, hn, rfl⟩ := mem_b64encode hc
  · rfl
  · exact of_urlsafe_to_urlsafe hn

/-- One character of a group is read. -/
theorem a2b_base64_sextet {n : ℕ} (h : n < 64) (quad left pads : ℕ) (s : List Char) :
    a2b_base64 quad left pads (sextet n :: s) =
      match quad with
      | 0 => a2b_base64 1 n 0 s
      | 1 => (a2b_base64 2 (n % 16) 0 s).map (UInt8.ofNat (left * 4 + n / 16) :: ·)
      | 2 => (a2b_base64 3 (n % 4) 0 s).map (UInt8.ofNat (left * 16 + n / 4) :: ·)
      | _ => (a2b_base64 0 0 0 s).map (UInt8.ofNat (left * 64 + n) :: ·) := by
  rcases quad with _ | _ | _ | quad
  all_goals
    rw [a2b_base64.eq_def]
    simp only [if_neg (sextet_ne_pad h), sextet?_sextet h]

/-- What is written is read, by the reader that skips characters too. -/
theorem a2b_base64_b64encode (raw : Bytes) : a2b_base64 0 0 0 (b64encode raw) = some raw := by
  fun_induction b64encode raw with
  | case1 => rfl
  | case2 a =>
    have ha := a.toNat_lt
    rw [a2b_base64_sextet (by omega)]
    simp only
    rw [a2b_base64_sextet (by omega)]
    simp only [a2b_base64, if_true]
    rw [ofNat_eq a (by omega)]
    rfl
  | case3 a b =>
    have ha := a.toNat_lt
    have hb := b.toNat_lt
    rw [a2b_base64_sextet (by omega)]
    simp only
    rw [a2b_base64_sextet (by omega)]
    simp only
    rw [a2b_base64_sextet (by omega)]
    simp only [a2b_base64, if_true]
    rw [ofNat_eq a (by omega), ofNat_eq b (by omega)]
    rfl
  | case4 a b c rest ih =>
    have ha := a.toNat_lt
    have hb := b.toNat_lt
    have hc := c.toNat_lt
    rw [a2b_base64_sextet (by omega)]
    simp only
    rw [a2b_base64_sextet (by omega)]
    simp only
    rw [a2b_base64_sextet (by omega)]
    simp only
    rw [a2b_base64_sextet (by omega)]
    simp only [ih, Option.map_some, Option.some.injEq]
    rw [ofNat_eq a (by omega), ofNat_eq b (by omega), ofNat_eq c (by omega)]

theorem length_b64encode (raw : Bytes) : (b64encode raw).length = 4 * ((raw.length + 2) / 3) := by
  fun_induction b64encode raw with
  | case1 => rfl
  | case2 => simp
  | case3 => simp
  | case4 a b c rest ih =>
    simp only [List.length_cons, ih]
    omega

/-! ## Cursors -/

theorem skipWs_space (t : List Char) : skipWs (' ' :: t) = skipWs t := by
  rw [skipWs, List.dropWhile_cons_of_pos (by decide)]
  rfl

/-- An item with a blank before its value. -/
theorem parseItem_spaced {n : ℕ} {k : String} {v : Json} {r : List Char}
    (hv : parseValue n (dumps v ++ r) = some (v, r)) :
    parseItem (n + 1) (dumpStr k ++ ':' :: ' ' :: (dumps v ++ r)) = some ((k, v), r) := by
  rw [dumpStr_append, parseItem, if_pos rfl, parseString_dumpStr, Option.bind_some]
  simp only
  rw [skipWs_of_not_isWs _ (by decide)]
  simp only [if_true]
  rw [skipWs_space, skipWs_dumps, hv, Option.map_some, String.ofList_toList]

theorem skipWs_dumpStr (s : String) (r : List Char) : skipWs (dumpStr s ++ r) = dumpStr s ++ r := by
  rw [dumpStr_append, skipWs_of_not_isWs _ (by decide)]

/-- The document of a cursor. -/
def cursor_object (revision : Digest) (offset : ℕ) : Json :=
  dict [("revision", .str (ident revision)), ("offset", .int offset)]

theorem cursor_payload_eq (revision : Digest) (offset : ℕ) : cursor_payload revision offset =
    '{' :: (dumpStr "revision" ++ ':' :: ' ' :: (dumps (.str (ident revision)) ++ ',' :: ' ' ::
      (dumpStr "offset" ++ ':' :: ' ' :: (dumps (.int offset) ++ ['}'])))) := by
  simp only [cursor_payload, dumps, List.append_assoc, List.cons_append, List.nil_append]

theorem loads_cursor_payload (revision : Digest) {offset : ℕ}
    (h : (Json.int offset).intsFit = true) :
    loads (cursor_payload revision offset) = some (cursor_object revision offset) := by
  obtain ⟨n, hn⟩ : ∃ n, (cursor_payload revision offset).length = n + 3 ∧
      (dumps (.str (ident revision))).length < n + 2 ∧ (dumps (.int offset)).length < n + 1 := by
    refine ⟨(cursor_payload revision offset).length - 3, ?_⟩
    rw [cursor_payload_eq]
    simp only [List.length_cons, List.length_append, List.length_nil]
    omega
  obtain ⟨hlen, hrevision, hoffset⟩ := hn
  have hend : NumEnd ['}'] := NumEnd.head _ (by decide)
  have hcomma : NumEnd (',' :: ' ' :: (dumpStr "offset" ++ ':' :: ' ' ::
    (dumps (.int offset) ++ ['}']))) := NumEnd.head _ (by decide)
  have hfirst := parseItem_spaced (k := "revision")
    (parseValue_dumps (.str (ident revision)) (n + 2) _ trivial rfl hrevision hcomma)
  have hsecond := parseItem_spaced (k := "offset")
    (parseValue_dumps (.int offset) (n + 1) _ trivial h hoffset hend)
  have hquote (s : String) (r : List Char) : ∃ t, dumpStr s ++ r = '"' :: t := ⟨_, dumpStr_append s r⟩
  obtain ⟨t, ht⟩ := hquote "revision" (':' :: ' ' :: (dumps (.str (ident revision)) ++ ',' :: ' ' ::
    (dumpStr "offset" ++ ':' :: ' ' :: (dumps (.int offset) ++ ['}']))))
  rw [loads, hlen, cursor_payload_eq, skipWs_of_not_isWs _ (by decide), parseValue,
    if_neg (by decide), if_pos rfl, skipWs_dumpStr]
  simp only [ht, show ('"' = '}') = False by decide, if_false]
  rw [← ht, hfirst, Option.bind_some]
  simp only
  rw [skipWs_of_not_isWs _ (by decide), parseObjRest, if_neg (by decide), if_pos rfl, skipWs_space,
    skipWs_dumpStr, hsecond, Option.bind_some]
  simp only
  rw [skipWs_of_not_isWs _ (by decide), parseObjRest, if_pos rfl]
  rfl

theorem intsFit_offset {offset : ℕ} (h : offset < 10 ^ maxIntDigits) :
    (Json.int offset).intsFit = true := by
  have hlen : (Nat.toDigits 10 offset).length ≤ maxIntDigits :=
    (Nat.length_toDigits_le_iff (by decide) (by decide)).2 h
  rw [Json.intsFit, decide_eq_true_eq]
  exact (List.countP_le_length (p := Char.isDigit)).trans hlen

/-- A cursor of a digest of 256 bits is not too long. -/
theorem length_cursor_encode {revision : Digest} {offset : ℕ} (hr : revision < 16 ^ 64)
    (h : offset < 10 ^ maxIntDigits) :
    (cursor_encode revision offset).length ≤ MAX_CURSOR_CHARS := by
  have hlen : (Nat.toDigits 10 offset).length ≤ maxIntDigits :=
    (Nat.length_toDigits_le_iff (by decide) (by decide)).2 h
  have hident := size_str_le (ident revision)
  rw [length_ident hr] at hident
  have hoffset : textSize (dumps (.int offset)) ≤ maxIntDigits := by
    rw [show dumps (.int (offset : ℤ)) = Nat.toDigits 10 offset from rfl, textSize_toDigits]
    exact hlen
  have hkeys : textSize (dumpStr "revision") = 10 ∧ textSize (dumpStr "offset") = 8 := by decide
  have hsize : textSize (cursor_payload revision offset) ≤ 4800 := by
    rw [cursor_payload_eq]
    simp only [textSize_cons, textSize_append, textSize_nil, hkeys,
      show '{'.utf8Size = 1 from rfl, show '}'.utf8Size = 1 from rfl,
      show ':'.utf8Size = 1 from rfl, show ' '.utf8Size = 1 from rfl,
      show ','.utf8Size = 1 from rfl]
    rw [Json.size] at hident
    rw [maxIntDigits] at hoffset
    omega
  rw [cursor_encode, String.length_ofList, List.length_map, length_b64encode, length_utf8,
    MAX_CURSOR_CHARS]
  omega

/-- A cursor is read as the place that it was written for. -/
theorem cursor_decode_encode {revision : Digest} {offset total : ℕ} (hr : revision < 16 ^ 64)
    (h : offset < total) (ht : total ≤ 10 ^ maxIntDigits) :
    cursor_decode (cursor_encode revision offset) revision total = .ok offset := by
  have hlt : offset < 10 ^ maxIntDigits := lt_of_lt_of_le h ht
  have hne : cursor_encode revision offset ≠ "" := by
    intro he
    have hlength := congrArg String.length he
    rw [cursor_encode, String.length_ofList, List.length_map, length_b64encode, length_utf8,
      cursor_payload_eq, textSize_cons, show '{'.utf8Size = 1 from rfl] at hlength
    simp only [String.length_empty] at hlength
    omega
  have hascii : (cursor_encode revision offset).toList.all (·.toNat < 128) = true := by
    rw [cursor_encode, String.toList_ofList, List.all_map, List.all_eq_true]
    intro c hc
    obtain rfl | ⟨n, hn, rfl⟩ := mem_b64encode hc
    · decide
    · exact decide_eq_true (urlsafe_ascii hn)
  have hjson : cursor_json (cursor_encode revision offset) = some (cursor_object revision offset) := by
    rw [cursor_json, if_neg (by
      simp only [hne, hascii, not_true_eq_false, or_false, false_or, not_lt]
      exact length_cursor_encode hr hlt)]
    rw [cursor_encode, String.toList_ofList, map_urlsafe, a2b_base64_b64encode, Option.bind_some,
      Sealed.json_loads, Sealed.decode_utf8_utf8, Option.bind_some,
      loads_cursor_payload revision (intsFit_offset hlt)]
  have hkeys : exact_keys (cursor_object revision offset) ["revision", "offset"] = true :=
    exact_keys_dict (by simp) fun _ => Iff.rfl
  have hrevision : item (cursor_object revision offset) "revision" = .str (ident revision) :=
    item_dict (by simp) (by simp)
  have hoffset : item (cursor_object revision offset) "offset" = .int offset :=
    item_dict (by simp) (by simp)
  rw [cursor_decode, hjson]
  simp only [hoffset, hkeys, hrevision, true_and]
  rw [if_pos ⟨Int.natCast_nonneg _, by exact_mod_cast h⟩, Int.toNat_natCast]

/-! ## Counts -/

/-- What the counters say, the total left out. -/
def buckets (counts : Counts) : ℕ := ((counts.filter (·.1 ≠ "total")).map Prod.snd).sum

/-- The counters other than the total add up to it. -/
structure AddsUp (counts : Counts) (n : ℕ) : Prop where
  nodup : (counts.map Prod.fst).Nodup
  total : ("total", n) ∈ counts
  sum : buckets counts = n

theorem bump_key_of_mem {counts : Counts} {key : String} (h : key ∈ counts.map Prod.fst) :
    bump_key counts key = counts.map fun kv => if kv.1 = key then (kv.1, kv.2 + 1) else kv := by
  obtain ⟨kv, hkv, rfl⟩ := List.mem_map.1 h
  exact if_pos (List.any_eq_true.2 ⟨kv, hkv, decide_eq_true rfl⟩)

theorem bump_key_of_not_mem {counts : Counts} {key : String} (h : key ∉ counts.map Prod.fst) :
    bump_key counts key = counts ++ [(key, 1)] := by
  refine if_neg fun hany => h ?_
  obtain ⟨kv, hkv, hk⟩ := List.any_eq_true.1 hany
  exact List.mem_map.2 ⟨kv, hkv, of_decide_eq_true hk⟩

/-- A counter that goes up leaves the keys alone. -/
theorem keys_bumped (counts : Counts) (key : String) :
    (counts.map fun kv => if kv.1 = key then (kv.1, kv.2 + 1) else kv).map Prod.fst =
      counts.map Prod.fst := by
  rw [List.map_map]
  refine List.map_congr_left fun kv _ => ?_
  rw [Function.comp_apply]
  split_ifs <;> rfl

theorem nodup_bump {counts : Counts} (h : (counts.map Prod.fst).Nodup) (key : String) :
    ((bump_key counts key).map Prod.fst).Nodup := by
  by_cases hmem : key ∈ counts.map Prod.fst
  · rw [bump_key_of_mem hmem, keys_bumped]
    exact h
  · rw [bump_key_of_not_mem hmem, List.map_append, List.nodup_append]
    refine ⟨h, List.nodup_singleton _, fun a ha b hb => ?_⟩
    obtain rfl : b = key := List.mem_singleton.1 hb
    rintro rfl
    exact hmem ha

theorem buckets_cons (kv : String × ℕ) (counts : Counts) :
    buckets (kv :: counts) = (if kv.1 = "total" then 0 else kv.2) + buckets counts := by
  rw [buckets, List.filter_cons]
  by_cases h : kv.1 = "total"
  · simp [h, buckets]
  · simp [h, buckets]

theorem buckets_append (counts counts' : Counts) :
    buckets (counts ++ counts') = buckets counts + buckets counts' := by
  rw [buckets, List.filter_append, List.map_append, List.sum_append]
  rfl

/-- The total is no bucket. -/
theorem buckets_bump_total {counts : Counts} (h : "total" ∈ counts.map Prod.fst) :
    buckets (bump_key counts "total") = buckets counts := by
  rw [bump_key_of_mem h]
  clear h
  induction counts with
  | nil => rfl
  | cons kv counts ih =>
    rw [List.map_cons, buckets_cons, buckets_cons, ih]
    split_ifs <;> rfl

/-- A counter that goes up, under keys that do not repeat. -/
theorem buckets_bumped {counts : Counts} {key : String} (hk : key ≠ "total")
    (h : (counts.map Prod.fst).Nodup) (hmem : key ∈ counts.map Prod.fst) :
    buckets (counts.map fun kv => if kv.1 = key then (kv.1, kv.2 + 1) else kv) =
      buckets counts + 1 := by
  induction counts with
  | nil => cases hmem
  | cons kv counts ih =>
    rw [List.map_cons, List.nodup_cons] at h
    rw [List.map_cons, buckets_cons, buckets_cons]
    by_cases hkv : kv.1 = key
    · have hrest : (counts.map fun kv => if kv.1 = key then (kv.1, kv.2 + 1) else kv) = counts := by
        refine (List.map_congr_left fun x hx => ?_).trans (List.map_id _)
        refine if_neg fun he => h.1 ?_
        rw [hkv, ← he]
        exact List.mem_map_of_mem hx
      rw [if_pos hkv, hrest, if_neg (hkv ▸ hk), if_neg (hkv ▸ hk)]
      omega
    · obtain he | hmem := List.mem_cons.1 hmem
      · exact absurd he.symm hkv
      · rw [if_neg hkv, ih h.2 hmem]
        omega

theorem buckets_bump {counts : Counts} {key : String} (hk : key ≠ "total")
    (h : (counts.map Prod.fst).Nodup) : buckets (bump_key counts key) = buckets counts + 1 := by
  by_cases hmem : key ∈ counts.map Prod.fst
  · rw [bump_key_of_mem hmem, buckets_bumped hk h hmem]
  · rw [bump_key_of_not_mem hmem, buckets_append, buckets_cons, if_neg hk]
    rfl

theorem mem_bump_ne {counts : Counts} {key : String} {kv : String × ℕ} (h : kv ∈ counts)
    (hk : kv.1 ≠ key) : kv ∈ bump_key counts key := by
  rw [bump_key]
  split_ifs
  · exact List.mem_map.2 ⟨kv, h, if_neg hk⟩
  · exact List.mem_append_left _ h

/-- One more record keeps the sum, whatever its status is. -/
theorem AddsUp.count_status {counts : Counts} {n : ℕ} (h : AddsUp counts n) (status : String) :
    AddsUp (count_status counts status) (n + 1) := by
  have hmem : "total" ∈ counts.map Prod.fst := List.mem_map_of_mem h.total
  have hkey : (if status = "total" then "status:total" else status) ≠ "total" := by
    split_ifs with hs
    · decide
    · exact hs
  have hnodup := nodup_bump h.nodup "total"
  refine ⟨nodup_bump hnodup _, mem_bump_ne ?_ hkey.symm, ?_⟩
  · rw [bump_key_of_mem hmem]
    exact List.mem_map.2 ⟨_, h.total, if_pos rfl⟩
  · rw [AnKla.count_status, buckets_bump hkey hnodup, buckets_bump_total hmem, h.sum]

/-- The counters of a stream add up. -/
theorem adds_stream_counts (records : List InventoryRecord) :
    AddsUp (stream_counts records) records.length := by
  have hrun (counts : Counts) (n : ℕ) (h : AddsUp counts n) :
      AddsUp (records.foldl (fun counts r => AnKla.count_status counts r.status) counts)
        (n + records.length) := by
    induction records generalizing counts n with
    | nil => exact h
    | cons r records ih =>
      rw [List.foldl_cons, List.length_cons, Nat.add_comm records.length, ← Nat.add_assoc]
      exact ih _ _ (h.count_status r.status)
  rw [← Nat.zero_add records.length]
  exact hrun no_counts 0 ⟨by decide, by decide, by decide⟩

/-! ## Overlays -/

variable (H) in
/-- The status that the maps give to a record. -/
def overlay_status (m : Manifest) (stream : Stream) (raw : Json) : Option String :=
  if is_refuted H m stream raw then some "refutada"
  else if is_superseded m stream raw then some "sustituida"
  else none

theorem get?_overlay {m : Manifest} {stream : Stream} {raw : Json} (h : raw.isObj = true) :
    (overlay H m stream raw).get? "status" =
      ((overlay_status H m stream raw).map Json.str).or (raw.get? "status") := by
  rw [overlay, overlay_status]
  by_cases hr : is_refuted H m stream raw = true
  · simp only [hr, if_true]
    rw [Json.get?_set (by split_ifs <;> simp only [isObj_set, h])]
    rfl
  · by_cases hs : is_superseded m stream raw = true
    · simp only [hr, hs, if_true]
      rw [if_neg Bool.false_ne_true, Json.get?_set h]
      rfl
    · simp only [hr, hs]
      rfl

/-- The status of a record and its source, by the status that the maps give to it. -/
def attributed (raw : Json) : Option String → String × String
  | none => (physical_status raw, "physical")
  | some status =>
    if item raw "status" = .str status then (physical_status raw, "physical")
    else (status, if status = "sustituida" then "supersede_overlay" else "refute_overlay")

/-- The status of a record comes from an overlay where a map names the record and the record
    does not say the same of itself. -/
theorem observable_status_overlay {m : Manifest} {stream : Stream} {raw : Json}
    (h : record_id raw ≠ "") : observable_status raw (overlay H m stream raw) =
      attributed raw (overlay_status H m stream raw) := by
  have hitem (status : String) : item raw "status" = .str status ↔
      raw.get? "status" = some (.str status) := by
    rw [item]
    cases raw.get? "status" with
    | none => simp
    | some v => simp
  rw [observable_status, get?_overlay (isObj_of_record_id h)]
  cases hs : overlay_status H m stream raw with
  | none =>
    rw [Option.map_none, Option.none_or]
    cases raw.get? "status" with
    | none => rfl
    | some v =>
      cases v with
      | str s => exact if_neg fun h => h.1 rfl
      | _ => rfl
  | some status =>
    have hne : status ≠ "" := by
      rintro rfl
      rw [overlay_status] at hs
      split_ifs at hs <;> exact absurd (Option.some.inj hs) (by decide)
    rw [attributed]
    simp only [Option.map_some, Option.some_or, hitem]
    by_cases he : raw.get? "status" = some (.str status)
    · rw [if_pos he]
      exact if_neg fun h => h.1 he.symm
    · rw [if_neg he]
      exact if_pos ⟨fun h => he h.symm, hne⟩

/-! ## Rows -/

variable (H) in
/-- A raw record as the inventory lists it. -/
def listed (m : Manifest) (stream : Stream) (raw : Json) : InventoryRecord where
  stream := stream
  id := record_id raw
  record_sha256 := H.digest_json raw
  physical_status := physical_status raw
  status := (attributed raw (overlay_status H m stream raw)).1
  status_source := (attributed raw (overlay_status H m stream raw)).2
  has_subject_ref := is_str (item raw "subject_ref") &&
    (parse_subject_ref (item raw "subject_ref")).isSome
  bytes := raw.size

theorem inventory_record_overlay {m : Manifest} {stream : Stream} {raw : Json}
    (h : record_id raw ≠ "") :
    inventory_record H stream raw (overlay H m stream raw) = some (listed H m stream raw) := by
  rw [inventory_record, inventory_row, if_neg h, observable_status_overlay h]
  rfl

theorem filterMap_zip_map {α β γ : Type*} {f : α → β} {g : α × β → Option γ} {k : α → γ}
    {xs : List α} (h : ∀ x ∈ xs, g (x, f x) = some (k x)) :
    (xs.zip (xs.map f)).filterMap g = xs.map k := by
  induction xs with
  | nil => rfl
  | cons x xs ih =>
    rw [List.map_cons, List.zip_cons_cons,
      List.filterMap_cons_some (h x List.mem_cons_self), List.map_cons,
      ih fun y hy => h y (List.mem_cons_of_mem _ hy)]

/-- Every record of a stream is listed once, in its place. -/
theorem stream_inventory_eq {d : Disk} {revision : Digest} {s : Snapshot}
    (h : snapshot H d revision = .ok s) (stream : Stream) :
    stream_inventory H s stream = (s.raw_records.get stream).map (listed H s.manifest stream) := by
  have hids := (nodup_of_read_segments (read_records_ok.1 (snapshot_reads h).raw stream)
    ⟨by simp, by simp⟩).2
  rw [stream_inventory, (snapshot_reads h).records, PerStream.get_ofFn]
  exact filterMap_zip_map fun raw hraw => inventory_record_overlay (hids raw hraw)

theorem nodup_flatMap_of_fst {α β : Type*} {xs : List α} {f : α → List β} (hx : xs.Nodup)
    (hf : ∀ x ∈ xs, (f x).Nodup) : (xs.flatMap fun x => (f x).map fun y => (x, y)).Nodup := by
  rw [List.nodup_flatMap]
  refine ⟨fun x hxs => (hf x hxs).map (Prod.mk_right_injective x), hx.imp fun hne => ?_⟩
  intro p hp hq
  obtain ⟨y, -, rfl⟩ := List.mem_map.1 hp
  obtain ⟨z, -, he⟩ := List.mem_map.1 hq
  exact hne (congrArg Prod.fst he).symm

/-- The first ones of a list are distinct. -/
theorem nodup_eraseDups {α : Type*} [BEq α] [LawfulBEq α] (xs : List α) : xs.eraseDups.Nodup := by
  induction hk : xs.length using Nat.strong_induction_on generalizing xs with
  | _ k ih =>
    cases xs with
    | nil => exact List.nodup_nil
    | cons x xs =>
      rw [List.eraseDups_cons, List.nodup_cons]
      refine ⟨fun h => ?_, ih _ ?_ _ rfl⟩
      · simpa using List.mem_filter.1 (List.mem_eraseDups.1 h)
      · rw [← hk, List.length_cons]
        exact Nat.lt_succ_of_le (List.length_filter_le _ _)

theorem nodup_selected {streams : Option (List String)} {selected : List Stream}
    (h : inventory_streams streams = .ok selected) : selected.Nodup := by
  rw [inventory_streams] at h
  split at h
  · cases h
    exact nodup_eraseDups _
  · cases h

/-! ## Pages -/

variable (H) in
/-- The rows of some streams. -/
def rows_of (s : Snapshot) (selected : List Stream) : List InventoryRecord :=
  selected.flatMap (stream_inventory H s)

variable (H) in
/-- The page at an offset. -/
def page_at (s : Snapshot) (selected : List Stream) (offset limit : ℕ) : InventoryPage where
  revision := s.revision_id
  streams_searched := selected
  counts := selected.map fun stream => (stream, stream_counts (stream_inventory H s stream))
  complete := decide ((rows_of H s selected).length ≤ offset + limit)
  next_cursor := if (rows_of H s selected).length ≤ offset + limit then none
    else some (cursor_encode s.revision_id (offset + limit))
  served_records := (((rows_of H s selected).drop offset).take limit).length
  total_records := (rows_of H s selected).length
  records := ((rows_of H s selected).drop offset).take limit

/-- The cursor stands for an offset. -/
def Starts (revision : Digest) (total : ℕ) (cursor : Option String) (offset : ℕ) : Prop :=
  cursor = none ∧ offset = 0 ∨ cursor = some (cursor_encode revision offset) ∧ offset < total

theorem page_of_starts {s : Snapshot} {selected : List Stream} {cursor : Option String}
    {offset limit : ℕ} (hr : s.revision_id < 16 ^ 64)
    (hn : (rows_of H s selected).length ≤ 10 ^ maxIntDigits)
    (h : Starts s.revision_id (rows_of H s selected).length cursor offset) :
    page_of H s.revision_id s selected cursor limit = .ok (page_at H s selected offset limit) := by
  obtain ⟨rfl, rfl⟩ | ⟨rfl, hlt⟩ := h
  · rfl
  · rw [page_of]
    simp only
    rw [show selected.flatMap (stream_inventory H s) = rows_of H s selected from rfl,
      cursor_decode_encode hr hlt hn]
    rfl

variable (H) in
/-- The pages from a cursor to the last, each of them with a limit of its own, while the disk
    may change under them. -/
inductive PagesFrom (s : Snapshot) (streams : Option (List String)) :
    Option String → List InventoryPage → Prop
  | last {cursor : Option String} {page : InventoryPage} {d : Disk} {limit : ℤ}
      (read : snapshot H d s.revision_id = .ok s)
      (served : inventory_page H d s.revision_id streams cursor limit = .ok page)
      (complete : page.next_cursor = none) : PagesFrom s streams cursor [page]
  | next {cursor : Option String} {page : InventoryPage} {d : Disk} {limit : ℤ} {c : String}
      {pages : List InventoryPage} (read : snapshot H d s.revision_id = .ok s)
      (served : inventory_page H d s.revision_id streams cursor limit = .ok page)
      (more : page.next_cursor = some c) (rest : PagesFrom s streams (some c) pages) :
      PagesFrom s streams cursor (page :: pages)

variable (H) in
/-- A disk serves pages of a revision. -/
structure Serves (d : Disk) (revision : Digest) (limit : ℤ) : Prop where
  limit : 1 ≤ limit ∧ limit ≤ Inventory.MAX_LIMIT
  unarchived : ∃ current m, read_current d = .ok current ∧ read_manifest H d current = .ok m ∧
    check_archived H d m revision = .ok ()

theorem inventory_page_ok {d : Disk} {revision : Digest} {s : Snapshot}
    {streams : Option (List String)} {selected : List Stream} {cursor : Option String} {limit : ℤ}
    {page : InventoryPage} (hs : snapshot H d revision = .ok s)
    (hsel : inventory_streams streams = .ok selected) :
    inventory_page H d revision streams cursor limit = .ok page ↔
      Serves H d revision limit ∧ page_of H revision s selected cursor limit.toNat = .ok page := by
  rw [inventory_page]
  simp only [bind_ok, ensure_ok, Bool.and_eq_true, decide_eq_true_eq, hs, hsel, Except.ok.injEq]
  constructor
  · rintro ⟨_, hlimit, _, rfl, current, hc, m, hm, _, ha, _, rfl, hp⟩
    exact ⟨⟨hlimit, current, m, hc, hm, ha⟩, hp⟩
  · rintro ⟨⟨hlimit, current, m, hc, hm, ha⟩, hp⟩
    exact ⟨(), hlimit, _, rfl, current, hc, m, hm, (), ha, _, rfl, hp⟩

section Pages

variable {s : Snapshot} {streams : Option (List String)} {selected : List Stream}

/-- A page that is served is the page at its offset. -/
theorem page_eq {d : Disk} {cursor : Option String} {limit : ℤ} {page : InventoryPage}
    {offset : ℕ} (hs : snapshot H d s.revision_id = .ok s)
    (hsel : inventory_streams streams = .ok selected) (hr : s.revision_id < 16 ^ 64)
    (hn : (rows_of H s selected).length ≤ 10 ^ maxIntDigits)
    (h : Starts s.revision_id (rows_of H s selected).length cursor offset)
    (hp : inventory_page H d s.revision_id streams cursor limit = .ok page) :
    page = page_at H s selected offset limit.toNat := by
  have hpage := ((inventory_page_ok hs hsel).1 hp).2
  rw [page_of_starts hr hn h] at hpage
  exact (Except.ok.inj hpage).symm

theorem next_cursor_none {offset limit : ℕ}
    (h : (page_at H s selected offset limit).next_cursor = none) :
    (rows_of H s selected).length ≤ offset + limit := by
  by_contra hlt
  rw [page_at, if_neg hlt] at h
  cases h

theorem next_cursor_some {offset limit : ℕ} {c : String}
    (h : (page_at H s selected offset limit).next_cursor = some c) :
    Starts s.revision_id (rows_of H s selected).length (some c) (offset + limit) := by
  by_cases hle : (rows_of H s selected).length ≤ offset + limit
  · rw [page_at, if_pos hle] at h
    cases h
  · rw [page_at, if_neg hle] at h
    exact .inr ⟨h.symm, Nat.lt_of_not_le hle⟩

/-- From an offset on, the pages list the rows that are left. -/
theorem pages_from_records {cursor : Option String} {pages : List InventoryPage}
    (h : PagesFrom H s streams cursor pages) (hsel : inventory_streams streams = .ok selected)
    (hr : s.revision_id < 16 ^ 64) (hn : (rows_of H s selected).length ≤ 10 ^ maxIntDigits)
    {offset : ℕ} (hstart : Starts s.revision_id (rows_of H s selected).length cursor offset) :
    pages.flatMap (·.records) = (rows_of H s selected).drop offset := by
  induction h generalizing offset with
  | last read served complete =>
    obtain rfl := page_eq read hsel hr hn hstart served
    have hle := next_cursor_none complete
    rw [List.flatMap_singleton]
    exact List.take_of_length_le (by rw [List.length_drop]; omega)
  | next read served more rest ih =>
    obtain rfl := page_eq read hsel hr hn hstart served
    rw [List.flatMap_cons, ih (next_cursor_some more), ← List.drop_drop]
    exact List.take_append_drop _ _

/-- Every page is the page at some offset. -/
theorem pages_from_page {cursor : Option String} {pages : List InventoryPage}
    (h : PagesFrom H s streams cursor pages) (hsel : inventory_streams streams = .ok selected)
    (hr : s.revision_id < 16 ^ 64) (hn : (rows_of H s selected).length ≤ 10 ^ maxIntDigits)
    {offset : ℕ} (hstart : Starts s.revision_id (rows_of H s selected).length cursor offset) :
    ∀ page ∈ pages, ∃ k limit, page = page_at H s selected k limit := by
  induction h generalizing offset with
  | last read served complete =>
    obtain rfl := page_eq read hsel hr hn hstart served
    intro page hpage
    exact ⟨_, _, List.mem_singleton.1 hpage⟩
  | next read served more rest ih =>
    obtain rfl := page_eq read hsel hr hn hstart served
    intro page hpage
    obtain rfl | hpage := List.mem_cons.1 hpage
    · exact ⟨_, _, rfl⟩
    · exact ih (next_cursor_some more) page hpage

/-- A page that is served is followed by others to the end. -/
theorem pages_from_end {d : Disk} {cursor : Option String} {limit : ℤ} {page : InventoryPage}
    {offset : ℕ} (hs : snapshot H d s.revision_id = .ok s)
    (hsel : inventory_streams streams = .ok selected) (hr : s.revision_id < 16 ^ 64)
    (hn : (rows_of H s selected).length ≤ 10 ^ maxIntDigits)
    (hstart : Starts s.revision_id (rows_of H s selected).length cursor offset)
    (hp : inventory_page H d s.revision_id streams cursor limit = .ok page) :
    ∃ pages, PagesFrom H s streams cursor (page :: pages) := by
  have hserves := ((inventory_page_ok hs hsel).1 hp).1
  have hlimit : 1 ≤ limit.toNat := by
    have := hserves.limit.1
    omega
  -- what is left of the rows shrinks with every page
  induction hk : (rows_of H s selected).length - offset using Nat.strong_induction_on
    generalizing cursor page offset with
  | _ k ih =>
    have hpage := page_eq hs hsel hr hn hstart hp
    cases hc : page.next_cursor with
    | none => exact ⟨[], .last hs hp hc⟩
    | some c =>
      have hnext := next_cursor_some (hpage ▸ hc)
      have hlt : offset + limit.toNat < (rows_of H s selected).length := by
        obtain ⟨he, -⟩ | ⟨-, hlt⟩ := hnext
        · cases he
        · exact hlt
      have hp' : inventory_page H d s.revision_id streams (some c) limit =
          .ok (page_at H s selected (offset + limit.toNat) limit.toNat) :=
        (inventory_page_ok hs hsel).2 ⟨hserves, page_of_starts hr hn hnext⟩
      obtain ⟨pages, hpages⟩ := ih _ (by omega) hnext hp' rfl
      exact ⟨_, .next hs hp hc hpages⟩

end Pages

/-! ## The partition -/

variable (H) in
/-- What the inventory promises of a snapshot. -/
structure Partitions (s : Snapshot) (streams : Option (List String)) (selected : List Stream) :
    Prop where
  /-- No record has the stream and the id of another. -/
  distinct : (selected.flatMap fun stream =>
    (s.raw_records.get stream).map fun raw => (stream, record_id raw)).Nodup
  /-- The pages list all records, in order. -/
  lists : ∀ pages, PagesFrom H s streams none pages → pages.flatMap (·.records) =
    selected.flatMap fun stream => (s.raw_records.get stream).map (listed H s.manifest stream)
  /-- After every first page there is a last one. -/
  ends : ∀ d limit page, snapshot H d s.revision_id = .ok s →
    inventory_page H d s.revision_id streams none limit = .ok page →
      ∃ pages, PagesFrom H s streams none (page :: pages)
  /-- On every page the counters add up. -/
  adds : ∀ pages, PagesFrom H s streams none pages → ∀ page ∈ pages,
    page.counts.map Prod.fst = selected ∧
      (∀ c ∈ page.counts, AddsUp c.2 (s.raw_records.get c.1).length) ∧
      (page.counts.map fun c => buckets c.2).sum = page.total_records
  /-- A status is of an overlay where a map names the record, which does not say so itself. -/
  attributes : ∀ stream ∈ selected, ∀ raw ∈ s.raw_records.get stream,
    (listed H s.manifest stream raw).status_source ≠ "physical" ↔
      ∃ status, overlay_status H s.manifest stream raw = some status ∧
        item raw "status" ≠ .str status

theorem attributed_physical {raw : Json} {o : Option String} :
    (attributed raw o).2 ≠ "physical" ↔ ∃ status, o = some status ∧ item raw "status" ≠ .str status := by
  cases o with
  | none => simp [attributed]
  | some status =>
    rw [attributed]
    by_cases h : item raw "status" = .str status
    · simp [h]
    · simp only [if_neg h, Option.some.injEq, exists_eq_left']
      refine iff_of_true ?_ h
      split_ifs <;> decide

theorem sum_buckets {s : Snapshot} (selected : List Stream) :
    ((selected.map fun stream => (stream, stream_counts (stream_inventory H s stream))).map
      fun c => buckets c.2).sum = (rows_of H s selected).length := by
  rw [rows_of, List.length_flatMap, List.map_map]
  exact congrArg _ (List.map_congr_left fun stream _ => (adds_stream_counts _).sum)

/-- The inventory partitions a store: the revision is a number of 256 bits, and the numbers of
    its records are numbers that a reader of JSON takes. -/
theorem inventory_partitions {d : Disk} {s : Snapshot} {streams : Option (List String)}
    {selected : List Stream} (hs : snapshot H d s.revision_id = .ok s)
    (hsel : inventory_streams streams = .ok selected) (hr : s.revision_id < 16 ^ 64)
    (hn : (selected.flatMap s.raw_records.get).length ≤ 10 ^ maxIntDigits) :
    Partitions H s streams selected := by
  have hrows : rows_of H s selected = selected.flatMap fun stream =>
      (s.raw_records.get stream).map (listed H s.manifest stream) :=
    congrArg (selected.flatMap ·) (funext fun stream => stream_inventory_eq hs stream)
  have hlen : (rows_of H s selected).length ≤ 10 ^ maxIntDigits := by
    rw [hrows, List.length_flatMap]
    rw [List.length_flatMap] at hn
    simpa only [List.length_map] using hn
  have hstart : Starts s.revision_id (rows_of H s selected).length none 0 := .inl ⟨rfl, rfl⟩
  refine ⟨?_, fun pages h => ?_, fun d' limit page hs' hp => pages_from_end hs' hsel hr hlen hstart hp,
    fun pages h page hpage => ?_, fun stream _ raw _ => attributed_physical⟩
  · have hids (stream : Stream) : ((s.raw_records.get stream).map record_id).Nodup :=
      (nodup_of_read_segments (read_records_ok.1 (snapshot_reads hs).raw stream) ⟨by simp, by simp⟩).1
    convert nodup_flatMap_of_fst (nodup_selected hsel) fun stream _ => hids stream using 3
    rw [List.map_map]
    rfl
  · rw [pages_from_records h hsel hr hlen hstart, List.drop_zero, hrows]
  · obtain ⟨k, limit, rfl⟩ := pages_from_page h hsel hr hlen hstart page hpage
    refine ⟨?_, fun c hc => ?_, sum_buckets selected⟩
    · rw [page_at, List.map_map]
      exact List.map_id _
    · obtain ⟨stream, -, rfl⟩ := List.mem_map.1 hc
      have hadds := adds_stream_counts (stream_inventory H s stream)
      rwa [stream_inventory_eq hs, List.length_map, ← stream_inventory_eq hs] at hadds

/-! ## A record that says what the map says

The record f-1 has the status of a superseded record of its own, and the map names it. -/

namespace SelfNamed

def old : Json := dict [("id", .str "f-1"), ("status", .str "sustituida")]

def successor : Json := dict [("id", .str "f-2")]

def child : Manifest :=
  { OneFact.genesis with
    revision := 1, parent := some 5, segments := ⟨[12], [], []⟩, transaction_id := .uuid 9
    supersedes_map := some [⟨.facts, "f-1", "f-2"⟩] }

theorem ordered : Ordered (OneFact.init_contents ++
    [.segment (writeLines [old, successor]), .manifest child]) :=
  ordered_of_supposed (by decide +kernel) (by decide +kernel)

/-- A host that numbers these contents by their places. -/
noncomputable def host : Crypto := Crypto.ofTable _ ordered

/-- A new store, with the revision. -/
noncomputable def store : Disk :=
  (( bootstrap_initialize host OneFact.init).1.write (.segment .facts 12)
    (.segment (writeLines [old, successor]))).write (.revision 13) (.manifest child)

theorem read_child : read_manifest host store 13 = .ok child := by decide +kernel

theorem snapshot_child : ∃ s, snapshot host store 13 = .ok s ∧ s.revision_id = 13 ∧
    s.raw_records = ⟨[old, successor], [], []⟩ := by
  have h : (match snapshot host store 13 with
      | .ok s => decide (s.raw_records = ⟨[old, successor], [], []⟩)
      | .error _ => false) = true := by decide +kernel
  cases hs : snapshot host store 13 with
  | error e =>
    rw [hs] at h
    cases h
  | ok s =>
    rw [hs] at h
    exact ⟨s, rfl, (snapshot_reads hs).id, of_decide_eq_true h⟩

end SelfNamed

theorem inventory_partitions_facts : ∃ s : Snapshot,
    s.raw_records.facts = [SelfNamed.old, SelfNamed.successor] ∧
      Partitions SelfNamed.host s none STREAMS := by
  obtain ⟨s, hs, hid, hraw⟩ := SelfNamed.snapshot_child
  have hlen : (STREAMS.flatMap s.raw_records.get).length ≤ 10 ^ maxIntDigits := by
    rw [hraw]
    exact (by decide : 2 ≤ 10 ^ 1).trans (Nat.pow_le_pow_right (by decide) (by decide))
  refine ⟨s, by rw [hraw], inventory_partitions (hid ▸ hs) (by decide) ?_ hlen⟩
  rw [hid]
  decide

/-- A map names a record, whose status the inventory takes for its own. -/
theorem named_record_physical : ∃ (H : Crypto) (d : Disk) (revision : Digest) (m : Manifest)
    (page : InventoryPage), read_manifest H d revision = .ok m ∧
      inventory_page H d revision none none 200 = .ok page ∧ ∃ row ∈ page.records,
        (m.supersedes.any fun e => e.stream = row.stream && e.target_id = row.id) = true ∧
        row.status_source = "physical" := by
  have h : (match inventory_page SelfNamed.host SelfNamed.store 13 none none 200 with
      | .ok page => page.records.any fun row => row.stream = .facts && row.id = "f-1" &&
          row.status_source = "physical"
      | .error _ => false) = true := by decide +kernel
  cases hpage : inventory_page SelfNamed.host SelfNamed.store 13 none none 200 with
  | error e =>
    rw [hpage] at h
    cases h
  | ok page =>
    rw [hpage] at h
    obtain ⟨row, hrow, h⟩ := List.any_eq_true.1 h
    simp only [Bool.and_eq_true, decide_eq_true_eq] at h
    obtain ⟨⟨hstream, hid⟩, hsource⟩ := h
    refine ⟨_, _, _, _, page, SelfNamed.read_child, hpage, row, hrow, ?_, hsource⟩
    rw [hstream, hid]
    decide

end AnKla
