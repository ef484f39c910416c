import AnKla.Frame.Agrees
import AnKla.HookRuns
import AnKla.Json.Extend
import AnKla.Policy.Dict
import AnKla.Sealed.Opens

/-!
# One entry for each run

A run that its caller names has one entry, however often it is minted and wherever the
process dies: the scan verifies every file before another entry is written, and a file that
was cut is no entry of another run.
-/

namespace AnKla.HookRuns

open PyJson Base64 Sealed

variable (U : Decimals) (P : Primitives)

/-! ## Timestamps -/

theorem take_field_two {one : Char → Option ℕ} {two : Char → Char → Option ℕ}
    {separator : Char → Bool} {n m : ℕ} {c : Char} (s : List Char)
    (hseparator : ∀ k < 10, separator k.digitChar = false) (hc : separator c = true)
    (htwo : two (n / 10).digitChar (n % 10).digitChar = some m) :
    take_field one two separator (two_digits n ++ c :: s) = some (m, s) := by
  rw [two_digits, List.cons_append, List.cons_append, List.nil_append, take_field]
  simp only [hseparator _ (Nat.mod_lt n (by decide : 0 < 10)), hc, htwo, if_true]
  rfl

theorem take_year_digits {n : ℕ} (hn : n < 10000) (s : List Char) :
    take_year U (two_digits (n / 100) ++ two_digits (n % 100) ++ '-' :: s) = some (n, s) := by
  simp only [two_digits, List.cons_append, List.nil_append, take_year]
  rw [U.digitChar _ (by omega), U.digitChar _ (by omega), U.digitChar _ (by omega),
    U.digitChar _ (by omega)]
  simp only [both, Option.bind_some, Option.map_some, Option.some.injEq, Prod.mk.injEq, and_true]
  omega

/-- The time of the clock is a timestamp. -/
theorem strptime_ok_utc_now (t : UtcTime) : strptime_ok U (utc_now t) = true := by
  obtain ⟨year, month, day, hour, minute, second, hyear, hmonth, hday, hhour, hminute, hsecond⟩ := t
  have hdays : day ≤ 31 := by
    refine hday.2.trans ?_
    rw [days_in_month.eq_def]
    split
    · split_ifs <;> omega
    all_goals omega
  have hvalue (n : ℕ) : U.value (n % 10).digitChar = some (n % 10) :=
    U.digitChar _ (Nat.mod_lt n (by decide))
  have hm (s : List Char) : take_month (two_digits month ++ '-' :: s) = some (month, s) := by
    refine take_field_two s (by decide) (by decide) ?_
    have hall : ∀ n ≤ 12, 1 ≤ n → (both (digit_in 1 1 (n / 10).digitChar)
        (digit_in 0 2 (n % 10).digitChar) <|> both (digit_in 0 0 (n / 10).digitChar)
          (digit_in 1 9 (n % 10).digitChar)) = some n := by decide
    exact hall month hmonth.2 hmonth.1
  have hd (s : List Char) : take_day U (two_digits day ++ 'T' :: s) = some (day, s) := by
    refine take_field_two s (by decide) (by decide) ?_
    have hall : ∀ n ≤ 31, 1 ≤ n → (both (digit_in 3 3 (n / 10).digitChar)
        (digit_in 0 1 (n % 10).digitChar) <|> both (digit_in 1 2 (n / 10).digitChar)
          (some (n % 10)) <|> both (digit_in 0 0 (n / 10).digitChar)
            (digit_in 1 9 (n % 10).digitChar) <|> (if (n / 10).digitChar = ' ' then
              digit_in 1 9 (n % 10).digitChar else none)) = some n := by decide
    rw [hvalue]
    exact hall day hdays hday.1
  have hh (s : List Char) : take_hour U (two_digits hour ++ ':' :: s) = some (hour, s) := by
    refine take_field_two s (by decide) (by decide) ?_
    have hall : ∀ n < 24, (both (digit_in 2 2 (n / 10).digitChar)
        (digit_in 0 3 (n % 10).digitChar) <|> both (digit_in 0 1 (n / 10).digitChar)
          (some (n % 10))) = some n := by decide
    rw [hvalue]
    exact hall hour hhour
  have hi (s : List Char) : take_minute U (two_digits minute ++ ':' :: s) = some (minute, s) := by
    refine take_field_two s (by decide) (by decide) ?_
    have hall : ∀ n < 60, both (digit_in 0 5 (n / 10).digitChar) (some (n % 10)) = some n := by
      decide
    rw [hvalue]
    exact hall minute hminute
  have hs (s : List Char) : take_second U (two_digits second ++ 'Z' :: s) = some (second, s) := by
    refine take_field_two s (by decide) (by decide) ?_
    have hall : ∀ n < 60, (both (digit_in 6 6 (n / 10).digitChar)
        (digit_in 0 1 (n % 10).digitChar) <|> both (digit_in 0 5 (n / 10).digitChar)
          (some (n % 10))) = some n := by decide
    rw [hvalue]
    exact hall second hsecond
  have hfields : timestamp_fields U (utc_now ⟨year, month, day, hour, minute, second, hyear, hmonth,
      hday, hhour, hminute, hsecond⟩).toList = some (year, month, day, hour, minute, second) := by
    rw [timestamp_fields, utc_now, String.toList_ofList]
    simp only [List.append_assoc, List.cons_append]
    rw [← List.append_assoc, take_year_digits U (by omega)]
    simp only [Option.bind_eq_bind, Option.bind_some, hm, hd, hh, hi, hs, if_true]
  rw [strptime_ok, hfields]
  simp only [Bool.and_eq_true, decide_eq_true_eq]
  exact ⟨⟨by omega, hday.2⟩, hsecond⟩

/-! ## Entries -/

/-- An object without an item is made of the others. -/
theorem without_dict {k : String} {kvs : List (String × Json)} (h : (kvs.map Prod.fst).Nodup) :
    without k (dict kvs) = dict (drop_key k kvs) := by
  have hw : ((drop_key k kvs).map Prod.fst).Nodup :=
    h.sublist (List.filter_sublist.map Prod.fst)
  have hperm : (drop_key k (Json.ofItems kvs)).Perm (Json.ofItems (drop_key k kvs)) :=
    ((Json.perm_ofItems h).filter _).trans (Json.perm_ofItems hw).symm
  rw [dict, without, dict]
  exact congrArg Json.obj (eq_of_keysSorted hperm ((Json.keysSorted_ofItems kvs).filter _)
    (Json.keysSorted_ofItems _))

section

variable {P} {key : Bytes} {binding : Binding} {args : RunArgs} {run_id observed : Json}

theorem nodup_signed : ((("run_hmac", run_hmac P key (dict (unsigned_items P binding args run_id
    observed))) :: unsigned_items P binding args run_id observed).map Prod.fst).Nodup := by
  simp [unsigned_items, functional_items]

theorem item_signed {k : String} {v : Json}
    (h : (k, v) ∈ unsigned_items P binding args run_id observed) :
    item (signed P key (unsigned_items P binding args run_id observed)) k = v :=
  item_dict nodup_signed (List.mem_cons_of_mem _ h)

theorem item_hmac : item (signed P key (unsigned_items P binding args run_id observed)) "run_hmac" =
    run_hmac P key (dict (unsigned_items P binding args run_id observed)) :=
  item_dict nodup_signed List.mem_cons_self

/-- What is signed is the entry without its signature. -/
theorem without_hmac :
    without "run_hmac" (signed P key (unsigned_items P binding args run_id observed)) =
      dict (unsigned_items P binding args run_id observed) := by
  rw [signed, without_dict nodup_signed]
  rfl

theorem exact_keys_signed :
    exact_keys (signed P key (unsigned_items P binding args run_id observed)) HOOK_RUN_KEYS =
      true := by
  refine exact_keys_dict nodup_signed fun k => ?_
  simp only [HOOK_RUN_KEYS, unsigned_items, functional_items, List.map_cons, List.map_nil,
    List.cons_append, List.nil_append, List.mem_cons]
  tauto

theorem stated_signed :
    stated_args (signed P key (unsigned_items P binding args run_id observed)) =
      { args with subject := dict [], now := observed, run_id := run_id } := by
  rw [stated_args, RunArgs.mk.injEq]
  refine ⟨item_signed ?_, item_signed ?_, item_signed ?_, item_signed ?_, rfl, item_signed ?_,
    item_signed ?_, item_signed ?_⟩
  all_goals simp [unsigned_items, functional_items]

end

/-- The arguments that the validation lets through. -/
structure ValidArgs (args : RunArgs) : Prop where
  hook_id : is_hook_id args.hook_id = true
  trigger : is_one_of TRIGGERS args.trigger = true
  action : is_one_of ACTIONS args.action = true
  exit_code : is_exit_code args.exit_code = true
  subject : args.subject.isObj = true
  adapter_fingerprint : absent_or is_str args.adapter_fingerprint = true
  run_id : absent_or is_run_id args.run_id = true
  now : absent_or (is_timestamp U) args.now = true

theorem validate_input_ok {args : RunArgs} {u : Unit} :
    validate_input U args = .ok u ↔ ValidArgs U args := by
  rw [validate_input, refuse_ok]
  simp only [Bool.and_eq_true]
  exact ⟨fun ⟨⟨⟨⟨⟨⟨⟨h1, h2⟩, h3⟩, h4⟩, h5⟩, h6⟩, h7⟩, h8⟩ => ⟨h1, h2, h3, h4, h5, h6, h7, h8⟩,
    fun h => ⟨⟨⟨⟨⟨⟨⟨h.1, h.2⟩, h.3⟩, h.4⟩, h.5⟩, h.6⟩, h.7⟩, h.8⟩⟩

/-- An entry that is written under a key and a binding. -/
structure Minted (key : Bytes) (binding : Binding) (entry : Json) : Prop where
  signed : ∃ args run_id observed, ValidArgs U args ∧ is_run_id run_id = true ∧
    is_timestamp U observed = true ∧
    entry = HookRuns.signed P key (unsigned_items P binding args run_id observed)
  size : (canonical_json entry).length + 1 ≤ MAX_RUN_BYTES

/-- A value that an entry holds. -/
inductive Plain : Json → Prop
  | null : Plain .null
  | str (s : String) : Plain (.str s)
  | exit_code (n : ℕ) : n < 256 → Plain (.int n)

theorem Plain.written {v : Json} (h : Plain v) : v.Written := by
  cases h with
  | null => exact ⟨trivial, rfl⟩
  | str s => exact ⟨trivial, rfl⟩
  | exit_code n hn =>
    have hall : ∀ n : ℕ, n < 256 → digitCount (dumpInt (n : ℤ)) ≤ maxIntDigits := by
      decide +kernel
    exact ⟨trivial, decide_eq_true (hall n hn)⟩

theorem plain_of_str {v : Json} (h : is_str v = true) : Plain v := by
  cases v with
  | str s => exact .str s
  | _ => cases h

theorem is_str_of_hook_id {v : Json} (h : is_hook_id v = true) : is_str v = true := by
  cases v with
  | str s => rfl
  | _ => cases h

theorem is_str_of_one_of {names : List String} {v : Json} (h : is_one_of names v = true) :
    is_str v = true := by
  cases v with
  | str s => rfl
  | _ => cases h

theorem is_str_of_run_id {v : Json} (h : is_run_id v = true) : is_str v = true := by
  cases v with
  | str s => rfl
  | _ => cases h

theorem is_str_of_timestamp {U : Decimals} {v : Json} (h : is_timestamp U v = true) :
    is_str v = true := by
  cases v with
  | str s => rfl
  | _ => cases h

theorem plain_of_exit_code {v : Json} (h : is_exit_code v = true) : Plain v := by
  cases v with
  | int i =>
    rw [is_exit_code, Bool.and_eq_true, decide_eq_true_eq, decide_eq_true_eq] at h
    obtain ⟨n, rfl⟩ := Int.eq_ofNat_of_zero_le h.1
    exact .exit_code n (by omega)
  | _ => cases h

theorem plain_of_absent_or {v : Json} (h : absent_or is_str v = true) : Plain v := by
  rw [absent_or, Bool.or_eq_true, decide_eq_true_eq] at h
  obtain rfl | h := h
  · exact .null
  · exact plain_of_str h

theorem absent_or_of {test : Json → Bool} {v : Json} (h : test v = true) :
    absent_or test v = true := by
  rw [absent_or, h, Bool.or_true]

namespace Minted

variable {U P} {key : Bytes} {binding : Binding} {entry : Json}

theorem isObj (h : Minted U P key binding entry) : entry.isObj = true := by
  obtain ⟨args, run_id, observed, -, -, -, rfl⟩ := h.signed
  rfl

/-- The entry is determined by its text. -/
theorem written (h : Minted U P key binding entry) : entry.Written := by
  obtain ⟨args, run_id, observed, hargs, hrun, hobserved, rfl⟩ := h.signed
  refine (storable_dict nodup_signed).2 fun kv hkv => Plain.written ?_
  simp only [unsigned_items, functional_items, List.cons_append, List.nil_append, List.mem_cons,
    List.not_mem_nil, or_false] at hkv
  rcases hkv with rfl | rfl | rfl | rfl | rfl | rfl | rfl | rfl | rfl | rfl | rfl | rfl
  · exact .str _
  · exact .str _
  · exact plain_of_str (is_str_of_run_id hrun)
  · exact plain_of_str (is_str_of_timestamp hobserved)
  · exact plain_of_str (is_str_of_hook_id hargs.hook_id)
  · exact plain_of_str (is_str_of_one_of hargs.trigger)
  · exact plain_of_str (is_str_of_one_of hargs.action)
  · exact plain_of_exit_code hargs.exit_code
  · exact .str _
  · exact .str _
  · exact .str _
  · exact plain_of_absent_or hargs.adapter_fingerprint

/-- The writer's entries pass the checks of the validator. -/
theorem valid (h : Minted U P key binding entry) : entry_is_valid U P entry key binding = true := by
  obtain ⟨args, run_id, observed, hargs, hrun, hobserved, rfl⟩ := h.signed
  simp only [entry_is_valid, Bool.and_eq_true, decide_eq_true_eq]
  refine ⟨⟨⟨⟨⟨⟨⟨exact_keys_signed, item_signed ?_⟩, ?_⟩, ?_⟩, ?_⟩, ?_⟩, item_signed ?_⟩,
    item_signed ?_⟩
  · simp [unsigned_items]
  · rw [item_signed (v := args.exit_code) (by simp [unsigned_items, functional_items])]
    exact hargs.exit_code
  · rw [item_signed (v := observed) (by simp [unsigned_items])]
    exact hobserved
  · rw [item_hmac]
    rfl
  · rw [item_hmac, without_hmac]
  · simp [unsigned_items, functional_items]
  · simp [unsigned_items, functional_items]

/-- The arguments that the entry states are valid. -/
theorem stated (h : Minted U P key binding entry) : ValidArgs U (stated_args entry) := by
  obtain ⟨args, run_id, observed, hargs, hrun, hobserved, rfl⟩ := h.signed
  rw [stated_signed]
  exact ⟨hargs.hook_id, hargs.trigger, hargs.action, hargs.exit_code, rfl,
    hargs.adapter_fingerprint, absent_or_of hrun, absent_or_of hobserved⟩

end Minted

/-! ## Files -/

theorem run_payload_eq (entry : Json) : run_payload entry = utf8 (dumps entry ++ ['\n']) := by
  rw [run_payload, canonical_json, utf8, utf8, utf8, List.flatMap_append]

theorem length_run_payload (entry : Json) :
    (run_payload entry).length = (canonical_json entry).length + 1 := by
  rw [run_payload, List.length_append]
  rfl

theorem json_loads_run_payload {entry : Json} (h : entry.Written) :
    json_loads (run_payload entry) = some entry := by
  rw [json_loads, run_payload_eq, decode_utf8_utf8]
  exact loads_dumps_append h rfl

/-- What the first bytes of a text decode to is the start of the text. -/
theorem decode_prefix {raw rest : Bytes} {s cs : List Char} (h : raw ++ rest = utf8 s)
    (hraw : decode_utf8 raw = some cs) : cs <+: s := by
  obtain ⟨a, ha, rfl⟩ := Option.map_eq_some_iff.1 hraw
  have hsome : (raw.toByteArray.utf8Decode?).isSome = true := by rw [ha]; rfl
  have hencode : a.toList.utf8Encode = raw.toByteArray := by
    have hget := @ByteArray.utf8Encode_get_utf8Decode? raw.toByteArray hsome
    simpa only [ha, Option.get_some] using hget
  refine List.isPrefix_of_utf8Encode_append_eq_utf8Encode rest.toByteArray ?_
  rw [hencode, ← List.toByteArray_append, h]
  rfl

/-- A file that was cut is read as its entry, or it is not read. -/
theorem json_loads_take {entry found : Json} (h : entry.Written) (hobj : entry.isObj = true) {k : ℕ}
    (hread : json_loads ((run_payload entry).take k) = some found) : found = entry := by
  obtain ⟨cs, hcs, hloads⟩ := Option.bind_eq_some_iff.1 hread
  have happend := List.take_append_drop k (run_payload entry)
  have hprefix : cs <+: dumps entry ++ ['\n'] :=
    decode_prefix (happend.trans (run_payload_eq entry)) hcs
  exact loads_of_prefix h hobj hprefix rfl hloads

namespace Minted

variable {U P} {key : Bytes} {binding : Binding} {entry : Json}

/-- The writer's entries pass the checks of the scan. -/
theorem opens (h : Minted U P key binding entry) :
    open_verified U P key binding (run_file P (run_payload entry)) (run_payload entry) =
      .ok entry := by
  have hsize := h.size
  have hdigest : is_str (item entry "subject_digest") = true := by
    obtain ⟨args, run_id, observed, -, -, -, rfl⟩ := h.signed
    rw [item_signed (v := .str (digest_json P args.subject))
      (by simp [unsigned_items, functional_items])]
    rfl
  rw [open_verified, json_loads_run_payload h.written]
  simp only [bind_ok, refuse_ok, exists_const, pure_ok, mapError_ok, validate_input_ok,
    Bool.and_eq_true, decide_eq_true_eq, length_run_payload, and_true]
  exact ⟨hsize, h.valid, h.stated, hdigest⟩

/-- The writer's entries pass the checks of the reader. -/
theorem reads (h : Minted U P key binding entry) :
    read_run U P key binding (run_payload entry) = some entry := by
  rw [read_run, length_run_payload, if_neg h.size.not_gt, json_loads_run_payload h.written]
  simp only [h.valid, if_true]

end Minted

/-! ## The scan -/

section

variable {U P} {key : Bytes} {binding : Binding} {d : Runs} {run_id : Json}

theorem open_verified_ok {name : String} {raw : Bytes} {entry : Json}
    (h : open_verified U P key binding name raw = .ok entry) :
    json_loads raw = some entry ∧ raw = run_payload entry ∧ name = run_file P raw := by
  rw [open_verified] at h
  split at h
  · cases h
  · next entry' hload =>
    simp only [bind_ok, refuse_ok, exists_const, pure_ok, Bool.and_eq_true, decide_eq_true_eq] at h
    obtain ⟨⟨⟨-, hraw⟩, hname⟩, -, -, -, -, rfl⟩ := h
    exact ⟨hload, hraw, hname⟩

/-- What a scan finds: it has verified every file. -/
structure Scanned (U : Decimals) (P : Primitives) (key : Bytes) (binding : Binding) (d : Runs)
    (run_id : Json) (found : List (String × Json)) : Prop where
  verified : ∀ name raw, d.read name = some raw → is_json_file name = true →
    ∃ entry, open_verified U P key binding name raw = .ok entry ∧
      (item entry "run_id" = run_id → (name, entry) ∈ found)
  found : ∀ x ∈ found, ∃ raw, d.read x.1 = some raw ∧
    open_verified U P key binding x.1 raw = .ok x.2

theorem find_runs_ok {found : List (String × Json)}
    (h : find_runs U P key binding d run_id = .ok found) :
    Scanned U P key binding d run_id found := by
  rw [find_runs] at h
  simp only [bind_ok, refuse_ok, exists_const, pure_ok, decide_eq_true_eq] at h
  obtain ⟨-, entries, hentries, rfl⟩ := h
  refine ⟨fun name raw hread hjson => ?_, fun x hx => ?_⟩
  · have hmem : name ∈ d.keys.filter is_json_file :=
      List.mem_filter.2 ⟨(d.mem_keys name).2 (by rw [hread]; rfl), hjson⟩
    obtain ⟨y, hy, hopen⟩ := mapM_ok_mem hentries hmem
    rw [hread, Option.getD_some] at hopen
    obtain ⟨entry, hentry, hpair⟩ := bind_ok.1 hopen
    obtain rfl := pure_ok.1 hpair
    exact ⟨entry, hentry, fun hrun => List.mem_filter.2 ⟨hy, decide_eq_true hrun⟩⟩
  · obtain ⟨name, hname, hopen⟩ := mem_of_mapM_ok hentries (List.mem_filter.1 hx).1
    obtain ⟨entry, hentry, hpair⟩ := bind_ok.1 hopen
    obtain rfl := pure_ok.1 hpair
    have hsome := (d.mem_keys name).1 (List.mem_filter.1 hname).1
    obtain ⟨raw, hread⟩ := Option.isSome_iff_exists.1 hsome
    rw [hread, Option.getD_some] at hentry
    exact ⟨raw, hread, hentry⟩

end

/-! ## The entry of a call -/

section

variable {U P} {host : HookHost} {args : RunArgs}

theorem new_entry_ok {binding : Binding} {key : Bytes} {run_id : Json} {clock : UtcTime}
    {entry : Json} : new_entry P binding key args run_id clock = .ok entry ↔
      (canonical_json entry).length + 1 ≤ MAX_RUN_BYTES ∧
        signed P key (unsigned_items P binding args run_id (observed_at args clock)) = entry := by
  rw [new_entry]
  simp only [bind_ok, refuse_ok, exists_const, pure_ok, decide_eq_true_eq]
  constructor
  · rintro ⟨hsize, rfl⟩
    exact ⟨hsize, rfl⟩
  · rintro ⟨hsize, rfl⟩
    exact ⟨hsize, rfl⟩

theorem is_timestamp_observed_at (h : ValidArgs U args) (clock : UtcTime) :
    is_timestamp U (observed_at args clock) = true := by
  have hnow := h.now
  rw [observed_at]
  split_ifs with hnull
  · exact strptime_ok_utc_now U clock
  · rw [absent_or, decide_eq_false hnull, Bool.false_or] at hnow
    exact hnow

theorem minted_of_new_entry {binding : Binding} {key : Bytes} {run_id : Json} {clock : UtcTime}
    {entry : Json} (hargs : ValidArgs U args) (hrun : is_run_id run_id = true)
    (h : new_entry P binding key args run_id clock = .ok entry) : Minted U P key binding entry := by
  obtain ⟨hsize, rfl⟩ := new_entry_ok.1 h
  exact ⟨⟨args, run_id, _, hargs, hrun, is_timestamp_observed_at hargs clock, rfl⟩, hsize⟩

/-- A fresh run id is a run id. -/
theorem is_run_id_fresh (raw : {raw : Bytes // raw.length = 16}) :
    is_run_id (.str (String.ofList (hex raw))) = true := by
  have hlength : (String.ofList (hex raw)).length = 32 := by
    rw [String.length_ofList, length_hex, raw.2]
  have hchars : ∀ c ∈ hex raw.1, 0x20 ≤ c.toNat := by
    intro c hc
    have hhex := List.all_eq_true.1 (isHexDigit_hex raw.1) c hc
    rw [isHexDigit, Bool.or_eq_true, Bool.and_eq_true] at hhex
    rcases hhex with hdigit | ⟨hlow, -⟩
    · rw [Char.isDigit, Bool.and_eq_true, decide_eq_true_eq] at hdigit
      exact le_trans (by decide) (show 48 ≤ c.toNat from hdigit.1)
    · exact le_trans (by decide) (show 97 ≤ c.toNat from of_decide_eq_true hlow)
  rw [is_run_id, hlength, String.toList_ofList]
  simp only [Bool.and_eq_true, List.all_eq_true, decide_eq_true_eq]
  exact ⟨⟨by decide, by decide⟩, hchars⟩

theorem fresh_entry_ok {entry : Json} (h : fresh_entry U P host args = .ok entry) :
    ∃ key binding, host.before.key = .ok key ∧ host.before.binding = .ok binding ∧
      Minted U P key binding entry := by
  rw [fresh_entry] at h
  obtain ⟨_, hargs, h⟩ := bind_ok.1 h
  obtain ⟨⟨key, binding⟩, hopen, h⟩ := bind_ok.1 h
  rw [StoreReads.open] at hopen
  simp only [bind_ok, mapError_ok, pure_ok, Prod.mk.injEq] at hopen
  obtain ⟨key', hkey, binding', hbinding, -, -, rfl, rfl⟩ := hopen
  exact ⟨key', binding', hkey, hbinding,
    minted_of_new_entry ((validate_input_ok U).1 hargs) (is_run_id_fresh host.uuid4) h⟩

theorem locked_entry_ok {key : Bytes} {binding : Binding} {entry : Json}
    (hnamed : args.run_id ≠ .null) (h : locked_entry U P host args = .ok (key, binding, entry)) :
    host.inside.key = .ok key ∧ host.inside.binding = .ok binding ∧ Minted U P key binding entry ∧
      item entry "run_id" = args.run_id ∧
      ∀ kv ∈ functional_items P binding args, item entry kv.1 = kv.2 := by
  rw [locked_entry] at h
  obtain ⟨_, hargs, h⟩ := bind_ok.1 h
  obtain ⟨_, -, h⟩ := bind_ok.1 h
  obtain ⟨_, -, h⟩ := bind_ok.1 h
  obtain ⟨⟨key', binding'⟩, hopen, h⟩ := bind_ok.1 h
  obtain ⟨entry', hentry, h⟩ := bind_ok.1 h
  obtain ⟨rfl, rfl, rfl⟩ : key' = key ∧ binding' = binding ∧ entry' = entry := by
    simpa only [pure_ok, Prod.mk.injEq] using h
  rw [StoreReads.reopen] at hopen
  simp only [bind_ok, mapError_ok, pure_ok, Prod.mk.injEq] at hopen
  obtain ⟨binding'', hbinding, -, -, key'', hkey, rfl, rfl⟩ := hopen
  replace hargs := (validate_input_ok U).1 hargs
  have hrun : is_run_id args.run_id = true := by
    have := hargs.run_id
    rwa [absent_or, decide_eq_false hnamed, Bool.false_or] at this
  refine ⟨hkey, hbinding, minted_of_new_entry hargs hrun hentry, ?_, fun kv hkv => ?_⟩
  · obtain ⟨-, rfl⟩ := new_entry_ok.1 hentry
    exact item_signed (by simp [unsigned_items])
  · obtain ⟨-, rfl⟩ := new_entry_ok.1 hentry
    exact item_signed (List.mem_append_right _ hkv)

end

/-! ## What a call writes -/

section

variable {U P} {host : HookHost} {args : RunArgs} {fault : Option WriteFault} {d : Runs}

theorem is_json_file_run_file (raw : Bytes) : is_json_file (run_file P raw) = true := by
  rw [is_json_file, List.isSuffixOf_iff_suffix, run_file, String.toList_ofList (l := _ ++ _)]
  exact List.suffix_append _ _

/-- A file is created under a free name, whole or cut, or there is no change. -/
theorem write_exclusive_cases (d : Runs) (name : String) (payload : Bytes)
    (fault : Option WriteFault) : (write_exclusive d name payload fault).1 = d ∨
      d.read name = none ∧
        ∃ k, (write_exclusive d name payload fault).1 = d.write name (payload.take k) := by
  rw [write_exclusive.eq_def]
  cases hread : d.read name with
  | some raw => exact .inl rfl
  | none =>
    cases fault with
    | none => exact .inr ⟨rfl, payload.length, by rw [List.take_length]⟩
    | some f =>
      obtain ⟨crash, left⟩ := f
      cases left with
      | none => exact .inl rfl
      | some k => exact .inr ⟨rfl, k, rfl⟩

theorem publish_exclusive_fst (key : Bytes) (binding : Binding) (d : Runs) (entry : Json)
    (fault : Option WriteFault) : (publish_exclusive U P key binding d entry fault).1 =
      (write_exclusive d (run_file P (run_payload entry)) (run_payload entry) fault).1 := by
  rw [publish_exclusive]
  split <;> next h => rw [h]

theorem publish_fst (d : Runs) (entry : Json) (fault : Option WriteFault) :
    (publish P d entry fault).1 =
      (write_exclusive d (run_file P (run_payload entry)) (run_payload entry) fault).1 := by
  rw [publish]
  split <;> next h => rw [h]

/-- A call with a run id changes nothing, or it writes the entry of the run, which no file of
    the directory is of: the scan has verified them all. -/
theorem mint_cases (hnamed : args.run_id ≠ .null) :
    (mint_hook_run U P host args fault d).1 = d ∨
      ∃ key binding entry k, host.inside.key = .ok key ∧ host.inside.binding = .ok binding ∧
        Minted U P key binding entry ∧ Scanned U P key binding d (item entry "run_id") [] ∧
        d.read (run_file P (run_payload entry)) = none ∧
        (mint_hook_run U P host args fault d).1 =
          d.write (run_file P (run_payload entry)) ((run_payload entry).take k) := by
  rw [mint_hook_run, if_neg hnamed]
  cases hentry : locked_entry U P host args with
  | error e => exact .inl rfl
  | ok x =>
    obtain ⟨key, binding, entry⟩ := x
    obtain ⟨hkey, hbinding, hminted, -, -⟩ := locked_entry_ok hnamed hentry
    simp only
    rw [mint_locked.eq_def]
    split
    · exact .inl rfl
    · next hfind =>
      rw [publish_exclusive_fst]
      obtain h | ⟨hread, k, h⟩ := write_exclusive_cases d (run_file P (run_payload entry))
        (run_payload entry) fault
      · exact .inl h
      · exact .inr ⟨key, binding, entry, k, hkey, hbinding, hminted, find_runs_ok hfind, hread, h⟩
    · split_ifs
      · exact .inl rfl
      · exact .inl rfl
    · exact .inl rfl

/-- So does a call with a fresh run id, without a scan. -/
theorem mint_fresh_cases (hfresh : args.run_id = .null) :
    (mint_hook_run U P host args fault d).1 = d ∨
      ∃ key binding entry k, host.before.key = .ok key ∧ host.before.binding = .ok binding ∧
        Minted U P key binding entry ∧ d.read (run_file P (run_payload entry)) = none ∧
        (mint_hook_run U P host args fault d).1 =
          d.write (run_file P (run_payload entry)) ((run_payload entry).take k) := by
  rw [mint_hook_run, if_pos hfresh]
  cases hentry : fresh_entry U P host args with
  | error e => exact .inl rfl
  | ok entry =>
    obtain ⟨key, binding, hkey, hbinding, hminted⟩ := fresh_entry_ok hentry
    simp only
    rw [publish_fst]
    obtain h | ⟨hread, k, h⟩ := write_exclusive_cases d (run_file P (run_payload entry))
      (run_payload entry) fault
    · exact .inl h
    · exact .inr ⟨key, binding, entry, k, hkey, hbinding, hminted, hread, h⟩

end

/-! ## One entry for each run -/

/-- The files are what is left of entries, whole or cut, and no two are of one run. -/
structure Holds (d : Runs) (written : String → Json) : Prop where
  json : ∀ name raw, d.read name = some raw → is_json_file name = true
  cut : ∀ name raw, d.read name = some raw → (written name).Written ∧
    (written name).isObj = true ∧ ∃ k, raw = (run_payload (written name)).take k
  one : ∀ name name', (d.read name).isSome = true → (d.read name').isSome = true →
    item (written name) "run_id" = item (written name') "run_id" → name = name'

/-- A directory that holds the entries of different runs. -/
def Distinct (d : Runs) : Prop := ∃ written, Holds d written

theorem distinct_empty : Distinct ∅ :=
  ⟨fun _ => .null, ⟨fun _ _ h => (by cases h), fun _ _ h => (by cases h), fun _ _ h => (by cases h)⟩⟩

namespace Holds

variable {U P} {d d' : Runs} {written : String → Json}

/-- What is read of a file is the entry that it was written for. -/
theorem read (h : Holds d written) {name : String} {raw : Bytes} {entry : Json}
    (hread : d.read name = some raw) (hload : json_loads raw = some entry) :
    entry = written name := by
  obtain ⟨hw, hobj, k, rfl⟩ := h.cut name raw hread
  exact json_loads_take hw hobj hload

/-- A loss of power cuts or removes files. -/
theorem lose (h : Holds d written) (name : String) (left : Option ℕ) :
    Holds (HookRuns.lose d name left) written := by
  have hless (q : String) (raw : Bytes) (hq : (HookRuns.lose d name left).read q = some raw) :
      ∃ raw' k, d.read q = some raw' ∧ raw = raw'.take k := by
    have hwhole (hq : d.read q = some raw) : ∃ raw' k, d.read q = some raw' ∧ raw = raw'.take k :=
      ⟨raw, raw.length, hq, by rw [List.take_length]⟩
    rw [HookRuns.lose.eq_def] at hq
    split at hq
    · rw [Durable.Disk.read_remove_eq] at hq
      split_ifs at hq
      exact hwhole hq
    · next k =>
      split at hq
      · exact hwhole hq
      · next raw' hread =>
        rw [Durable.Disk.read_write_eq] at hq
        split_ifs at hq with hname
        · subst hname
          exact ⟨raw', k, hread, (Option.some.inj hq).symm⟩
        · exact hwhole hq
  refine ⟨fun q raw hq => ?_, fun q raw hq => ?_, fun q q' hq hq' => ?_⟩
  · obtain ⟨raw', -, hread, -⟩ := hless q raw hq
    exact h.json q raw' hread
  · obtain ⟨raw', k, hread, rfl⟩ := hless q raw hq
    obtain ⟨hw, hobj, k', rfl⟩ := h.cut q raw' hread
    exact ⟨hw, hobj, min k k', List.take_take⟩
  · obtain ⟨raw, hraw⟩ := Option.isSome_iff_exists.1 hq
    obtain ⟨raw', hraw'⟩ := Option.isSome_iff_exists.1 hq'
    obtain ⟨_, -, hread, -⟩ := hless q raw hraw
    obtain ⟨_, -, hread', -⟩ := hless q' raw' hraw'
    exact h.one q q' (by rw [hread]; rfl) (by rw [hread']; rfl)

/-- A file is added, of a run that no file is of. -/
theorem write (h : Holds d written) {entry : Json} (hw : entry.Written) (hobj : entry.isObj = true)
    {name : String} (hjson : is_json_file name = true)
    (hother : ∀ q, (d.read q).isSome = true → item (written q) "run_id" ≠ item entry "run_id")
    (k : ℕ) : Holds (d.write name ((run_payload entry).take k))
      (Function.update written name entry) := by
  refine ⟨fun q raw hq => ?_, fun q raw hq => ?_, fun q q' hq hq' hrun => ?_⟩
  · rw [Durable.Disk.read_write_eq] at hq
    split_ifs at hq with hname
    · exact hname ▸ hjson
    · exact h.json q raw hq
  · rw [Durable.Disk.read_write_eq] at hq
    split_ifs at hq with hname
    · subst hname
      rw [Function.update_self]
      exact ⟨hw, hobj, k, (Option.some.inj hq).symm⟩
    · rw [Function.update_of_ne hname]
      exact h.cut q raw hq
  · rw [Durable.Disk.read_write_eq] at hq hq'
    by_cases hname : q = name
    · by_cases hname' : q' = name
      · exact hname.trans hname'.symm
      · rw [if_neg hname'] at hq'
        rw [hname, Function.update_self, Function.update_of_ne hname'] at hrun
        exact absurd hrun.symm (hother q' hq')
    · rw [if_neg hname] at hq
      by_cases hname' : q' = name
      · rw [hname', Function.update_self, Function.update_of_ne hname] at hrun
        exact absurd hrun (hother q hq)
      · rw [if_neg hname'] at hq'
        rw [Function.update_of_ne hname, Function.update_of_ne hname'] at hrun
        exact h.one q q' hq hq' hrun

end Holds

variable {U P} in
/-- A call with a run id, wherever it stops. -/
theorem Distinct.mint {d : Runs} (h : Distinct d) (host : HookHost) {args : RunArgs}
    (hnamed : args.run_id ≠ .null) (fault : Option WriteFault) :
    Distinct (mint_hook_run U P host args fault d).1 := by
  obtain ⟨written, hd⟩ := h
  obtain hsame | ⟨key, binding, entry, k, -, -, hminted, hscan, -, hwrite⟩ :=
    @mint_cases U P host args fault d hnamed
  · rw [hsame]
    exact ⟨written, hd⟩
  · rw [hwrite]
    refine ⟨_, hd.write hminted.written hminted.isObj (is_json_file_run_file _) (fun q hq hrun => ?_) k⟩
    obtain ⟨raw, hread⟩ := Option.isSome_iff_exists.1 hq
    obtain ⟨found, hopen, hmatch⟩ := hscan.verified q raw hread (hd.json q raw hread)
    have hfound := hd.read hread (open_verified_ok hopen).1
    exact absurd (hmatch (hfound ▸ hrun)) List.not_mem_nil

variable {U P} in
/-- Any sequence of calls and losses of power. -/
theorem Distinct.after {d : Runs} (h : Distinct d) (events : List HookEvent) :
    Distinct (after U P d events) := by
  induction events generalizing d with
  | nil => exact h
  | cons e events ih =>
    refine ih ?_
    cases e with
    | mint host args named fault => exact h.mint host named fault
    | loss name left =>
      obtain ⟨written, hd⟩ := h
      exact ⟨written, hd.lose name left⟩

/-- A file that the validator accepts as an entry of a run. -/
def Accepted (key : Bytes) (binding : Binding) (run_id : Json) (raw : Bytes) : Prop :=
  ∃ entry, json_loads raw = some entry ∧ entry_is_valid U P entry key binding = true ∧
    item entry "run_id" = run_id

variable {U P} in
theorem Distinct.accepted {d : Runs} (h : Distinct d) {key : Bytes} {binding : Binding}
    {run_id : Json} {name name' : String} {raw raw' : Bytes} (hread : d.read name = some raw)
    (hread' : d.read name' = some raw') (haccepted : Accepted U P key binding run_id raw)
    (haccepted' : Accepted U P key binding run_id raw') : name = name' := by
  obtain ⟨written, hd⟩ := h
  obtain ⟨entry, hload, -, hrun⟩ := haccepted
  obtain ⟨entry', hload', -, hrun'⟩ := haccepted'
  refine hd.one name name' (by rw [hread]; rfl) (by rw [hread']; rfl) ?_
  rw [← hd.read hread hload, ← hd.read hread' hload', hrun, hrun']

/-! ## Repeated calls -/

theorem toList_run_file (raw : Bytes) :
    (run_file P raw).toList = hex (P.sha256 raw) ++ ".json".toList := by
  rw [run_file, String.toList_ofList (l := _ ++ _)]

/-- The name of a file says its digest. -/
theorem stem_run_file (raw : Bytes) : "sha256:" ++ stem (run_file P raw) = digest_bytes P raw := by
  have hjson : ".json".toList.length = 5 := by decide
  have hstem : stem (run_file P raw) = String.ofList (hex (P.sha256 raw)) := by
    rw [stem, toList_run_file, List.length_append, hjson, Nat.add_sub_cancel, List.take_left]
  rw [hstem]
  refine Eq.trans ?_ (@String.ofList_append "sha256:".toList (hex (P.sha256 raw))).symm
  exact congrArg (· ++ String.ofList (hex (P.sha256 raw))) (@String.ofList_toList "sha256:").symm

/-- The functional payload of a call is the one of an entry. -/
def SamePayload (binding : Binding) (args : RunArgs) (entry : Json) : Prop :=
  ∀ kv ∈ functional_items P binding args, item entry kv.1 = kv.2

variable {P} in
theorem conflicts_eq_false {binding : Binding} {args : RunArgs} {original entry : Json}
    (h : ∀ kv ∈ functional_items P binding args, item entry kv.1 = kv.2) :
    conflicts original entry = false ↔ SamePayload P binding args original := by
  have hfields : FUNCTIONAL_FIELDS = (functional_items P binding args).map Prod.fst := by
    simp only [FUNCTIONAL_FIELDS, functional_items, List.map_cons, List.map_nil]
  rw [conflicts, hfields, List.any_eq_false, SamePayload]
  simp only [List.forall_mem_map, decide_eq_true_eq, not_not]
  exact forall₂_congr fun kv hkv => by rw [h kv hkv]

/-- What a call answers where an entry of its run is accepted. -/
structure Answers (host : HookHost) (args : RunArgs) (fault : Option WriteFault) (d : Runs)
    (binding : Binding) (raw : Bytes) (entry : Json) : Prop where
  unchanged : (mint_hook_run U P host args fault d).1 = d
  same : SamePayload P binding args entry → ∀ result,
    (mint_hook_run U P host args fault d).2 = .ok result →
      result = ⟨args.run_id, digest_bytes P raw⟩
  other : ¬SamePayload P binding args entry →
    ∃ e, (mint_hook_run U P host args fault d).2 = .error e

theorem answers {host : HookHost} {args : RunArgs} (hnamed : args.run_id ≠ .null)
    (fault : Option WriteFault) {d : Runs} {key : Bytes} {binding : Binding}
    (hkey : host.inside.key = .ok key) (hbinding : host.inside.binding = .ok binding)
    {name : String} {raw : Bytes} (hread : d.read name = some raw)
    (hjson : is_json_file name = true) {entry : Json} (hload : json_loads raw = some entry)
    (hrun : item entry "run_id" = args.run_id) : Answers U P host args fault d binding raw entry := by
  have refused {e : HookRunFailure} (h : mint_hook_run U P host args fault d = (d, .error e)) :
      Answers U P host args fault d binding raw entry :=
    ⟨by rw [h], fun _ result hresult => (by rw [h] at hresult; cases hresult),
      fun _ => ⟨e, by rw [h]⟩⟩
  cases hlocked : locked_entry U P host args with
  | error e => exact refused (by rw [mint_hook_run, if_neg hnamed, hlocked])
  | ok x =>
    obtain ⟨key', binding', new⟩ := x
    obtain ⟨hkey', hbinding', -, hnew, hpayload⟩ := locked_entry_ok hnamed hlocked
    obtain rfl := Except.ok.inj (hkey.symm.trans hkey')
    obtain rfl := Except.ok.inj (hbinding.symm.trans hbinding')
    have hmint : mint_hook_run U P host args fault d = mint_locked U P key binding new d fault := by
      rw [mint_hook_run, if_neg hnamed, hlocked]
    rw [mint_locked, hnew] at hmint
    cases hfind : find_runs U P key binding d args.run_id with
    | error e => exact refused (by rw [hmint, hfind])
    | ok found =>
      obtain ⟨entry', hopen, hmatch⟩ := (find_runs_ok hfind).verified name raw hread hjson
      obtain ⟨hload', -, rfl⟩ := open_verified_ok hopen
      obtain rfl := Option.some.inj (hload.symm.trans hload')
      have hmem := hmatch hrun
      rw [hfind] at hmint
      match found, hmem with
      | [x], hmem =>
        obtain rfl := List.mem_singleton.1 hmem
        simp only at hmint
        cases hconflict : conflicts entry new with
        | true =>
          rw [hconflict, if_pos rfl] at hmint
          exact refused hmint
        | false =>
          rw [hconflict, if_neg (by decide)] at hmint
          refine ⟨by rw [hmint], fun _ result hresult => ?_, fun hother => ?_⟩
          · rw [hmint] at hresult
            obtain ⟨-, -, rfl⟩ := map_ok.1 hresult
            rw [stem_run_file]
          · exact absurd ((conflicts_eq_false hpayload).1 hconflict) hother
      | _ :: _ :: _, _ => exact refused hmint

/-! ## Acceptance -/

/-- The key and the binding that a call signs with. -/
def HookHost.reads (host : HookHost) (args : RunArgs) : StoreReads :=
  if args.run_id = .null then host.before else host.inside

/-- The validator, the scan and the reader accept an entry, wherever its file lies among files
    that they read. -/
structure AcceptedByAll (key : Bytes) (binding : Binding) (name : String) (raw : Bytes)
    (entry : Json) : Prop where
  loads : json_loads raw = some entry
  valid : entry_is_valid U P entry key binding = true
  opens : open_verified U P key binding name raw = .ok entry
  found : ∀ d found, d.read name = some raw →
    find_runs U P key binding d (item entry "run_id") = .ok found → (name, entry) ∈ found
  reads : read_run U P key binding raw = some entry
  served : ∀ r d declared_ids, r.key = .ok key → r.binding = .ok binding →
    d.read name = some raw → (run_names d).length ≤ MAX_ENTRIES_SCANNED →
      entry ∈ (read_verified_runs U P r d declared_ids).runs

variable {U P} in
theorem Minted.accepted {key : Bytes} {binding : Binding} {entry : Json}
    (h : Minted U P key binding entry) :
    AcceptedByAll U P key binding (run_file P (run_payload entry)) (run_payload entry) entry := by
  have hjson := is_json_file_run_file (P := P) (run_payload entry)
  refine ⟨json_loads_run_payload h.written, h.valid, h.opens, fun d found hread hfind => ?_, h.reads,
    fun r d declared_ids hkey hbinding hread hfew => ?_⟩
  · obtain ⟨entry', hopen, hmatch⟩ := (find_runs_ok hfind).verified _ _ hread hjson
    obtain rfl := Except.ok.inj (h.opens.symm.trans hopen)
    exact hmatch rfl
  · have hname : run_file P (run_payload entry) ∈ run_names d := by
      refine List.mem_filter.2 ⟨(List.mem_insertionSort _).2 ?_, hjson⟩
      exact (d.mem_keys _).2 (by rw [hread]; rfl)
    rw [read_verified_runs]
    simp only [List.take_of_length_le hfew, hkey, hbinding]
    rw [if_neg (List.ne_nil_of_mem hname), List.mem_insertionSort]
    refine List.mem_filterMap.2 ⟨some entry, List.mem_map.2 ⟨_, hname, ?_⟩, rfl⟩
    rw [hread]
    exact h.reads

variable {U P} in
/-- A new file is what was written of an entry, and an entry that is written is accepted. -/
theorem minted_of_new_file {host : HookHost} {args : RunArgs} {fault : Option WriteFault} {d : Runs}
    {name : String} {raw : Bytes} (hfree : d.read name = none)
    (hread : (mint_hook_run U P host args fault d).1.read name = some raw) :
    ∃ key binding entry, (host.reads args).key = .ok key ∧
      (host.reads args).binding = .ok binding ∧ name = run_file P (run_payload entry) ∧
      (∃ k, raw = (run_payload entry).take k) ∧ Minted U P key binding entry := by
  have hsame (h : (mint_hook_run U P host args fault d).1 = d) : False := by
    rw [h, hfree] at hread
    cases hread
  have hfile {entry : Json} {k : ℕ} (h : (mint_hook_run U P host args fault d).1 =
      d.write (run_file P (run_payload entry)) ((run_payload entry).take k)) :
      name = run_file P (run_payload entry) ∧ ∃ k, raw = (run_payload entry).take k := by
    rw [h, Durable.Disk.read_write_eq] at hread
    split_ifs at hread with hname
    · exact ⟨hname, k, (Option.some.inj hread).symm⟩
    · rw [hfree] at hread
      cases hread
  rw [HookHost.reads]
  split_ifs with hfresh
  · obtain h | ⟨key, binding, entry, k, hkey, hbinding, hminted, -, h⟩ :=
      @mint_fresh_cases U P host args fault d hfresh
    · exact (hsame h).elim
    · exact ⟨key, binding, entry, hkey, hbinding, (hfile h).1, (hfile h).2, hminted⟩
  · obtain h | ⟨key, binding, entry, k, hkey, hbinding, hminted, -, -, h⟩ :=
      @mint_cases U P host args fault d hfresh
    · exact (hsame h).elim
    · exact ⟨key, binding, entry, hkey, hbinding, (hfile h).1, (hfile h).2, hminted⟩

/-! ## The guarantee -/

namespace OneRun

/-- The digits of ASCII. -/
def digits : Decimals :=
  ⟨fun c => if c.isDigit then some (c.toNat - 48) else none, by decide⟩

def clock : UtcTime where
  year := 2026
  month := 1
  day := 2
  hour := 3
  minute := 4
  second := 5
  year_mem := by decide
  month_mem := by decide
  day_mem := by decide
  hour_lt := by decide
  minute_lt := by decide
  second_lt := by decide

def binding : Binding := ⟨⟨1, "1"⟩, ⟨1, 1, 0, "/", "1"⟩, 0⟩

def reads : StoreReads := ⟨.ok [1], .ok binding, fun _ => .ok ()⟩

def host : HookHost := ⟨reads, reads, false, clock, ⟨List.replicate 16 0, rfl⟩⟩

/-- A status run that the caller names. -/
def args : RunArgs where
  hook_id := .str "h"
  trigger := .str "before_task"
  action := .str "status"
  exit_code := .int 0
  subject := dict []
  adapter_fingerprint := .null
  now := .null
  run_id := .str "r"

theorem named : args.run_id ≠ .null := by decide

def entry : Json :=
  signed plain [1] (unsigned_items plain binding args (.str "r") (observed_at args clock))

theorem new_entry_eq : new_entry plain binding [1] args (.str "r") clock = .ok entry :=
  new_entry_ok.2 ⟨by decide +kernel, rfl⟩

theorem locked : locked_entry digits plain host args = .ok ([1], binding, entry) := by
  have hvalid : validate_input digits args = .ok () := by decide
  rw [locked_entry]
  refine bind_ok.2 ⟨(), hvalid, bind_ok.2 ⟨([1], binding), rfl, bind_ok.2 ⟨(), rfl, ?_⟩⟩⟩
  exact bind_ok.2 ⟨([1], binding), rfl, bind_ok.2 ⟨entry, new_entry_eq, rfl⟩⟩

theorem minted : Minted digits plain [1] binding entry :=
  (locked_entry_ok named locked).2.2.1

theorem item_run_id : item entry "run_id" = .str "r" := (locked_entry_ok named locked).2.2.2.1

/-- The directory with the entry. -/
def minted_runs : Runs := (∅ : Runs).write (run_file plain (run_payload entry)) (run_payload entry)

theorem read_minted : minted_runs.read (run_file plain (run_payload entry)) = some (run_payload entry) :=
  Durable.Disk.read_write _ _ _

/-- The first call writes the entry. -/
theorem first_call : (mint_hook_run digits plain host args none ∅).1 = minted_runs := by
  have hfind : find_runs digits plain [1] binding ∅ (item entry "run_id") = .ok [] := rfl
  rw [mint_hook_run, if_neg named, locked]
  simp only
  rw [mint_locked, hfind]
  simp only
  rw [publish_exclusive_fst, write_exclusive.eq_def]
  have hfree : (∅ : Runs).read (run_file plain (run_payload entry)) = none := rfl
  rw [hfree, minted_runs]

end OneRun

end AnKla.HookRuns
