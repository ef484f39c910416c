import AnKla.Guarantees.HookRuns
import AnKla.HookReads

/-!
# The reader of hook runs

When `read_verified_runs` returns, and in which order.

* `Readable`: a file on which neither the loader nor the validator raises.
* `read_file_returns_iff`: the turn of the loop returns on these files only.
* `reads_iff`: what the reader returns, if it returns.
* `reads_newest_first`: the reader serves what the validator accepts, the newest first, just when
  every file is readable and the texts of the timestamps are in the order of their instants.
-/

namespace AnKla.HookReads

open PyJson Base64 Sealed HookRuns

section

variable (F : Interpreter) (U : Decimals)

/-! ## Files that are readable -/

/-- The signature of an entry is ASCII, and the body under it has a canonical text. -/
def Comparable (entry : PyValue) : Prop :=
  ∀ mac, hmac_of entry = some mac →
    ((entry.without "run_hmac").encode F F.dumps_levels).isSome = true ∧ mac.all (· < 128) = true

/-- A text that is loaded, or that is no JSON; and then its entry is comparable, if it has the
fields of one. -/
def LoadsCleanly (text : List Char) : Prop :=
  match py_loads F.loads_levels text with
  | .ok entry => has_fields U entry = true → Comparable F entry
  | .error e => e = .decode

/-- A file that is skipped unread, or whose text loads cleanly. -/
def Readable (raw : Bytes) : Prop :=
  raw.length ≤ MAX_RUN_BYTES → ∀ text, decode_utf8 raw = some text → LoadsCleanly F U text

variable {F U} {P : Primitives} {key : Bytes} {binding : Binding}

theorem map_returns {α β : Type} {f : α → β} {x : Except Raised α} :
    (∃ y, x.map f = .ok y) ↔ ∃ a, x = .ok a := by
  simp only [map_ok]
  exact ⟨fun ⟨_, a, ha, _⟩ => ⟨a, ha⟩, fun ⟨a, ha⟩ => ⟨_, a, ha, rfl⟩⟩

theorem compare_digest_returns {given expected : List ℕ} :
    (∃ b, compare_digest given expected = .ok b) ↔ given.all (· < 128) = true := by
  rw [compare_digest]
  split_ifs with h
  · exact iff_of_true ⟨_, rfl⟩ h
  · exact iff_of_false (fun ⟨_, hb⟩ => nomatch hb) h

theorem entry_is_valid_returns {entry : PyValue} :
    (∃ b, entry_is_valid F U P entry key binding = .ok b) ↔
      (has_fields U entry = true → Comparable F entry) := by
  rw [entry_is_valid]
  split_ifs with hfields
  · rw [Comparable]
    cases hmac : hmac_of entry with
    | none => exact iff_of_true ⟨false, rfl⟩ fun _ _ h => nomatch h
    | some mac =>
      cases hbody : (entry.without "run_hmac").encode F F.dumps_levels with
      | none => exact iff_of_false (fun ⟨_, h⟩ => nomatch h) fun h => nomatch (h hfields mac rfl).1
      | some body =>
        have hmap : (∃ b, (compare_digest mac (expected_mac P key body)).map
            (· && is_bound entry binding) = .ok b) ↔ mac.all (· < 128) = true := by
          rw [map_returns, compare_digest_returns]
        refine hmap.trans ⟨fun h _ _ hm => ⟨rfl, Option.some.inj hm ▸ h⟩, fun h => ?_⟩
        exact (h hfields mac rfl).2
  · exact iff_of_true ⟨false, rfl⟩ fun h => absurd h hfields

/-- One turn of the loop returns on readable files, and only on them. -/
theorem read_file_returns_iff {raw : Bytes} :
    (∃ v, read_file F U P key binding raw = .ok v) ↔ Readable F U raw := by
  rw [read_file, Readable]
  split_ifs with hsize
  · exact iff_of_true ⟨none, rfl⟩ fun h => absurd hsize (not_lt.2 h)
  · rw [forall_prop_of_true (not_lt.1 hsize)]
    cases htext : decode_utf8 raw with
    | none => exact iff_of_true ⟨none, rfl⟩ fun _ h => nomatch h
    | some text =>
      have hsome : (∀ t, some text = some t → LoadsCleanly F U t) ↔ LoadsCleanly F U text :=
        ⟨fun h => h text rfl, fun h t ht => Option.some.inj ht ▸ h⟩
      rw [hsome, LoadsCleanly]
      dsimp only
      cases hload : py_loads F.loads_levels text with
      | error e =>
        cases e with
        | decode => exact iff_of_true ⟨none, rfl⟩ rfl
        | digits => exact iff_of_false (fun ⟨_, h⟩ => nomatch h) fun h => nomatch h
        | recursion => exact iff_of_false (fun ⟨_, h⟩ => nomatch h) fun h => nomatch h
      | ok entry =>
        dsimp only
        exact map_returns.trans entry_is_valid_returns

/-! ## What is returned -/

variable (F U P key binding) in
/-- The entries of the files that the validator accepts, one for each file. -/
def served (d : Runs) : List PyValue := (run_files d).filterMap (accepted F U P key binding)

theorem unknown_ids_returns {declared_ids : List String} {runs : List PyValue} :
    (∃ ids, unknown_ids declared_ids runs = .ok ids) ↔ has_hook_ids declared_ids runs = true := by
  rw [unknown_ids]
  split_ifs with h
  · exact iff_of_true ⟨_, rfl⟩ h
  · exact iff_of_false (fun ⟨_, hb⟩ => nomatch hb) h

/-- Whether the hook ids can be sorted does not depend on the order of the entries. -/
theorem has_hook_ids_perm {declared_ids : List String} {runs runs' : List PyValue}
    (h : runs.Perm runs') : has_hook_ids declared_ids runs = has_hook_ids declared_ids runs' := by
  have hids : (undeclared declared_ids runs).Perm (undeclared declared_ids runs') :=
    (h.map _).filter _
  rw [has_hook_ids, has_hook_ids, is_sortable, is_sortable, h.all_eq, hids.all_eq, hids.all_eq,
    hids.all_eq]

/-- What the loop collects from a list of files. -/
theorem filterMap_of_mapM {α : Type} {f : α → Except Raised (Option PyValue)}
    {g : α → Option PyValue} (hg : ∀ x v, f x = .ok v → g x = v) {xs : List α}
    {found : List (Option PyValue)} (h : xs.mapM f = .ok found) :
    found.filterMap id = xs.filterMap g := by
  induction xs generalizing found with
  | nil =>
    obtain rfl := pure_ok.1 h
    rfl
  | cons x xs ih =>
    rw [List.mapM_cons] at h
    obtain ⟨v, hv, h⟩ := bind_ok.1 h
    obtain ⟨vs, hvs, h⟩ := bind_ok.1 h
    obtain rfl := pure_ok.1 h
    rw [List.filterMap_cons, List.filterMap_cons, ih hvs, hg x v hv]
    rfl

theorem accepted_of_read {raw : Bytes} {v : Option PyValue}
    (h : read_file F U P key binding raw = .ok v) : accepted F U P key binding raw = v := by
  rw [accepted, h]
  cases v <;> rfl

variable {r : StoreReads} {d : Runs} {declared_ids : List String}

/-- What the reader returns, if it returns. -/
theorem reads_iff (hkey : r.key = .ok key) (hbinding : r.binding = .ok binding)
    (hlimit : (run_names d).length ≤ MAX_ENTRIES_SCANNED) {Q : List PyValue → Prop} :
    (∃ result, read_verified_runs F U P r d declared_ids = .ok result ∧ Q result.runs) ↔
      (∀ raw ∈ run_files d, Readable F U raw) ∧
        has_hook_ids declared_ids (served F U P key binding d) = true ∧
        Q (newest_first (served F U P key binding d)) := by
  have hfiles : (∀ raw ∈ run_files d, Readable F U raw) ↔
      ∃ found, (run_names d).mapM
        (fun name => read_file F U P key binding ((d.read name).getD [])) = .ok found := by
    rw [mapM_ok_iff, run_files, List.forall_mem_map]
    exact forall₂_congr fun name _ => read_file_returns_iff.symm
  have hperm : (newest_first (served F U P key binding d)).Perm (served F U P key binding d) :=
    List.perm_insertionSort _ _
  rw [read_verified_runs]
  simp only [List.take_of_length_le hlimit, hkey, hbinding, if_neg (not_lt.2 hlimit)]
  split_ifs with hnames
  · have hserved : served F U P key binding d = [] := by rw [served, run_files, hnames]; rfl
    rw [hserved, run_files, hnames]
    exact ⟨fun ⟨result, hresult, hq⟩ => ⟨by simp, rfl, by cases hresult; exact hq⟩,
      fun ⟨_, _, hq⟩ => ⟨_, rfl, hq⟩⟩
  · rw [hfiles, ← has_hook_ids_perm hperm, ← unknown_ids_returns]
    have hruns {found : List (Option PyValue)} (h : (run_names d).mapM
        (fun name => read_file F U P key binding ((d.read name).getD [])) = .ok found) :
        newest_first (found.filterMap id) = newest_first (served F U P key binding d) := by
      rw [filterMap_of_mapM (fun _ _ => accepted_of_read) h, served, run_files, List.filterMap_map]
      rfl
    simp only [bind_ok, pure_ok]
    constructor
    · rintro ⟨_, ⟨found, hfound, ids, hids, rfl⟩, hq⟩
      rw [hruns hfound] at hids hq
      exact ⟨⟨found, hfound⟩, ⟨ids, hids⟩, hq⟩
    · rintro ⟨⟨found, hfound⟩, ⟨ids, hids⟩, hq⟩
      rw [← hruns hfound] at hids hq
      exact ⟨_, ⟨found, hfound, ids, hids, rfl⟩, hq⟩

/-! ## The order -/

variable (U) in
/-- The instant of an entry is not after that of another. -/
def NotAfter (b a : PyValue) : Prop := ∀ s ∈ instant U a, ∀ t ∈ instant U b, t ≤ s

variable (U) in
/-- Where an instant is before another, so is its text. -/
def InOrder (runs : List PyValue) : Prop :=
  ∀ a ∈ runs, ∀ b ∈ runs, ∀ s ∈ instant U a, ∀ t ∈ instant U b, s < t →
    observed_at a < observed_at b

/-- The instant of an entry is that of its text. -/
theorem instant_congr {a b : PyValue} (h : observed_at a = observed_at b) :
    instant U a = instant U b := by
  rw [instant, instant, h]

/-- Sorting by the text sorts by the instant, just when the texts are in order. -/
theorem sorted_by_instant_iff (runs : List PyValue) :
    ((newest_first runs).Pairwise fun a b => NotAfter U b a) ↔ InOrder U runs := by
  have hmem (a : PyValue) : a ∈ newest_first runs ↔ a ∈ runs :=
    (List.perm_insertionSort _ _).mem_iff
  have hsorted : (newest_first runs).Pairwise fun a b => observed_at b ≤ observed_at a :=
    @List.pairwise_insertionSort _ (fun a b => observed_at b ≤ observed_at a) _
      ⟨fun a b => le_total (observed_at b) (observed_at a)⟩ ⟨fun _ _ _ h h' => h'.trans h⟩ runs
  constructor
  · intro h a ha b hb s hs t ht hst
    -- Of two entries, one is after the other, and has the later text and instant.
    have hboth := hsorted.and h
    have hpair : ∀ x ∈ newest_first runs, ∀ y ∈ newest_first runs,
        (observed_at y ≤ observed_at x ∧ NotAfter U y x) ∨
          (observed_at x ≤ observed_at y ∧ NotAfter U x y) := by
      refine @List.Pairwise.forall_of_forall _ _ _ ⟨fun _ _ h => h.symm⟩ (fun x _ => ?_)
        (hboth.imp fun hxy => .inl hxy)
      refine .inl ⟨le_rfl, fun s hs t ht => ?_⟩
      rw [Option.mem_unique hs ht]
    obtain ⟨-, hab⟩ | ⟨htext, -⟩ := hpair a ((hmem a).2 ha) b ((hmem b).2 hb)
    · exact absurd (hab s hs t ht) (not_le.2 hst)
    · refine lt_of_le_of_ne htext fun heq => ?_
      rw [instant_congr heq] at hs
      exact hst.ne (Option.mem_unique hs ht)
  · intro h
    refine hsorted.imp_of_mem fun {a b} ha hb hab s hs t ht => ?_
    by_contra hst
    exact absurd (h a ((hmem a).1 ha) b ((hmem b).1 hb) s hs t ht (not_le.1 hst)) (not_lt.2 hab)

end

/-! ## A number of too many digits -/

theorem skipWs_replicate_one (n : ℕ) : skipWs (List.replicate n '1') = List.replicate n '1' := by
  cases n with
  | zero => rfl
  | succ n => exact List.dropWhile_cons_of_neg (by decide)

theorem lexNumber_replicate_one (n : ℕ) :
    lexNumber ('1' :: List.replicate n '1') = some ('1' :: List.replicate n '1', [], []) := by
  have hdigits : lexDigits ('1' :: List.replicate n '1') = ('1' :: List.replicate n '1', []) := by
    rw [lexDigits, ← List.replicate_succ, List.takeWhile_replicate, List.dropWhile_replicate]
    rfl
  have hint : lexInt ('1' :: List.replicate n '1') = some ('1' :: List.replicate n '1', []) := by
    rw [lexInt, if_neg (by decide), lexNat, if_neg (by decide), if_pos (by decide), hdigits]
  rw [lexNumber, hint]
  rfl

/-- The loader refuses the number, but not as a text that is no JSON. -/
theorem py_loads_ones (levels : ℕ) {n : ℕ} (h : maxIntDigits ≤ n) :
    py_loads levels (List.replicate (n + 1) '1') = .error .digits := by
  have hcount : ¬digitCount ('1' :: List.replicate n '1') ≤ maxIntDigits := by
    rw [digitCount, ← List.replicate_succ, List.countP_replicate]
    exact not_le.2 (Nat.lt_succ_of_le h)
  have hnumber : pyNumber ('1' :: List.replicate n '1') = .error .digits := by
    rw [pyNumber, lexNumber_replicate_one]
    simp only [if_true, if_neg hcount]
  have hvalue (fuel : ℕ) : pyValue (fuel + 1) levels ('1' :: List.replicate n '1') =
      .error .digits := by
    rw [pyValue.eq_def]
    exact hnumber
  rw [py_loads, skipWs_replicate_one, List.replicate_succ, hvalue]

/-- So a file of such a number, of no more than 64 KiB, is not readable. -/
theorem not_readable_ones (F : Interpreter) (U : Decimals) {n : ℕ} (h : maxIntDigits ≤ n)
    (hsize : n < MAX_RUN_BYTES) : ¬Readable F U (utf8 (List.replicate (n + 1) '1')) := by
  intro hread
  have hlength : (utf8 (List.replicate (n + 1) '1')).length = n + 1 := by
    rw [utf8, List.flatMap_replicate]
    simp [String.utf8EncodeChar]
  have hloads := hread (hlength.trans_le hsize) _ (decode_utf8_utf8 _)
  rw [LoadsCleanly, py_loads_ones F.loads_levels h] at hloads
  cases hloads

theorem mem_run_files {d : Runs} {name : String} {raw : Bytes} (hread : d.read name = some raw)
    (hjson : is_json_file name = true) : raw ∈ run_files d := by
  have hkey : name ∈ d.keys := (d.mem_keys name).2 (by rw [hread]; rfl)
  refine List.mem_map.2 ⟨name, List.mem_filter.2 ⟨?_, hjson⟩, by rw [hread]; rfl⟩
  exact (List.perm_insertionSort _ _).mem_iff.2 hkey

theorem length_run_names_le (d : Runs) : (run_names d).length ≤ d.keys.length :=
  (List.length_filter_le _ _).trans_eq (List.length_insertionSort _ _)

namespace OneFile

/-- An interpreter with the limits of the reference implementation. -/
def interpreter : Interpreter := ⟨1000, 1000, some⟩

/-- The directory with a run that was minted, and with a number in another file. -/
def runs : Runs :=
  OneRun.minted_runs.write "1.json" (utf8 (List.replicate 4301 '1'))

/-- A directory with a file that is no JSON. -/
def foreign : Runs := (∅ : Runs).write "x.json" (utf8 ['x'])

theorem run_names_foreign : run_names foreign = ["x.json"] := by decide +kernel

theorem run_files_foreign : run_files foreign = [utf8 ['x']] := by
  rw [run_files, run_names_foreign]
  rfl

theorem py_loads_x : py_loads 1000 ['x'] = .error .decode := by
  have hnumber : pyNumber ['x'] = .error .decode := by
    have hlex : lexNumber ['x'] = none := by decide
    rw [pyNumber, hlex]
  have hws : skipWs ['x'] = ['x'] := by decide
  have hvalue : pyValue 2 1000 ['x'] = .error .decode := by
    rw [pyValue.eq_def]
    exact hnumber
  rw [py_loads, hws, List.length_singleton, hvalue]

theorem readable_foreign : ∀ raw ∈ run_files foreign, Readable interpreter OneRun.digits raw := by
  intro raw hraw _ text htext
  rw [run_files_foreign, List.mem_singleton] at hraw
  rw [hraw, decode_utf8_utf8] at htext
  obtain rfl := Option.some.inj htext
  rw [LoadsCleanly, interpreter, py_loads_x]

theorem served_foreign :
    served interpreter OneRun.digits plain [1] OneRun.binding foreign = [] := by
  have hnone : accepted interpreter OneRun.digits plain [1] OneRun.binding (utf8 ['x']) = none := by
    rw [accepted, read_file, if_neg (by decide), decode_utf8_utf8, interpreter]
    dsimp only
    rw [py_loads_x]
  rw [served, run_files_foreign, List.filterMap_cons, hnone]
  rfl

end OneFile

-- The second of January is before the tenth, but not as a text with an unpadded month and day.
example : ((timestamp_fields OneRun.digits "2026-1-2T00:00:00Z".toList).map second_of).getD 0 <
    ((timestamp_fields OneRun.digits "2026-01-10T00:00:00Z".toList).map second_of).getD 0 ∧
    codes "2026-01-10T00:00:00Z".toList < codes "2026-1-2T00:00:00Z".toList := by
  decide +kernel

end AnKla.HookReads
