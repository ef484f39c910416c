import AnKla.Json.RoundTrip

/-!
# Indented JSON

The text of a value with one item a line, two spaces deeper for each level, and a space after
the colon of an item.

* `dumpsIndent`: the indented text of a value at a level.
* `loads_dumpsIndent`: it is read back.
-/

namespace PyJson

/-- The start of a new line at a level. -/
def newLine (d : ℕ) : List Char := '\n' :: List.replicate (2 * d) ' '

mutual

/-- The indented text of a value whose first character stands at a level. -/
def dumpsIndent (d : ℕ) : Json → List Char
  | .arr (x :: xs) =>
    '[' :: (newLine (d + 1) ++ dumpsIndent (d + 1) x ++ dumpsIndentArrRest d xs)
  | .obj ((k, x) :: kvs) =>
    '{' :: (newLine (d + 1) ++ dumpStr k ++ ':' :: ' ' :: (dumpsIndent (d + 1) x ++
      dumpsIndentObjRest d kvs))
  | v => dumps v

/-- The later elements of an array and its closing bracket. -/
def dumpsIndentArrRest (d : ℕ) : List Json → List Char
  | [] => newLine d ++ [']']
  | x :: xs => ',' :: (newLine (d + 1) ++ dumpsIndent (d + 1) x ++ dumpsIndentArrRest d xs)

/-- The later items of an object and its closing brace. -/
def dumpsIndentObjRest (d : ℕ) : List (String × Json) → List Char
  | [] => newLine d ++ ['}']
  | (k, x) :: kvs =>
    ',' :: (newLine (d + 1) ++ dumpStr k ++ ':' :: ' ' :: (dumpsIndent (d + 1) x ++
      dumpsIndentObjRest d kvs))

end

/-! ## Reading it back -/

theorem skipWs_newLine (d : ℕ) (r : List Char) : skipWs (newLine d ++ r) = skipWs r := by
  have hspaces : skipWs (List.replicate (2 * d) ' ' ++ r) = skipWs r := by
    induction 2 * d with
    | zero => rfl
    | succ n ih => rwa [List.replicate_succ, List.cons_append, skipWs,
        List.dropWhile_cons_of_pos (by decide), ← skipWs]
  rw [newLine, List.cons_append, skipWs, List.dropWhile_cons_of_pos (by decide), ← skipWs, hspaces]

/-- The indented text of a value starts with no white space and closes no bracket. -/
theorem dumpsIndent_head (d : ℕ) (v : Json) :
    ∃ c s, dumpsIndent d v = c :: s ∧ isWs c = false ∧ c ≠ ']' ∧ c ≠ '}' := by
  match v with
  | .arr (_ :: _) => exact ⟨_, _, by rw [dumpsIndent], by decide, by decide, by decide⟩
  | .obj ((_, _) :: _) => exact ⟨_, _, by rw [dumpsIndent], by decide, by decide, by decide⟩
  | .null | .bool true | .bool false | .int _ | .float _ | .str _ | .arr [] | .obj [] =>
    rw [dumpsIndent]
    · exact dumps_head _
    all_goals simp

theorem skipWs_dumpsIndent (d : ℕ) (v : Json) (r : List Char) :
    skipWs (dumpsIndent d v ++ r) = dumpsIndent d v ++ r := by
  obtain ⟨c, s, h, hc, -⟩ := dumpsIndent_head d v
  rw [h, List.cons_append, skipWs_of_not_isWs _ hc]

theorem numEnd_newLine (d : ℕ) (r : List Char) : NumEnd (newLine d ++ r) := by
  rw [newLine, List.cons_append]
  exact ⟨by decide, by decide, by decide, by decide⟩

theorem numEnd_indentArrRest (d : ℕ) (xs : List Json) (r : List Char) :
    NumEnd (dumpsIndentArrRest d xs ++ r) := by
  cases xs with
  | nil => rw [dumpsIndentArrRest, List.append_assoc]; exact numEnd_newLine _ _
  | cons x xs => rw [dumpsIndentArrRest]; exact NumEnd.head _ (by decide)

theorem numEnd_indentObjRest (d : ℕ) (kvs : List (String × Json)) (r : List Char) :
    NumEnd (dumpsIndentObjRest d kvs ++ r) := by
  match kvs with
  | [] => rw [dumpsIndentObjRest, List.append_assoc]; exact numEnd_newLine _ _
  | (k, x) :: kvs => rw [dumpsIndentObjRest]; exact NumEnd.head _ (by decide)

/-- An item is read back, given that its value is. -/
theorem parseItem_dumpsIndent {k : String} {v : Json} {n d : ℕ} {r : List Char}
    (hv : parseValue n (dumpsIndent d v ++ r) = some (v, r)) :
    parseItem (n + 1) (dumpStr k ++ ':' :: ' ' :: (dumpsIndent d v ++ r)) = some ((k, v), r) := by
  have hspace : skipWs (' ' :: (dumpsIndent d v ++ r)) = dumpsIndent d v ++ r := by
    rw [skipWs, List.dropWhile_cons_of_pos (by decide), ← skipWs, skipWs_dumpsIndent]
  rw [dumpStr_append, parseItem, if_pos rfl, parseString_dumpStr]
  simp only [Option.bind_some]
  rw [skipWs_of_not_isWs _ (by decide : isWs ':' = false)]
  simp only [if_true]
  rw [hspace, hv, Option.map_some, String.ofList_toList]

theorem skipWs_dumpStr (s : String) (r : List Char) : skipWs (dumpStr s ++ r) = dumpStr s ++ r :=
  skipWs_of_not_isWs _ (by decide)

mutual

/-- Reading what was written yields the value, whatever follows it. -/
theorem parseValue_dumpsIndent : ∀ (v : Json) (d n : ℕ) (r : List Char), v.Wf →
    v.intsFit = true → (dumpsIndent d v).length < n → NumEnd r →
    parseValue n (dumpsIndent d v ++ r) = some (v, r)
  | .arr (x :: xs), d, n, r, hw, hi, hn, _ => by
    rw [Json.Wf, Json.WfList] at hw
    simp only [Json.intsFit, Json.intsFitList, Bool.and_eq_true] at hi
    simp only [dumpsIndent, List.length_cons, List.length_append] at hn
    obtain ⟨n, rfl⟩ : ∃ m, n = m + 1 := ⟨n - 1, by omega⟩
    obtain ⟨c, s, hx, hc, hc', -⟩ := dumpsIndent_head (d + 1) x
    have ih := parseValue_dumpsIndent x (d + 1) n (dumpsIndentArrRest d xs ++ r) hw.1 hi.1
      (by omega) (numEnd_indentArrRest d xs r)
    have ih' := parseArrRest_dumpsIndent xs d n r hw.2 hi.2 (by omega)
    rw [dumpsIndent, List.cons_append, List.append_assoc, List.append_assoc, parseValue,
      if_neg (by decide), if_neg (by decide), if_pos rfl, skipWs_newLine, skipWs_dumpsIndent]
    rw [hx] at ih ⊢
    simp only [List.cons_append, if_neg hc'] at ih ⊢
    rw [ih]
    simp only [Option.bind_some, ih', Option.map_some]
  | .obj ((k, x) :: kvs), d, n, r, hw, hi, hn, _ => by
    rw [Json.Wf, Json.WfItems] at hw
    simp only [Json.intsFit, Json.intsFitItems, Bool.and_eq_true] at hi
    simp only [dumpsIndent, List.length_cons, List.length_append] at hn
    obtain ⟨m, rfl⟩ : ∃ m, n = m + 2 := ⟨n - 2, by omega⟩
    have ih := parseValue_dumpsIndent x (d + 1) m (dumpsIndentObjRest d kvs ++ r) hw.2.1 hi.1
      (by omega) (numEnd_indentObjRest d kvs r)
    have ih' := parseObjRest_dumpsIndent kvs d (m + 1) r hw.2.2 hi.2 (by omega)
    have hk := parseItem_dumpsIndent (k := k) ih
    have htext : dumpsIndent d (.obj ((k, x) :: kvs)) ++ r = '{' :: (newLine (d + 1) ++
        (dumpStr k ++ ':' :: ' ' :: (dumpsIndent (d + 1) x ++ (dumpsIndentObjRest d kvs ++ r)))) := by
      rw [dumpsIndent]
      simp only [List.cons_append, List.append_assoc]
    rw [htext, parseValue, if_neg (by decide), if_pos rfl, skipWs_newLine, skipWs_dumpStr]
    rw [dumpStr_append] at hk ⊢
    simp only [if_neg (by decide : '"' ≠ '}')]
    rw [hk]
    simp only [Option.bind_some, ih', Option.map_some]
    rw [Json.ofItems_of_sorted hw.1]
  | .null, _, _, _, hw, hi, hn, hr | .bool true, _, _, _, hw, hi, hn, hr
  | .bool false, _, _, _, hw, hi, hn, hr | .int _, _, _, _, hw, hi, hn, hr
  | .float _, _, _, _, hw, hi, hn, hr | .str _, _, _, _, hw, hi, hn, hr
  | .arr [], _, _, _, hw, hi, hn, hr | .obj [], _, _, _, hw, hi, hn, hr => by
    rw [dumpsIndent] at hn ⊢
    · exact parseValue_dumps _ _ _ hw hi hn hr
    all_goals simp

theorem parseArrRest_dumpsIndent : ∀ (xs : List Json) (d n : ℕ) (r : List Char), Json.WfList xs →
    Json.intsFitList xs = true → (dumpsIndentArrRest d xs).length < n + 1 →
    parseArrRest n (skipWs (dumpsIndentArrRest d xs ++ r)) = some (xs, r)
  | [], d, n, r, _, _, hn => by
    simp only [dumpsIndentArrRest, newLine, List.length_append, List.length_cons] at hn
    obtain ⟨n, rfl⟩ : ∃ m, n = m + 1 := ⟨n - 1, by omega⟩
    rw [dumpsIndentArrRest, List.append_assoc, skipWs_newLine]
    rfl
  | x :: xs, d, n, r, hw, hi, hn => by
    rw [Json.WfList] at hw
    simp only [Json.intsFitList, Bool.and_eq_true] at hi
    simp only [dumpsIndentArrRest, newLine, List.length_cons, List.length_append] at hn
    obtain ⟨m, rfl⟩ : ∃ m, n = m + 1 := ⟨n - 1, by omega⟩
    have ih := parseValue_dumpsIndent x (d + 1) m (dumpsIndentArrRest d xs ++ r) hw.1 hi.1
      (by omega) (numEnd_indentArrRest d xs r)
    have ih' := parseArrRest_dumpsIndent xs d m r hw.2 hi.2 (by omega)
    rw [dumpsIndentArrRest, List.cons_append, List.append_assoc, List.append_assoc,
      skipWs_of_not_isWs _ (by decide : isWs ',' = false), parseArrRest, if_neg (by decide),
      if_pos rfl, skipWs_newLine, skipWs_dumpsIndent, ih]
    simp only [Option.bind_some, ih', Option.map_some]

theorem parseObjRest_dumpsIndent : ∀ (kvs : List (String × Json)) (d n : ℕ) (r : List Char),
    Json.WfItems kvs → Json.intsFitItems kvs = true →
    (dumpsIndentObjRest d kvs).length < n + 1 →
    parseObjRest n (skipWs (dumpsIndentObjRest d kvs ++ r)) = some (kvs, r)
  | [], d, n, r, _, _, hn => by
    simp only [dumpsIndentObjRest, newLine, List.length_append, List.length_cons] at hn
    obtain ⟨n, rfl⟩ : ∃ m, n = m + 1 := ⟨n - 1, by omega⟩
    rw [dumpsIndentObjRest, List.append_assoc, skipWs_newLine]
    rfl
  | (k, x) :: kvs, d, n, r, hw, hi, hn => by
    rw [Json.WfItems] at hw
    simp only [Json.intsFitItems, Bool.and_eq_true] at hi
    simp only [dumpsIndentObjRest, newLine, List.length_cons, List.length_append] at hn
    obtain ⟨m, rfl⟩ : ∃ m, n = m + 2 := ⟨n - 2, by omega⟩
    have ih := parseValue_dumpsIndent x (d + 1) m (dumpsIndentObjRest d kvs ++ r) hw.1 hi.1
      (by omega) (numEnd_indentObjRest d kvs r)
    have ih' := parseObjRest_dumpsIndent kvs d (m + 1) r hw.2 hi.2 (by omega)
    have hk := parseItem_dumpsIndent (k := k) ih
    have htext : dumpsIndentObjRest d ((k, x) :: kvs) ++ r = ',' :: (newLine (d + 1) ++
        (dumpStr k ++ ':' :: ' ' :: (dumpsIndent (d + 1) x ++ (dumpsIndentObjRest d kvs ++ r)))) := by
      rw [dumpsIndentObjRest]
      simp only [List.cons_append, List.append_assoc]
    rw [htext, skipWs_of_not_isWs _ (by decide : isWs ',' = false), parseObjRest,
      if_neg (by decide), if_pos rfl, skipWs_newLine, skipWs_dumpStr, hk]
    simp only [Option.bind_some, ih', Option.map_some]

end

/-- An indented value is read back, before white space. -/
theorem loads_dumpsIndent {v : Json} (hw : v.Wf) (hi : v.intsFit = true) {t : List Char}
    (hend : NumEnd t) (ht : skipWs t = []) : loads (dumpsIndent 0 v ++ t) = some v := by
  rw [loads, skipWs_dumpsIndent, parseValue_dumpsIndent v 0 _ t hw hi
    (by rw [List.length_append]; omega) hend]
  simp only [Option.bind_some, if_pos ht]

end PyJson
