import AnKla.Json.RoundTrip
import Mathlib.Data.Nat.Digits.Defs

/-!
# What is read can be written

The reader sorts the items of an object and refuses integers that are too long to be
written, so that every value it returns is the one value of its canonical text.

* `loads_storable`: a value that was read lists its keys in order, and its integers fit.
* `dumps_inj`: two such values with one text are equal.
-/

namespace PyJson

/-! ## Integers -/

theorem ofDigitChars_lt {s : List Char} (h : ∀ c ∈ s, c.isDigit = true) (acc : ℕ) :
    Nat.ofDigitChars 10 s acc < (acc + 1) * 10 ^ s.length := by
  induction s generalizing acc with
  | nil => simp [Nat.ofDigitChars]
  | cons c s ih =>
    have hc : c.toNat - '0'.toNat ≤ 9 := by
      have hdigit := h c List.mem_cons_self
      simp only [Char.isDigit, Bool.and_eq_true, decide_eq_true_eq] at hdigit
      have h9 : c.toNat ≤ 57 := hdigit.2
      have h0 : '0'.toNat = 48 := rfl
      omega
    rw [Nat.ofDigitChars_cons]
    refine (ih (fun d hd => h d (List.mem_cons_of_mem _ hd)) _).trans_le ?_
    rw [List.length_cons, pow_succ, mul_comm (10 ^ s.length) 10, ← mul_assoc]
    exact Nat.mul_le_mul_right _ (by omega)

/-- The digits of a number, as it is written, are no more than those it was read from. -/
theorem digitCount_toDigits_le {s : List Char} (h : ∀ c ∈ s, c.isDigit = true) (hs : s ≠ []) :
    digitCount (Nat.toDigits 10 (Nat.ofDigitChars 10 s 0)) ≤ digitCount s := by
  have hlen : digitCount s = s.length := by
    rw [digitCount, List.countP_eq_length]
    exact h
  have hlt : Nat.ofDigitChars 10 s 0 < 10 ^ s.length := by
    simpa using ofDigitChars_lt h 0
  rw [hlen]
  exact List.countP_le_length.trans
    (Nat.toDigits_length 10 _ s.length (List.length_pos_iff.2 hs) hlt)

theorem digits_of_lexNat {s i r : List Char} (h : lexNat s = some (i, r)) :
    i ≠ [] ∧ ∀ c ∈ i, c.isDigit = true := by
  cases s with
  | nil => cases h
  | cons c s =>
    rw [lexNat] at h
    split_ifs at h with hc hd
    · cases h
      simp
    · cases h
      refine ⟨?_, fun d hd => List.mem_takeWhile_imp hd⟩
      rw [List.takeWhile_cons_of_pos hd]
      exact List.cons_ne_nil _ _

/-- An integer has at most the digits that it was read from. -/
theorem digitCount_intOf_le {s i r : List Char} (h : lexInt s = some (i, r)) :
    digitCount (dumpInt (intOf i)) ≤ digitCount i := by
  have hminus (n : ℕ) : digitCount (dumpInt (-(n : ℤ))) ≤ digitCount (Nat.toDigits 10 n) := by
    cases n with
    | zero => exact le_rfl
    | succ n =>
      rw [show (-((n + 1 : ℕ) : ℤ)) = Int.negSucc n from rfl, dumpInt, digitCount,
        List.countP_cons_of_neg (by decide)]
      rfl
  cases s with
  | nil => cases h
  | cons c s =>
    rw [lexInt] at h
    split_ifs at h with hc
    · obtain ⟨⟨ds, t⟩, hl, he⟩ := Option.map_eq_some_iff.1 h
      cases he
      obtain ⟨hne, hd⟩ := digits_of_lexNat hl
      rw [intOf, if_pos rfl]
      refine (hminus _).trans ((digitCount_toDigits_le hd hne).trans ?_)
      rw [digitCount, digitCount, List.countP_cons_of_neg (by decide)]
    · obtain ⟨hne, hd⟩ := digits_of_lexNat h
      cases i with
      | nil => exact absurd rfl hne
      | cons b i =>
        have hb : b ≠ '-' := by
          rintro rfl
          exact absurd (hd _ List.mem_cons_self) (by decide)
        rw [intOf, if_neg hb]
        exact digitCount_toDigits_le hd hne

/-! ## Values -/

/-- What a parser returns has a property. -/
private def Reads {α : Type} (p : Option (α × List Char)) (good : α → Prop) : Prop :=
  ∀ a r, p = some (a, r) → good a

private theorem Reads.map {α β : Type} {p : Option (α × List Char)} {good : α → Prop}
    {good' : β → Prop} {f : α → β} (h : Reads p good) (hf : ∀ a, good a → good' (f a)) :
    Reads (p.map fun q => (f q.1, q.2)) good' := by
  rintro b r hb
  obtain ⟨⟨a, r'⟩, hp, he⟩ := Option.map_eq_some_iff.1 hb
  cases he
  exact hf a (h a _ hp)

private theorem Reads.bind {α β : Type} {p : Option (α × List Char)} {good : α → Prop}
    {good' : β → Prop} {f : α × List Char → Option (β × List Char)} (h : Reads p good)
    (hf : ∀ q, good q.1 → Reads (f q) good') : Reads (p.bind f) good' := by
  rintro b r hb
  obtain ⟨q, hp, hq⟩ := Option.bind_eq_some_iff.1 hb
  exact hf q (h q.1 q.2 hp) b r hq

/-- A value that its canonical text determines. -/
def Json.Written (v : Json) : Prop := v.Wf ∧ v.intsFit = true

theorem written_arr {xs : List Json} : (Json.arr xs).Written ↔ ∀ x ∈ xs, x.Written := by
  simp only [Json.Written, Json.Wf, Json.intsFit, Json.WfList_iff, Json.intsFitList_iff, forall_and]

/-- An object of such values, in any order, becomes one. -/
theorem written_ofItems {kvs : List (String × Json)} (h : ∀ kv ∈ kvs, kv.2.Written) :
    (Json.obj (Json.ofItems kvs)).Written := by
  have hmem : ∀ kv ∈ Json.ofItems kvs, kv ∈ kvs := by
    clear h
    induction kvs with
    | nil => exact fun _ hkv => hkv
    | cons lw kvs ih =>
      intro kv hkv
      obtain rfl | hkv := Json.mem_insertItem hkv
      · exact List.mem_cons_self
      · exact List.mem_cons_of_mem _ (ih kv hkv)
  rw [Json.Written, Json.Wf, Json.intsFit, Json.WfItems_iff, Json.intsFitItems_iff]
  exact ⟨⟨Json.keysSorted_ofItems kvs, fun kv hkv => (h kv (hmem kv hkv)).1⟩,
    fun kv hkv => (h kv (hmem kv hkv)).2⟩

private theorem reads_number (s : List Char) : Reads (parseNumber s) Json.Written := by
  intro v r h
  rw [parseNumber] at h
  split at h
  · cases h
  · next i fe t hlex =>
    split_ifs at h with hfe hcount hfloat
    · cases h
      obtain ⟨t', hi⟩ := lexInt_of_lexNumber hlex
      exact ⟨trivial, decide_eq_true ((digitCount_intOf_le hi).trans hcount)⟩
    · cases h
      exact ⟨trivial, rfl⟩

private theorem reads_lit (rest : List Char) {v : Json} (hv : v.Written) (s : List Char) :
    Reads (parseLit rest v s) Json.Written := by
  intro w r h
  rw [parseLit] at h
  split_ifs at h
  cases h
  exact hv

/-- All four readers return written values. -/
private theorem reads_all (n : ℕ) :
    (∀ s, Reads (parseValue n s) Json.Written) ∧ (∀ s, Reads (parseItem n s) fun kv => kv.2.Written) ∧
    (∀ s, Reads (parseArrRest n s) fun xs => ∀ x ∈ xs, x.Written) ∧
    ∀ s, Reads (parseObjRest n s) fun kvs => ∀ kv ∈ kvs, kv.2.Written := by
  induction n with
  | zero =>
    refine ⟨fun s => ?_, fun s => ?_, fun s => ?_, fun s => ?_⟩ <;> intro a r h
    · rw [parseValue] at h; cases h
    · rw [parseItem] at h; cases h
    · rw [parseArrRest] at h; cases h
    · rw [parseObjRest] at h; cases h
  | succ n ih =>
    obtain ⟨hvalue, hitem, harr, hobj⟩ := ih
    refine ⟨fun s => ?_, fun s => ?_, fun s => ?_, fun s => ?_⟩ <;>
      cases s with
      | nil => rintro _ _ ⟨⟩
      | cons c s => ?_
    · rw [parseValue]
      split_ifs
      · rintro v r h
        obtain ⟨p, -, he⟩ := Option.map_eq_some_iff.1 h
        cases he
        exact ⟨trivial, rfl⟩
      · split
        · rintro _ _ ⟨⟩
        · split_ifs
          · rintro v r h
            cases h
            exact ⟨by simp [Json.Wf, Json.KeysSorted, Json.WfItems], rfl⟩
          · refine (hitem _).bind fun p hp => (hobj _).map fun kvs hkvs => written_ofItems ?_
            exact List.forall_mem_cons.2 ⟨hp, hkvs⟩
      · split
        · rintro _ _ ⟨⟩
        · split_ifs
          · rintro v r h
            cases h
            exact written_arr.2 fun x hx => absurd hx List.not_mem_nil
          · refine (hvalue _).bind fun p hp => (harr _).map fun xs hxs => written_arr.2 ?_
            exact List.forall_mem_cons.2 ⟨hp, hxs⟩
      · exact reads_lit _ ⟨by simp [Json.Wf], rfl⟩ s
      · exact reads_lit _ ⟨by simp [Json.Wf], rfl⟩ s
      · exact reads_lit _ ⟨by simp [Json.Wf], rfl⟩ s
      · exact reads_number _
    · rw [parseItem]
      split_ifs
      · rintro kv r h
        obtain ⟨p, -, h⟩ := Option.bind_eq_some_iff.1 h
        split at h
        · cases h
        · split_ifs at h
          obtain ⟨q, hq, he⟩ := Option.map_eq_some_iff.1 h
          cases he
          exact hvalue _ _ _ hq
      · rintro _ _ ⟨⟩
    · rw [parseArrRest]
      split_ifs
      · rintro xs r h
        cases h
        exact fun x hx => absurd hx List.not_mem_nil
      · refine (hvalue _).bind fun p hp => (harr _).map fun xs hxs => ?_
        exact List.forall_mem_cons.2 ⟨hp, hxs⟩
      · rintro _ _ ⟨⟩
    · rw [parseObjRest]
      split_ifs
      · rintro kvs r h
        cases h
        exact fun x hx => absurd hx List.not_mem_nil
      · refine (hitem _).bind fun p hp => (hobj _).map fun kvs hkvs => ?_
        exact List.forall_mem_cons.2 ⟨hp, hkvs⟩
      · rintro _ _ ⟨⟩

/-- What is read is written back in one way. -/
theorem loads_written {s : List Char} {v : Json} (h : loads s = some v) : v.Written := by
  rw [loads] at h
  obtain ⟨⟨w, r⟩, hp, hv⟩ := Option.bind_eq_some_iff.1 h
  split_ifs at hv
  cases hv
  exact (reads_all _).1 _ _ _ hp

/-- Values with one text are equal. -/
theorem dumps_inj {v w : Json} (hv : v.Written) (hw : w.Written) (h : dumps v = dumps w) : v = w := by
  have hl := loads_dumps hv.1 hv.2
  rw [h, loads_dumps hw.1 hw.2] at hl
  exact (Option.some.inj hl).symm

end PyJson
