import AnKla.Json.Value

/-!
# ASCII texts

The characters of an ASCII text, read off its bytes, one for one. Equal texts have
equal bytes, so a closed text is searched in its bytes, without decoding it.

* `ascii`: the characters of the bytes of a text.
* `ascii_eq`: they are those of the text, if these are ASCII.
* `toList_eq_ascii`: they are those of the text, if its bytes are ASCII.
-/

namespace PyJson

/-- The bytes of a text. -/
def textBytes (s : String) : List UInt8 := s.toByteArray.data.toList

/-- The characters of the bytes of a text, as if each byte were a character. -/
def ascii (s : String) : List Char := (textBytes s).map fun b => Char.ofNat b.toNat

theorem textBytes_eq (s : String) : textBytes s = s.toList.flatMap String.utf8EncodeChar := by
  rw [textBytes, ← String.utf8Encode_toList, List.utf8Encode, List.data_toByteArray]

theorem encode_ascii {c : Char} (h : c.toNat < 128) :
    String.utf8EncodeChar c = [UInt8.ofNat c.toNat] := by
  have hle : c.val.toNat ≤ 0x7f := Nat.le_of_lt_succ h
  rw [String.utf8EncodeChar, if_pos hle]
  rfl

theorem decode_ascii_byte {c : Char} (h : c.toNat < 128) :
    Char.ofNat (UInt8.ofNat c.toNat).toNat = c := by
  rw [UInt8.toNat_ofNat', Nat.mod_eq_of_lt (h.trans (by decide)), Char.ofNat_toNat]

/-- The bytes of a character that is not ASCII are not ASCII. -/
theorem ascii_of_encode {c : Char} (h : ∀ b ∈ String.utf8EncodeChar c, b.toNat < 128) :
    c.toNat < 128 := by
  by_contra hge
  have hgt : ¬c.val.toNat ≤ 0x7f := fun hle => hge (Nat.lt_succ_of_le hle)
  have hhead (x n : ℕ) (hx : x < n) (hn : n + 128 ≤ 256) (m : ℕ) (hm : 128 ≤ m) (hnm : n + m ≤ 256) :
      128 ≤ (UInt8.ofNat (x + m)).toNat := by
    rw [UInt8.toNat_ofNat', Nat.mod_eq_of_lt (by omega)]
    omega
  rw [String.utf8EncodeChar, if_neg hgt] at h
  split_ifs at h
  · exact absurd (h _ List.mem_cons_self)
      (not_lt.2 (hhead _ 0x20 (Nat.mod_lt _ (by decide)) (by decide) 0xc0 (by decide) (by decide)))
  · exact absurd (h _ List.mem_cons_self)
      (not_lt.2 (hhead _ 0x10 (Nat.mod_lt _ (by decide)) (by decide) 0xe0 (by decide) (by decide)))
  · exact absurd (h _ List.mem_cons_self)
      (not_lt.2 (hhead _ 0x08 (Nat.mod_lt _ (by decide)) (by decide) 0xf0 (by decide) (by decide)))

/-- An ASCII text is what its bytes are. -/
theorem ascii_eq {s : String} (h : ∀ c ∈ s.toList, c.toNat < 128) : ascii s = s.toList := by
  rw [ascii, textBytes_eq]
  generalize s.toList = l at h
  induction l with
  | nil => rfl
  | cons c l ih =>
    have hc := h c List.mem_cons_self
    rw [List.flatMap_cons, encode_ascii hc, List.singleton_append, List.map_cons,
      decode_ascii_byte hc, ih fun x hx => h x (List.mem_cons_of_mem _ hx)]

/-- A text whose bytes are ASCII is what its bytes are. -/
theorem toList_eq_ascii {s : String} (h : (textBytes s).all fun b => b.toNat < 128) :
    s.toList = ascii s := by
  refine (ascii_eq fun c hc => ascii_of_encode fun b hb => ?_).symm
  rw [textBytes_eq] at h
  exact of_decide_eq_true (List.all_eq_true.1 h b (List.mem_flatMap.2 ⟨c, hc, hb⟩))

end PyJson
