import AnKla.Revisions.Lineage

/-!
# The watermark

The watermark may end the walk of a chain early. It may do so unseen as long as the
revision that it binds has a valid chain itself.

* `Watermark.of`: the watermark of a revision.
* `Sincere`: what a watermark binds has a valid chain.
* `loop_of_sincere`: the walk comes to the same with it as without.
* `validate_stop_iff`: ending the walk at a valid revision changes no verdict.
-/

namespace AnKla

open PyJson Durable

variable (H : Crypto)

/-- `write_watermark(store, revision_id, manifest)`: what it writes. -/
def Watermark.of (id : Digest) (m : Manifest) : Watermark := ⟨id, m.parent, epoch_of m⟩

/-- Every revision that a watermark binds has a valid chain on the disk. -/
def Sincere (stop : Option Watermark) (d : Disk) : Prop :=
  ∀ id m, H.digest (.manifest m) = id → binding_matches stop id m = true → Chain H d id m

variable {H}

theorem binding_matches_of (id : Digest) (m : Manifest) :
    binding_matches (some (Watermark.of id m)) id m = true := by
  simp [binding_matches, Watermark.of]

/-- No watermark binds nothing. -/
theorem sincere_none (d : Disk) : Sincere H none d := by
  intro id m _ h
  cases h

/-- The watermark of a revision with a valid chain. -/
theorem sincere_of_chain {d : Disk} {id : Digest} {m : Manifest} (hid : H.digest (.manifest m) = id)
    (h : Chain H d id m) : Sincere H (some (Watermark.of id m)) d := by
  intro id' m' hid' hb
  simp only [binding_matches, Watermark.of, Bool.and_eq_true] at hb
  obtain rfl : id = id' := of_decide_eq_true hb.1.1
  obtain rfl := Crypto.manifest_inj (hid'.trans hid.symm)
  exact h

/-- Where the walk ends at the watermark, it would have come to the root. Before that,
    the walks take the same steps. -/
theorem loop_of_sincere {error : String → Failure} {stop : Option Watermark} {d : Disk} {n : ℕ}
    {id : Digest} {m : Manifest} {seen : List Digest} (hs : Sincere H stop d)
    (hid : H.digest (.manifest m) = id) (hn : m.revision < n)
    (hseen : ∀ s ∈ seen, ∃ m', H.digest (.manifest m') = s ∧ m.revision < m'.revision) :
    chain_loop H error stop d n id m seen = chain_loop H error none d n id m seen := by
  induction n generalizing id m seen with
  | zero => exact absurd hn (Nat.not_lt_zero _)
  | succ n ih =>
    by_cases hb : binding_matches stop id m = true
    · have hfull : chain_loop H error none d (n + 1) id m seen = .ok () :=
        loop_of_chain hid hn hseen (hs id m hid hb)
      have hmem : id ∉ seen := fun hmem => by
        rw [chain_loop, if_pos hmem] at hfull
        cases hfull
      rw [hfull, chain_loop, if_neg hmem, if_pos hb]
    · rw [chain_loop, chain_loop, if_neg hb]
      simp only [binding_matches, Bool.false_eq_true, if_false]
      split_ifs with hmem
      · rfl
      · cases hp : m.parent with
        | none => rfl
        | some parent_id =>
          refine bind_eq_of_ok fun p hr => bind_eq_of_ok fun _ hv => bind_eq_of_ok fun _ hl =>
            bind_eq_of_ok fun _ ht => ?_
          have hrev := (validate_transition_ok.1 ht).revision
          refine ih (digest_of_read_manifest hr) (by omega) fun s hs' => ?_
          obtain rfl | hs' := List.mem_cons.1 hs'
          · exact ⟨m, hid, by omega⟩
          · obtain ⟨m', hm', hlt⟩ := hseen s hs'
            exact ⟨m', hm', by omega⟩

/-- With a sincere watermark, validation comes to the same as without. -/
theorem validate_of_sincere {error : String → Failure} {stop : Option Watermark} {d : Disk}
    {id : Digest} {m : Manifest} (hs : Sincere H stop d) (hid : H.digest (.manifest m) = id) :
    validate_revision_chain H error stop d id m = validate_revision_chain H error none d id m :=
  loop_of_sincere hs hid (by omega) fun s hs' => absurd hs' List.not_mem_nil

/-- Ending the walk at a revision that full validation accepts changes no verdict. -/
theorem validate_stop_iff {error : String → Failure} {d : Disk} {stop id : Digest} {r m : Manifest}
    (hstop : H.digest (.manifest r) = stop) (hid : H.digest (.manifest m) = id)
    (h : validate_revision_chain H error none d stop r = .ok ()) :
    validate_revision_chain H error (some (Watermark.of stop r)) d id m = .ok () ↔
      validate_revision_chain H error none d id m = .ok () := by
  rw [validate_of_sincere (sincere_of_chain hstop ((validate_revision_chain_iff hstop).1 h)) hid]

end AnKla
