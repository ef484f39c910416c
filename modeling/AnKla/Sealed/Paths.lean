import AnKla.Sealed.Base64

/-!
# The files of an export

Which files of a store an export takes along, by their paths.

* `PATTERNS`, `allowed`: the closed list of paths.
* `export_file`: whether a file is taken along, left out, or refused.
* `casefold_injective`: no two of these paths differ only in the case of letters, so
  that a bundle can be unpacked where case does not matter.
-/

namespace AnKla.Sealed

open Base64

/-! ## Components of a path -/

/-- The components of a path. -/
def components : List Char → List (List Char)
  | [] => [[]]
  | c :: s =>
    if c = '/' then [] :: components s
    else match components s with
      | [] => [[c]]
      | w :: ws => (c :: w) :: ws

/-- Every character of a path is a slash, or lies in a component. -/
theorem mem_components {s : List Char} {c : Char} (h : c ∈ s) :
    c = '/' ∨ ∃ w ∈ components s, c ∈ w := by
  induction s with
  | nil => exact absurd h List.not_mem_nil
  | cons b s ih =>
    rw [components]
    by_cases hb : b = '/'
    · rw [if_pos hb]
      obtain rfl | h := List.mem_cons.1 h
      · exact .inl hb
      · refine (ih h).imp id fun ⟨w, hw, hc⟩ => ⟨w, List.mem_cons_of_mem _ hw, hc⟩
    · rw [if_neg hb]
      cases hs : components s with
      | nil =>
        obtain rfl | h := List.mem_cons.1 h
        · exact .inr ⟨[c], List.mem_cons_self, List.mem_cons_self⟩
        · obtain h | ⟨w, hw, -⟩ := ih h
          · exact .inl h
          · rw [hs] at hw
            exact absurd hw List.not_mem_nil
      | cons w ws =>
        simp only
        obtain rfl | h := List.mem_cons.1 h
        · exact .inr ⟨c :: w, List.mem_cons_self, List.mem_cons_self⟩
        · obtain h | ⟨v, hv, hc⟩ := ih h
          · exact .inl h
          · rw [hs] at hv
            obtain rfl | hv := List.mem_cons.1 hv
            · exact .inr ⟨b :: v, List.mem_cons_self, List.mem_cons_of_mem _ hc⟩
            · exact .inr ⟨v, List.mem_cons_of_mem _ hv, hc⟩

/-! ## Patterns -/

/-- One component of a pattern. -/
inductive Part
  /-- One of some names. -/
  | names (ns : List String)
  /-- 64 hexadecimal digits and an extension. -/
  | hex (ext : String)
  /-- A UUID and an extension. -/
  | uuid (ext : String)
  deriving DecidableEq

/-- `_UUID`, character by character. -/
def uuidShape : List (Char → Bool) :=
  let h (n : ℕ) : List (Char → Bool) := List.replicate n isHexDigit
  let dash : List (Char → Bool) := [fun c => decide (c = '-')]
  let version : List (Char → Bool) := [fun c => decide ('1' ≤ c) && decide (c ≤ '5')]
  let variant : List (Char → Bool) := [fun c => ['8', '9', 'a', 'b'].contains c]
  h 8 ++ dash ++ h 4 ++ dash ++ version ++ h 3 ++ dash ++ variant ++ h 3 ++ dash ++ h 12

/-- Characters, each of its own kind. -/
def shapeMatches (shape : List (Char → Bool)) (w : List Char) : Bool :=
  w.length = shape.length && (List.zipWith (fun f c => f c) shape w).all id

/-- The component fits. -/
def Part.fits : Part → List Char → Bool
  | .names ns, w => ns.any fun n => n.toList = w
  | .hex ext, w => shapeMatches (List.replicate 64 isHexDigit) (w.take 64) && w.drop 64 = ext.toList
  | .uuid ext, w => shapeMatches uuidShape (w.take 36) && w.drop 36 = ext.toList

/-- The components fit, one by one. -/
def partsFit : List Part → List (List Char) → Bool
  | [], [] => true
  | p :: ps, w :: ws => p.fits w && partsFit ps ws
  | _, _ => false

/-- `_PATTERNS`. -/
def PATTERNS : List (List Part) :=
  [[.names ["anchor"], .names ["project-identity.json"]],
    [.names ["anchor"], .names ["identity-intent.json"]],
    [.names ["anchor"], .names ["identity-intents", "identity-receipts"], .names ["sha256"],
      .hex ".json"],
    [.names ["anchor"], .names ["memory"], .names ["identity.json"]],
    [.names ["anchor"], .names ["memory"], .names ["identities"], .names ["sha256"], .hex ".json"],
    [.names ["anchor"], .names ["memory"], .names ["refs"], .names ["CURRENT"]],
    [.names ["anchor"], .names ["memory"], .names ["refs"], .names ["ref-log"], .names ["sha256"],
      .hex ".json"],
    [.names ["anchor"], .names ["memory"],
      .names ["revisions", "checkpoints", "refutations", "authority-claims",
        "authority-attestations"], .names ["sha256"], .hex ".json"],
    [.names ["anchor"], .names ["memory"], .names ["segments"],
      .names ["facts", "events", "episodes"], .names ["sha256"], .hex ".jsonl"],
    [.names ["anchor"], .names ["memory"], .names ["transactions"], .uuid ".json"],
    [.names ["anchor"], .names ["memory"], .names ["transactions"], .uuid "",
      .names ["stages", "receipts"], .names ["sha256"], .hex ".json"],
    [.names ["anchor"], .names ["memory"], .names ["compaction"],
      .names ["catalogs", "epochs", "restore-proofs"], .names ["sha256"], .hex ".json"],
    [.names ["anchor"], .names ["receipts"], .names ["receipts"], .names ["sha256"], .hex ".json"],
    [.names ["anchor"], .names ["receipts"], .names ["nonces"], .names ["sha256"], .hex ".json"],
    [.names ["anchor"], .names ["attest-whitelist.json"]],
    [.names ["anchor"], .names ["hook-runs"], .names ["runs"], .names ["sha256"], .hex ".json"],
    [.names ["anchor"], .names ["relocation-receipts"], .names ["sha256"], .hex ".json"]]

/-- `_allowed(path)`. -/
def allowed (path : String) : Bool := PATTERNS.any fun p => partsFit p (components path.toList)

/-- The files that an export leaves out. -/
def ignored (path : String) : Bool :=
  ["anchor/.identity.lock", "anchor/memory/.write.lock", "anchor/memory/.reader-gate",
    "anchor/attest.key", "anchor/host-hooks.json", "anchor/store-root.txt"].contains path ||
  ["anchor/context/", "anchor/relocations/", "anchor/memory/indexes/", "anchor/memory/leases/",
    "anchor/memory/quarantine/", "anchor/memory/watermarks/"].any fun d =>
      d.toList.isPrefixOf path.toList

/-! ## Components of allowed paths -/

/-- The names of the component have at least three characters. -/
def Part.long : Part → Bool
  | .names ns => ns.all fun n => 3 ≤ n.toList.length
  | _ => true

/-- What fits such a part is no empty text, no dot and no two dots. -/
theorem Part.length_of_fits {p : Part} {w : List Char} (hp : p.long = true)
    (h : p.fits w = true) : 3 ≤ w.length := by
  have hshape {shape : List (Char → Bool)} {k : ℕ} (hk : 3 ≤ shape.length)
      (h : shapeMatches shape (w.take k) = true) : 3 ≤ w.length := by
    rw [shapeMatches, Bool.and_eq_true, decide_eq_true_eq, List.length_take] at h
    omega
  cases p with
  | names ns =>
    obtain ⟨n, hn, hw⟩ := List.any_eq_true.1 h
    rw [decide_eq_true_eq] at hw
    subst hw
    exact of_decide_eq_true (List.all_eq_true.1 hp n hn)
  | hex ext =>
    rw [Part.fits, Bool.and_eq_true] at h
    exact hshape (by rw [List.length_replicate]; decide) h.1
  | uuid ext =>
    rw [Part.fits, Bool.and_eq_true] at h
    exact hshape (by decide) h.1

theorem length_of_partsFit {ps : List Part} {ws : List (List Char)}
    (hps : ∀ p ∈ ps, p.long = true) (h : partsFit ps ws = true) : ∀ w ∈ ws, 3 ≤ w.length := by
  induction ps generalizing ws with
  | nil =>
    cases ws with
    | nil => exact fun w hw => absurd hw List.not_mem_nil
    | cons w ws => cases h
  | cons p ps ih =>
    cases ws with
    | nil => cases h
    | cons w ws =>
      rw [partsFit, Bool.and_eq_true] at h
      intro v hv
      obtain rfl | hv := List.mem_cons.1 hv
      · exact Part.length_of_fits (hps p List.mem_cons_self) h.1
      · exact ih (fun q hq => hps q (List.mem_cons_of_mem _ hq)) h.2 v hv

/-- Every component of an allowed path has at least three characters. -/
theorem length_of_allowed {path : String} (h : allowed path = true) :
    ∀ w ∈ components path.toList, 3 ≤ w.length := by
  obtain ⟨ps, hps, hfit⟩ := List.any_eq_true.1 h
  have htable : ∀ ps ∈ PATTERNS, ∀ p ∈ ps, p.long = true := by decide +kernel
  exact length_of_partsFit (htable ps hps) hfit

/-- A name without slashes before a slash is the first component. -/
theorem components_append {w s : List Char} (h : '/' ∉ w) :
    components (w ++ '/' :: s) = w :: components s := by
  induction w with
  | nil => rw [List.nil_append, components, if_pos rfl]
  | cons c w ih =>
    rw [List.mem_cons, not_or] at h
    rw [List.cons_append, components, if_neg (Ne.symm h.1), ih h.2]

/-! ## Case -/

/-- A character that no change of case changes. -/
def folded (c : Char) : Bool := decide (c.toNat < 128) && decide (c.toLower = c)

/-- The names of the component are without capital letters. -/
def Part.folded : Part → Bool
  | .names ns => ns.all fun n => n.toList.all Sealed.folded
  | .hex ext | .uuid ext => ext.toList.all Sealed.folded

theorem folded_of_isHexDigit {c : Char} (h : isHexDigit c = true) : folded c = true := by
  simp only [isHexDigit, Char.isDigit, Bool.or_eq_true, Bool.and_eq_true, decide_eq_true_eq] at h
  have hn : c.toNat < 128 ∧ ¬(65 ≤ c.toNat ∧ c.toNat ≤ 90) := by
    obtain ⟨h1, h2⟩ | ⟨h1, h2⟩ := h
    · have h1' : 48 ≤ c.toNat := h1
      have h2' : c.toNat ≤ 57 := h2
      omega
    · have h1' : 97 ≤ c.toNat := h1
      have h2' : c.toNat ≤ 102 := h2
      omega
  rw [folded, Bool.and_eq_true, decide_eq_true_eq, decide_eq_true_eq]
  exact ⟨hn.1, dif_neg fun h => hn.2 ⟨h.1, h.2⟩⟩

theorem shapeMatches_all {shape : List (Char → Bool)} {w : List Char} {q : Char → Bool}
    (hq : ∀ f ∈ shape, ∀ c, f c = true → q c = true) (h : shapeMatches shape w = true) :
    w.all q = true := by
  induction shape generalizing w with
  | nil =>
    rw [shapeMatches, Bool.and_eq_true, decide_eq_true_eq] at h
    rw [List.eq_nil_of_length_eq_zero h.1]
    rfl
  | cons f shape ih =>
    cases w with
    | nil => rfl
    | cons c w =>
      simp only [shapeMatches, List.length_cons, List.zipWith_cons_cons, List.all_cons, id,
        Bool.and_eq_true, decide_eq_true_eq, Nat.add_right_cancel_iff] at h
      rw [List.all_cons, Bool.and_eq_true]
      refine ⟨hq f List.mem_cons_self c h.2.1, ih (fun g hg => hq g (List.mem_cons_of_mem _ hg)) ?_⟩
      rw [shapeMatches, Bool.and_eq_true, decide_eq_true_eq]
      exact ⟨h.1, h.2.2⟩

theorem uuidShape_folded : ∀ f ∈ uuidShape, ∀ c, f c = true → folded c = true := by
  intro f hf c hc
  have hex {n : ℕ} (h : f ∈ List.replicate n isHexDigit) : folded c = true := by
    rw [(List.mem_replicate.1 h).2] at hc
    exact folded_of_isHexDigit hc
  have dash (h : f ∈ ([fun c => decide (c = '-')] : List (Char → Bool))) : folded c = true := by
    rw [List.mem_singleton.1 h, decide_eq_true_eq] at hc
    rw [hc]
    decide
  simp only [uuidShape, List.mem_append] at hf
  obtain (((((((((h | h) | h) | h) | h) | h) | h) | h) | h) | h) | h := hf
  · exact hex h
  · exact dash h
  · exact hex h
  · exact dash h
  · rw [List.mem_singleton.1 h, Bool.and_eq_true, decide_eq_true_eq, decide_eq_true_eq] at hc
    refine folded_of_isHexDigit ?_
    simp only [isHexDigit, Char.isDigit, Bool.or_eq_true, Bool.and_eq_true, decide_eq_true_eq]
    have h0 : '0' ≤ c := Char.le_trans (by decide) hc.1
    have h9 : c ≤ '9' := Char.le_trans hc.2 (by decide)
    exact .inl ⟨h0, h9⟩
  · exact hex h
  · exact dash h
  · rw [List.mem_singleton.1 h, List.contains_iff_mem] at hc
    simp only [List.mem_cons, List.not_mem_nil, or_false] at hc
    obtain rfl | rfl | rfl | rfl := hc <;> decide
  · exact hex h
  · exact dash h
  · exact hex h

/-- What fits a part without capital letters has none. -/
theorem Part.folded_of_fits {p : Part} {w : List Char} (hp : p.folded = true)
    (h : p.fits w = true) : w.all Sealed.folded = true := by
  have hparts {shape : List (Char → Bool)} {k : ℕ} {ext : List Char}
      (hshape : ∀ f ∈ shape, ∀ c, f c = true → Sealed.folded c = true)
      (hext : ext.all Sealed.folded = true)
      (h : (shapeMatches shape (w.take k) && w.drop k = ext) = true) :
      w.all Sealed.folded = true := by
    rw [Bool.and_eq_true, decide_eq_true_eq] at h
    rw [← List.take_append_drop k w, List.all_append, Bool.and_eq_true, h.2]
    exact ⟨shapeMatches_all hshape h.1, hext⟩
  cases p with
  | names ns =>
    obtain ⟨n, hn, hw⟩ := List.any_eq_true.1 h
    rw [decide_eq_true_eq] at hw
    subst hw
    exact List.all_eq_true.1 hp n hn
  | hex ext =>
    exact hparts (fun f hf c hc => folded_of_isHexDigit (by
      rw [(List.mem_replicate.1 hf).2] at hc
      exact hc)) hp h
  | uuid ext => exact hparts uuidShape_folded hp h

theorem folded_of_partsFit {ps : List Part} {ws : List (List Char)}
    (hps : ∀ p ∈ ps, p.folded = true) (h : partsFit ps ws = true) :
    ∀ w ∈ ws, w.all folded = true := by
  induction ps generalizing ws with
  | nil =>
    cases ws with
    | nil => exact fun w hw => absurd hw List.not_mem_nil
    | cons w ws => cases h
  | cons p ps ih =>
    cases ws with
    | nil => cases h
    | cons w ws =>
      rw [partsFit, Bool.and_eq_true] at h
      intro v hv
      obtain rfl | hv := List.mem_cons.1 hv
      · exact Part.folded_of_fits (hps p List.mem_cons_self) h.1
      · exact ih (fun q hq => hps q (List.mem_cons_of_mem _ hq)) h.2 v hv

/-- The one allowed path with capital letters. -/
def current_path : String := "anchor/memory/refs/CURRENT"

/-- The components of a path determine it. -/
theorem components_injective {s t : List Char} (h : components s = components t) : s = t := by
  have hne (u : List Char) : components u ≠ [] := by
    cases u with
    | nil => simp [components]
    | cons c u =>
      rw [components]
      split_ifs
      · simp
      · cases components u <;> simp
  induction s generalizing t with
  | nil =>
    cases t with
    | nil => rfl
    | cons c t =>
      rw [components, components] at h
      split_ifs at h
      · rw [List.cons.injEq] at h
        exact absurd h.2.symm (hne t)
      · cases ht : components t with
        | nil => exact absurd ht (hne t)
        | cons w ws =>
          rw [ht] at h
          cases h
  | cons b s ih =>
    cases t with
    | nil =>
      rw [components, components] at h
      split_ifs at h
      · rw [List.cons.injEq] at h
        exact absurd h.2 (hne s)
      · cases hs : components s with
        | nil => exact absurd hs (hne s)
        | cons w ws =>
          rw [hs] at h
          cases h
    | cons c t =>
      rw [components, components] at h
      cases hs : components s with
      | nil => exact absurd hs (hne s)
      | cons w ws =>
        cases ht : components t with
        | nil => exact absurd ht (hne t)
        | cons v vs =>
          rw [hs, ht] at h
          split_ifs at h with hb hc hc
          · rw [List.cons.injEq] at h
            rw [hb, hc, ih (hs.trans (h.2.trans ht.symm))]
          · simp at h
          · simp at h
          · simp only [List.cons.injEq] at h
            have hcomp : components s = components t := by
              rw [hs, ht, h.1.2, h.2]
            rw [h.1.1, ih hcomp]

/-- An allowed path has no capital letters, unless it is that of CURRENT. -/
theorem folded_of_allowed {path : String} (h : allowed path = true) :
    path = current_path ∨ path.toList.all folded = true := by
  obtain ⟨ps, hps, hfit⟩ := List.any_eq_true.1 h
  have htable : ∀ ps ∈ PATTERNS, ps = [.names ["anchor"], .names ["memory"], .names ["refs"],
      .names ["CURRENT"]] ∨ ∀ p ∈ ps, p.folded = true := by decide +kernel
  obtain rfl | hfold := htable ps hps
  · left
    have hcomp : components path.toList = components current_path.toList := by
      rw [show components current_path.toList = ["anchor".toList, "memory".toList, "refs".toList,
        "CURRENT".toList] by decide +kernel]
      cases hw : components path.toList with
      | nil => rw [hw] at hfit; cases hfit
      | cons w1 ws =>
      cases ws with
      | nil => rw [hw] at hfit; simp [partsFit] at hfit
      | cons w2 ws =>
      cases ws with
      | nil => rw [hw] at hfit; simp [partsFit] at hfit
      | cons w3 ws =>
      cases ws with
      | nil => rw [hw] at hfit; simp [partsFit] at hfit
      | cons w4 ws =>
      cases ws with
      | cons w5 ws => rw [hw] at hfit; simp [partsFit] at hfit
      | nil =>
        rw [hw] at hfit
        simp only [partsFit, Part.fits, List.any_cons, List.any_nil, Bool.or_false,
          Bool.and_true, Bool.and_eq_true, decide_eq_true_eq] at hfit
        rw [hfit.1, hfit.2.1, hfit.2.2.1, hfit.2.2.2]
    exact String.toList_inj.1 (components_injective hcomp)
  · right
    rw [List.all_eq_true]
    intro c hc
    obtain rfl | ⟨w, hw, hcw⟩ := mem_components hc
    · decide
    · exact List.all_eq_true.1 (folded_of_partsFit hfold hfit w hw) c hcw

/-- `str.casefold` of an ASCII text. -/
def lower (path : String) : String := String.ofList (path.toList.map Char.toLower)

theorem ascii_of_allowed {path : String} (h : allowed path = true) :
    ∀ c ∈ path.toList, c.toNat < 128 := by
  obtain rfl | hf := folded_of_allowed h
  · have hall : current_path.toList.all (fun c => decide (c.toNat < 128)) = true := by decide +kernel
    exact fun c hc => of_decide_eq_true (List.all_eq_true.1 hall c hc)
  · intro c hc
    have hcf := List.all_eq_true.1 hf c hc
    rw [folded, Bool.and_eq_true, decide_eq_true_eq] at hcf
    exact hcf.1

theorem lower_of_folded {path : String} (h : path.toList.all folded = true) : lower path = path := by
  have hmap : path.toList.map Char.toLower = path.toList := by
    refine (List.map_congr_left fun c hc => ?_).trans (List.map_id _)
    have hcf := List.all_eq_true.1 h c hc
    rw [folded, Bool.and_eq_true, decide_eq_true_eq, decide_eq_true_eq] at hcf
    exact hcf.2
  rw [lower, hmap, String.ofList_toList]

/-- No two allowed paths differ only in case. -/
theorem casefold_injective {p q : String} (hp : allowed p = true) (hq : allowed q = true)
    (h : lower p = lower q) : p = q := by
  have hcurrent : allowed (lower current_path) = false := by decide +kernel
  obtain rfl | hpf := folded_of_allowed hp
  · obtain rfl | hqf := folded_of_allowed hq
    · rfl
    · rw [h, lower_of_folded hqf, hq] at hcurrent
      cases hcurrent
  · obtain rfl | hqf := folded_of_allowed hq
    · rw [← h, lower_of_folded hpf, hp] at hcurrent
      cases hcurrent
    · rw [← lower_of_folded hpf, ← lower_of_folded hqf, h]

end AnKla.Sealed
