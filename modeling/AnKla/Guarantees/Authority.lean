import AnKla.Policy.Proposals

/-!
# What a record can say for itself

The decision on a proposal is made of its frame and of the authority. What the record
holds goes into the reasons, never into the decision.

* `ladder`: the decision, read off without the record.
* `evaluate_write_decision`: the policy decides by the ladder, for one record and for a
  batch.
* `KeepsAuthority`, `keeps_authority`: no record raises its own authority.
-/

namespace AnKla

open PyJson

variable (H : Crypto)

/-! ## Authorities -/

/-- An authority, bound to a proposal. -/
def rebind (authority proposal : Json) : Json :=
  authority.set "proposal_sha256" (H.json_ident proposal)

theorem twin_authority_eq (twin authority : Json) :
    twin_authority H twin authority = rebind H authority twin := rfl

variable {H}

theorem is_digest_json_ident (v : Json) : is_digest (H.json_ident v) = true := by
  rw [Crypto.json_ident, is_digest, bare_digest_ident]
  rfl

theorem require_exact_keys_congr {v w : Json} (h : v.keys = w.keys) (required optional : List String)
    (code detail : String) : require_exact_keys v required optional code detail =
      require_exact_keys w required optional code detail := by
  rw [require_exact_keys, require_exact_keys, h]

theorem item_rebind_ne {k : String} (hk : k ≠ "proposal_sha256") (a p : Json) :
    item (rebind H a p) k = item a k := item_set_ne hk _ _

/-- Whether an authority is valid does not depend on the digest it is bound to. -/
theorem validate_write_authority_set (a : Json) {s t : String} (hs : is_digest (.str s) = true)
    (ht : is_digest (.str t) = true) :
    validate_write_authority (a.set "proposal_sha256" (.str s)) =
      validate_write_authority (a.set "proposal_sha256" (.str t)) := by
  cases a with
  | obj kvs =>
    have hkeys := keys_set (.obj kvs) "proposal_sha256" (.str s) (.str t)
    have hobj (v : Json) : ((Json.obj kvs).set "proposal_sha256" v).isObj = true := rfl
    have hitem (v : Json) : item ((Json.obj kvs).set "proposal_sha256" v) "proposal_sha256" = v :=
      item_set rfl _ _
    simp only [validate_write_authority, hobj, hitem, hs, ht, item_set_ne, ne_eq, String.reduceEq,
      not_false_eq_true, require_exact_keys_congr hkeys, validate_json_value_set _ _ s t]
  | _ => rfl

theorem validate_write_authority_rebind (a p p' : Json) :
    validate_write_authority (rebind H a p) = validate_write_authority (rebind H a p') :=
  validate_write_authority_set a (is_digest_json_ident p) (is_digest_json_ident p')

/-- What a valid authority is, as far as decisions and plans rely on it. -/
structure ValidAuthority (a : Json) : Prop where
  obj : a.isObj = true
  keys : "proposal_sha256" ∈ a.keys
  digest : is_digest (item a "proposal_sha256") = true
  authority_class : one_of (item a "authority_class") authority_classes = true
  not_channel : item a "authority_class" ≠ .str "channel_confirmed"
  limits : WithinLimits a

theorem validate_write_authority_ok {a : Json} {u : Unit}
    (h : validate_write_authority a = .ok u) : ValidAuthority a := by
  cases hkinds : evidence_kinds (item a "schema") with
  | none =>
    simp only [validate_write_authority, hkinds, bind_ok, reduceCtorEq, false_and, exists_false,
      and_false] at h
  | some kinds =>
    simp only [validate_write_authority, hkinds, bind_ok, ensure_ok, exists_const,
      require_exact_keys_ok, pure_ok, exists_eq_left', decide_eq_true_eq,
      Bool.and_eq_true, validate_json_value_iff] at h
    obtain ⟨obj, ⟨hkeys, -⟩, ⟨digest, -⟩, authority_class, -, -, -, -, -, -, not_channel, -, -, -, -, -, -,
      -, -, -, -, -, limits⟩ := h
    exact { obj, digest, authority_class, not_channel, limits
            keys := hkeys _ (by simp) }

/-- A valid authority that is bound to another proposal is valid. -/
theorem validate_rebind_of_valid {a : Json} (h : validate_write_authority a = .ok ()) (p : Json) :
    validate_write_authority (rebind H a p) = .ok () := by
  have ha := validate_write_authority_ok h
  have hdigest := ha.digest
  have hself := set_item_self ha.limits.wf ha.keys
  cases hv : item a "proposal_sha256" with
  | str s =>
    rw [hv] at hdigest hself
    rw [rebind, Crypto.json_ident, validate_write_authority_set a (is_digest_json_ident p) hdigest,
      hself]
    exact h
  | _ => rw [hv] at hdigest; cases hdigest

/-! ## The ladder -/

/-- The decision on a proposal whose authority is bound to it, without a look at its
    records. -/
def ladder (proposal authority : Json) : String :=
  let scope := item authority "scope"
  let authority_class := item authority "authority_class"
  let operation := item proposal "operation"
  let representation := item proposal "requested_representation"
  if item authority "base_revision" ≠ item proposal "base_revision" ∨
      item proposal "stream" ∉ elems (item scope "streams") ∨
      representation ∉ elems (item scope "representations") ∨
      operation ∉ elems (item scope "operations") ∨
      one_of operation ["add", "supersede"] = false ∨
      authority_class = .str "unresolved" ∨ authority_class = .str "channel_confirmed" then "skip"
  else if authority_class = .str "tool_observed" then
    if (elems (item authority "evidence")).any fun e => item e "resolution" = .str "verified" then
      if representation = .str "full" then "write-full" else "write-summary"
    else "skip"
  else if (authority_class = .str "derived_from_retrieval" ∧ operation = .str "supersede") ∨
      representation = .str "full" then "skip"
  else "write-summary"

/-- The policy decides by the ladder on a proposal of one record. -/
theorem decide_single_fst (p a : Json) : (decide_single H p a).1 =
    if item a "proposal_sha256" = H.json_ident p then ladder p a else "skip" := by
  simp only [decide_single, ladder, apply_ite Prod.fst]
  split_ifs <;> first | rfl | simp_all

/-- The ladder looks at nothing that a twin changes. -/
theorem ladder_twin (p a : Json) : ladder (twin_v1 p) (rebind H a (twin_v1 p)) = ladder p a := by
  simp only [ladder, item_rebind_ne, ne_eq, String.reduceEq, not_false_eq_true,
    item_twin_frame p (k := "base_revision") (by simp), item_twin_frame p (k := "stream") (by simp),
    item_twin_frame p (k := "operation") (by simp),
    item_twin_frame p (k := "requested_representation") (by simp)]

/-! ## Decisions -/

theorem item_decision_object (x y : Json) (decision : String) (reasons : List String) :
    item (decision_object H x y decision reasons) "decision" = .str decision :=
  item_dict (by simp) (by simp)

theorem evaluate_single_eq {p : Json} (hp : SingleProposal p) (a : Json) :
    evaluate_single H p a = (validate_write_authority a).map fun _ =>
      decision_object H (H.json_ident p) (H.json_ident a) (decide_single H p a).1
        (decide_single H p a).2 := by
  rw [evaluate_single, (validate_single_proposal_ok (u := ())).2 hp]
  cases validate_write_authority a <;> rfl

/-- A valid proposal is decided by the ladder if the authority is bound to it, and skipped
    if not. -/
theorem evaluate_write_decision {p : Json} (hp : validate_write_proposal p = .ok ()) (a : Json) :
    (evaluate_write H p a).map (item · "decision") = (validate_write_authority a).map fun _ =>
      .str (if item a "proposal_sha256" = H.json_ident p then ladder p a else "skip") := by
  rw [validate_write_proposal] at hp
  rw [evaluate_write]
  split_ifs at hp with hb
  · rw [if_pos hb, evaluate_batch, hp]
    have hbatch := validate_batch_proposal_ok hp
    cases ha : validate_write_authority a with
    | error e => rfl
    | ok u =>
      have htwin : (decide_single H (twin_v1 p) (rebind H a (twin_v1 p))).1 = ladder p a := by
        have hbound : item (rebind H a (twin_v1 p)) "proposal_sha256" = H.json_ident (twin_v1 p) :=
          item_set (validate_write_authority_ok ha).obj _ _
        rw [decide_single_fst, if_pos hbound, ladder_twin]
      have heval : evaluate_single H (twin_v1 p) (twin_authority H (twin_v1 p) a) =
          .ok (decision_object H (H.json_ident (twin_v1 p)) (H.json_ident (rebind H a (twin_v1 p)))
            (ladder p a) (decide_single H (twin_v1 p) (rebind H a (twin_v1 p))).2) := by
        rw [twin_authority_eq, evaluate_single_eq (single_of_twin hbatch),
          validate_rebind_of_valid ha, ← htwin]
        rfl
      simp only [bind, Except.bind, Except.map, heval, item_decision_object, py_str]
      by_cases hsha : item a "proposal_sha256" = H.json_ident p
      · by_cases hbase : item a "base_revision" = item p "base_revision"
        · rw [if_neg (by simp [hsha, hbase]), if_pos hsha]
          simp only [pure, Except.pure, item_decision_object]
        · have hskip : ladder p a = "skip" := if_pos (.inl hbase)
          rw [if_pos (.inr hbase), if_pos hsha, hskip]
          simp only [pure, Except.pure, item_decision_object]
      · rw [if_pos (.inl hsha), if_neg hsha]
        simp only [pure, Except.pure, item_decision_object]
  · rw [if_neg hb, evaluate_single_eq (validate_single_proposal_ok.1 hp)]
    cases validate_write_authority a with
    | error e => rfl
    | ok u => simp only [Except.map, item_decision_object, decide_single_fst]

/-- The ladder does not look at what an authority is bound to. -/
theorem ladder_rebind (p a q : Json) : ladder p (rebind H a q) = ladder p a := by
  simp only [ladder, item_rebind_ne, ne_eq, String.reduceEq, not_false_eq_true]

/-- A valid proposal is decided by the ladder under a valid authority, once bound to it. -/
theorem evaluate_rebind {p a : Json} (hp : validate_write_proposal p = .ok ())
    (ha : validate_write_authority a = .ok ()) :
    ∃ x, evaluate_write H p (rebind H a p) = .ok x ∧ item x "decision" = .str (ladder p a) := by
  have heq := evaluate_write_decision (H := H) hp (rebind H a p)
  have hbound : item (rebind H a p) "proposal_sha256" = H.json_ident p :=
    item_set (validate_write_authority_ok ha).obj _ _
  rw [validate_rebind_of_valid ha, if_pos hbound, ladder_rebind] at heq
  exact map_ok.1 heq

theorem proposal_of_evaluate {p a d : Json} (h : evaluate_write H p a = .ok d) :
    validate_write_proposal p = .ok () ∧ validate_write_authority a = .ok () := by
  rw [evaluate_write] at h
  rw [validate_write_proposal]
  split_ifs at h ⊢
  · rw [evaluate_batch] at h
    obtain ⟨⟨⟩, hp, h⟩ := bind_ok.1 h
    obtain ⟨⟨⟩, ha, -⟩ := bind_ok.1 h
    exact ⟨hp, ha⟩
  · rw [evaluate_single] at h
    obtain ⟨⟨⟩, hp, h⟩ := bind_ok.1 h
    obtain ⟨⟨⟩, ha, -⟩ := bind_ok.1 h
    exact ⟨hp, ha⟩

/-- What the policy decided, if it decided at all. -/
theorem decision_of_evaluate {p a d : Json} (h : evaluate_write H p a = .ok d) :
    item d "decision" =
      .str (if item a "proposal_sha256" = H.json_ident p then ladder p a else "skip") := by
  obtain ⟨hp, ha⟩ := proposal_of_evaluate h
  have heq := evaluate_write_decision (H := H) hp a
  rw [h, ha] at heq
  exact Except.ok.inj heq

/-- The decision of a plan is the one of the policy. -/
theorem decision_of_plan {p a plan : Json} {decision : Option Json}
    (h : build_write_plan H p a decision = .ok plan) :
    ∃ d, evaluate_write H p a = .ok d ∧ item (item plan "core") "decision" = item d "decision" := by
  have hcore (d : Json) (records : List Json) :
      item (item (plan_object H p d records) "core") "decision" = item d "decision" := by
    rw [plan_object, item_dict (k := "core") (by simp) (List.mem_cons_of_mem _ List.mem_cons_self)]
    exact item_dict (by simp) (by simp)
  rw [build_write_plan] at h
  split_ifs at h
  · rw [build_batch_plan] at h
    obtain ⟨d, hd, h⟩ := bind_ok.1 h
    split_ifs at h
    · obtain rfl := pure_ok.1 h
      exact ⟨d, hd, hcore _ _⟩
    · obtain ⟨_, -, h⟩ := bind_ok.1 h
      obtain ⟨_, -, h⟩ := bind_ok.1 h
      obtain rfl := pure_ok.1 h
      exact ⟨d, hd, hcore _ _⟩
  · rw [build_single_plan] at h
    obtain ⟨checked, hc, h⟩ := bind_ok.1 h
    obtain rfl := pure_ok.1 h
    rw [verified_decision] at hc
    obtain ⟨d, hd, hc⟩ := bind_ok.1 hc
    refine ⟨d, hd, ?_⟩
    rw [hcore]
    cases decision with
    | none => rw [pure_ok.1 hc]
    | some x =>
      simp only [bind_ok, ensure_ok, exists_const, decide_eq_true_eq, pure_ok] at hc
      obtain ⟨-, -, -, -, heq, rfl⟩ := hc
      rw [heq]

/-! ## Authority -/

/-- Two proposals that agree on everything but their records. -/
def SameButRecords (p p' : Json) : Prop :=
  ∀ k, k ≠ "record" → k ≠ "records" → p.get? k = p'.get? k

variable (H) in
/-- No record raises its own authority. -/
structure KeepsAuthority : Prop where
  /-- Proposals that differ in their records alone get one decision. -/
  blind : ∀ p p' a, validate_write_proposal p = .ok () → validate_write_proposal p' = .ok () →
    SameButRecords p p' → (evaluate_write H p (rebind H a p)).map (item · "decision") =
      (evaluate_write H p' (rebind H a p')).map (item · "decision")
  /-- A full record needs a tool and verified evidence. -/
  full : ∀ p a d, evaluate_write H p a = .ok d → item d "decision" = .str "write-full" →
    item a "authority_class" = .str "tool_observed" ∧
      ∃ e ∈ elems (item a "evidence"), item e "resolution" = .str "verified"
  /-- A confirmed channel is refused. -/
  channel : ∀ p a, item a "authority_class" = .str "channel_confirmed" →
    ∃ e, evaluate_write H p a = .error e
  /-- What is derived is never written in full. -/
  derived : ∀ p a d, evaluate_write H p a = .ok d →
    item a "authority_class" = .str "model_derived" ∨
      item a "authority_class" = .str "derived_from_retrieval" →
    item d "decision" = .str "skip" ∨ item d "decision" = .str "write-summary"
  /-- What is derived from retrieval supersedes nothing. -/
  retrieval : ∀ p a d, evaluate_write H p a = .ok d →
    item a "authority_class" = .str "derived_from_retrieval" →
    item p "operation" = .str "supersede" → item d "decision" = .str "skip"
  /-- A plan carries the decision of the policy. -/
  plan : ∀ p a decision plan, build_write_plan H p a decision = .ok plan →
    ∃ d, evaluate_write H p a = .ok d ∧ item (item plan "core") "decision" = item d "decision"

theorem ladder_congr {p p' : Json} (h : SameButRecords p p') (a : Json) :
    ladder p (rebind H a p) = ladder p' (rebind H a p') := by
  have hitem {k : String} (h1 : k ≠ "record") (h2 : k ≠ "records") : item p k = item p' k := by
    rw [item, item, h k h1 h2]
  simp only [ladder, item_rebind_ne, ne_eq, String.reduceEq, not_false_eq_true,
    hitem (k := "base_revision") (by simp) (by simp), hitem (k := "stream") (by simp) (by simp),
    hitem (k := "operation") (by simp) (by simp),
    hitem (k := "requested_representation") (by simp) (by simp)]

theorem ladder_full {p a : Json} (h : ladder p a = "write-full") :
    item a "authority_class" = .str "tool_observed" ∧
      ∃ e ∈ elems (item a "evidence"), item e "resolution" = .str "verified" := by
  rw [ladder] at h
  split at h
  · simp at h
  · split at h
    · next htool =>
      split at h
      · next hverified =>
        obtain ⟨e, he, hv⟩ := List.any_eq_true.1 hverified
        exact ⟨htool, e, he, of_decide_eq_true hv⟩
      · simp at h
    · split at h <;> simp at h

theorem ladder_cases (p a : Json) :
    ladder p a = "skip" ∨ ladder p a = "write-summary" ∨ ladder p a = "write-full" := by
  rw [ladder]
  split_ifs <;> simp

theorem ladder_retrieval {p a : Json}
    (hc : item a "authority_class" = .str "derived_from_retrieval")
    (ho : item p "operation" = .str "supersede") : ladder p a = "skip" := by
  rw [ladder]
  split_ifs with h1 h2 h3 h4 h5 <;> simp_all

/-- The policy keeps the authority of records apart from what they hold. -/
theorem keeps_authority : KeepsAuthority H where
  blind p p' a hp hp' hsame := by
    rw [evaluate_write_decision hp, evaluate_write_decision hp',
      validate_write_authority_rebind a p p']
    cases ha : validate_write_authority (rebind H a p') with
    | error e => rfl
    | ok u =>
      have hobj : a.isObj = true := by
        rw [← isObj_set a "proposal_sha256"]
        exact (validate_write_authority_ok ha).obj
      have hbound (q : Json) : item (rebind H a q) "proposal_sha256" = H.json_ident q :=
        item_set hobj _ _
      simp only [Except.map, hbound, if_true, ladder_congr hsame]
  full p a d h hfull := by
    rw [decision_of_evaluate h] at hfull
    split_ifs at hfull
    · exact ladder_full (Json.str.inj hfull)
    · simp at hfull
  channel p a hchannel := by
    cases h : evaluate_write H p a with
    | error e => exact ⟨e, rfl⟩
    | ok d =>
      exact absurd hchannel (validate_write_authority_ok (proposal_of_evaluate h).2).not_channel
  derived p a d h hclass := by
    rw [decision_of_evaluate h]
    split_ifs
    · obtain hl | hl | hl := ladder_cases p a
      · exact .inl (congrArg _ hl)
      · exact .inr (congrArg _ hl)
      · have htool := (ladder_full hl).1
        rw [htool] at hclass
        simp at hclass
    · exact .inl rfl
  retrieval p a d h hclass hop := by
    rw [decision_of_evaluate h]
    split_ifs
    · rw [ladder_retrieval hclass hop]
    · rfl
  plan p a decision plan h := decision_of_plan h

end AnKla
