import AnKla.Revisions.Lineage
import AnKla.Transactions.Policies

/-!
# The evidence of a candidate

What the writer of a candidate leaves is what the reader of the chain asks for.

* `Refutes`: what a request to refute holds.
* `Published`: a candidate on a disk, with its parent, its stage and its intent.
* `Published.required_files`: the files it needs are those its receipt protects.
* `Published.transition`: it may follow its parent.
-/

namespace AnKla

open PyJson Durable

variable (H : Crypto)

/-! ## Refutations -/

/-- What a request to refute holds. -/
structure Refutes (c : CommitRequest) (o : RefuteObjects) : Prop where
  operation : c.attempt.operation = .refute
  target_revision : item o.refutation "target_revision" = .str (ident c.observed)
  stream : ∃ s : Stream, item o.refutation "stream" = .str s.name
  keys : refutation_keys.all (o.refutation.keys.contains ·) = true
  plan : item o.refutation "plan_fingerprint" = .str (ident c.attempt.fingerprint)
  policy : c.policy = some (.refute_policy (refute_metadata o.refutation (H.digest_json o.refutation)))

variable {H}

theorem mem_of_one_of_streams {v : Json} (h : one_of v refute_streams = true) :
    ∃ s : Stream, v = .str s.name := by
  cases v with
  | str s =>
    rw [one_of, List.contains_iff_mem] at h
    simp only [refute_streams, List.mem_cons, List.not_mem_nil, or_false] at h
    obtain rfl | rfl | rfl := h
    · exact ⟨.facts, rfl⟩
    · exact ⟨.events, rfl⟩
    · exact ⟨.episodes, rfl⟩
  | _ => cases h

theorem Requests.refutes {d d₀ : Disk} {g : Governed} {c : CommitRequest} {o : RefuteObjects}
    (h : Requests H d g d₀ c) (ho : c.refute_objects = some o) : Refutes H c o := by
  cases h with
  | write current checked writes request =>
    rw [(write_request_fields request).2.2.2.2.1] at ho
    cases ho
  | replay current advanced request =>
    rw [replay_request] at request
    obtain ⟨_, -, request⟩ := bind_ok.1 request
    obtain ⟨_, -, request⟩ := bind_ok.1 request
    obtain ⟨_, -, request⟩ := bind_ok.1 request
    obtain ⟨_, -, request⟩ := bind_ok.1 request
    obtain ⟨_, -, request⟩ := bind_ok.1 request
    obtain rfl := pure_ok.1 request
    cases ho
  | checkpoint prepared request =>
    obtain ⟨-, s, rfl, -⟩ := checkpoint_lock prepared request
    cases ho
  | @refute r binding a _ prepared request =>
    obtain ⟨ha, -, s, -, hr⟩ := refute_lock prepared request
    obtain ⟨t, f, -, hf, rfl⟩ := refute_attempt ha
    obtain ⟨hobs, hat, -, -, -, attestation, -, hpol, hobj⟩ := refute_request_fields hr
    obtain rfl := Option.some.inj (hobj.symm.trans ho)
    have hop : c.attempt.operation = .refute := by rw [hat]; rfl
    have hstream : one_of (item r.proposal "stream") refute_streams = true := by
      rw [RefuteCall.request] at hr
      obtain ⟨_, hplan, -⟩ := bind_ok.1 hr
      rw [RefuteCall.planning] at hplan
      obtain ⟨_, -, hplan⟩ := bind_ok.1 hplan
      obtain ⟨_, -, hplan⟩ := bind_ok.1 hplan
      obtain ⟨_, hprop, -⟩ := bind_ok.1 hplan
      rw [validate_refute_proposal] at hprop
      obtain ⟨_, -, hprop⟩ := bind_ok.1 hprop
      obtain ⟨_, hprop, -⟩ := bind_ok.1 hprop
      rw [ensure_ok, Bool.and_eq_true] at hprop
      exact hprop.2
    obtain ⟨h1, h2, -, -, -, -, -, -, -, -, h3, -⟩ := by
      simpa only [List.forall_mem_cons] using r.item_refutation (H := H) attestation
    refine ⟨hop, ?_, ?_, ?_, ?_, ?_⟩
    · rw [h1, hobs]
    · rw [h2]
      exact mem_of_one_of_streams hstream
    · simp [refutation_keys, RefuteCall.refutation, mem_keys_dict]
    · rw [h3, digest_of_eq.1 hf, hat]
      rfl
    · rw [CommitRequest.policy, hpol, hop, r.metadata_eq]
      rfl

variable (H) in
/-- Every entry of the map names the stream and the target of its refutation. -/
def Bound (m : Manifest) : Prop :=
  ∀ e ∈ m.refutations, ∃ v, H.digest_json v = e.refutation_id ∧
    Stream.ofName (py_str (item v "stream")) = some e.stream ∧
    digest_of (item v "target_record_sha256") = some e.target_record_sha256

variable (H) in
/-- A request that refutes if and only if it is a refutation. -/
structure Fitting (c : CommitRequest) : Prop where
  governed : c.attempt.operation.governed = true
  refutes : ∀ o, c.refute_objects = some o → Refutes H c o
  plain : c.refute_objects = none → c.attempt.operation ≠ .refute

/-- A request that a commit was prepared for fits. -/
theorem Requests.fitting {d d₀ : Disk} {g : Governed} {c : CommitRequest} {base : Snapshot}
    {m : Manifest} (h : Requests H d g d₀ c) (hc : read_current d = .ok c.observed)
    (hp : Prepared H c d₀ base) (hm : c.manifest H base = .ok m) : Fitting H c where
  governed := (h.policy hc hm).1
  refutes _ ho := h.refutes ho
  plain hn hop := by
    have hsome := (hp.refutes hop).2
    rw [hn] at hsome
    cases hsome

variable {c : CommitRequest} {base : Snapshot} {entry : List RefutationEntry} {m : Manifest}

/-- The entries that a request adds: none, or that of its refutation. -/
theorem Child.entry_cases (h : Child H c base entry m) (hf : Fitting H c) :
    (c.refute_objects = none ∧ entry = [] ∧ c.attempt.operation ≠ .refute) ∨
      ∃ o e, c.refute_objects = some o ∧ entry = [e] ∧ Refutes H c o ∧
        e.refutation_id = H.digest_json o.refutation ∧
        Stream.ofName (py_str (item o.refutation "stream")) = some e.stream ∧
        digest_of (item o.refutation "target_record_sha256") = some e.target_record_sha256 ∧
        item o.refutation "authority_claim_sha256" = H.json_ident o.authority_claim ∧
        item o.refutation "authority_attestation_id" = H.json_ident o.authority_attestation := by
  cases ho : c.refute_objects with
  | none =>
    refine .inl ⟨rfl, ?_, hf.plain ho⟩
    have hadd := h.added
    rw [CommitRequest.refutation_entry, ho] at hadd
    exact (Except.ok.inj hadd).symm
  | some o =>
    obtain ⟨stream, target, hs, ht, rfl, h1, h2⟩ := refutation_entry_ok ho h.added
    exact .inr ⟨o, _, rfl, rfl, hf.refutes o ho, rfl, hs, ht, h1, h2⟩

theorem refutations_of_v1 {m : Manifest} (hv : m.Valid) (hs : m.schema = .v1) :
    m.refutations = [] := by
  have hshape := hv.shape
  rw [manifest_shape_ok, hs] at hshape
  simp only [Bool.and_eq_true, Option.isNone_iff_eq_none] at hshape
  rw [Manifest.refutations, hshape.1.2]
  rfl

/-- The map of the candidate is that of its base with the new entries. -/
theorem Child.refutations_eq (h : Child H c base entry m) (hf : Fitting H c)
    (hb : base.manifest.Valid) : m.refutations = base.manifest.refutations ++ entry := by
  by_cases hs : m.schema = .v1
  · have hsch := h.schema
    rw [hs] at hsch
    have hbase : base.manifest.schema = .v1 ∧ c.attempt.operation ≠ .refute := by
      split_ifs at hsch with h3 h2
      rw [not_or] at h2
      refine ⟨?_, h2.2⟩
      cases hbs : base.manifest.schema with
      | v1 => rfl
      | v2 => exact absurd hbs h2.1
      | v3 => exact absurd hbs h3
    obtain ⟨-, rfl, -⟩ | ⟨o, e, -, -, hr, -⟩ := h.entry_cases hf
    · rw [refutations_of_v1 h.valid hs, refutations_of_v1 hb hbase.1, List.append_nil]
    · exact absurd hr.operation hbase.2
  · exact h.refutations hs

/-- What the candidate adds to the map of its base, as the reader finds it. -/
theorem Child.new_refutations_eq (h : Child H c base entry m) (hf : Fitting H c)
    (hv : base.manifest.Valid) (hb : Bound H base.manifest) :
    new_refutations m (some base.manifest) = entry := by
  rw [new_refutations, h.refutations_eq hf hv, List.filter_append]
  have hold : (base.manifest.refutations.filter fun e =>
      decide (e.refutation_id ∉ base.manifest.refutations.map (·.refutation_id))) = [] := by
    rw [List.filter_eq_nil_iff]
    intro e he
    simpa using ⟨e, he, rfl⟩
  have hnew : (entry.filter fun e =>
      decide (e.refutation_id ∉ base.manifest.refutations.map (·.refutation_id))) = entry := by
    rw [List.filter_eq_self]
    intro e he
    rw [decide_eq_true_eq]
    intro hmem
    -- an entry with the same refutation would have the same stream and target
    obtain ⟨e', he', hid⟩ := List.mem_map.1 hmem
    obtain ⟨-, rfl, -⟩ | ⟨o, e₀, -, rfl, -, hid₀, hs, ht, -⟩ := h.entry_cases hf
    · exact absurd he List.not_mem_nil
    · obtain rfl := List.mem_singleton.1 he
      obtain ⟨v, hv', hs', ht'⟩ := hb e' he'
      obtain rfl := Crypto.digest_json_inj (hv'.trans (hid.trans hid₀))
      have hnd := h.valid.refutations
      rw [h.refutations_eq hf hv, List.map_append, List.nodup_append] at hnd
      refine hnd.2.2 _ (List.mem_map_of_mem he') _ (List.mem_map_of_mem he) ?_
      rw [Option.some.inj (hs'.symm.trans hs), Option.some.inj (ht'.symm.trans ht)]
  rw [hold, hnew, List.nil_append]

/-- The entries of the candidate name their streams and targets. -/
theorem Child.bound (h : Child H c base entry m) (hf : Fitting H c) (hv : base.manifest.Valid)
    (hb : Bound H base.manifest) : Bound H m := by
  intro e he
  rw [h.refutations_eq hf hv, List.mem_append] at he
  obtain he | he := he
  · exact hb e he
  · obtain ⟨-, rfl, -⟩ | ⟨o, e₀, -, rfl, -, hid, hs, ht, -⟩ := h.entry_cases hf
    · exact absurd he List.not_mem_nil
    · obtain rfl := List.mem_singleton.1 he
      exact ⟨o.refutation, hid.symm, hs, ht⟩

/-- The segments that the candidate adds are those of its new rows. -/
theorem Child.new_segments_eq (h : Child H c base entry m) (s : Stream) :
    new_segments m (some base.manifest) s =
      if c.pending.get s = [] then [] else [segment_id H (c.pending.get s)] := by
  have hseg : m.segments.get s = base.manifest.segments.get s ++
      if c.pending.get s = [] then [] else [segment_id H (c.pending.get s)] := by
    rw [h.segments, CommitRequest.segment_ids, PerStream.get_ofFn]
  have hnd := h.valid.segments s
  rw [hseg, List.nodup_append] at hnd
  rw [new_segments, hseg, List.filter_append]
  have hold : ((base.manifest.segments.get s).filter fun id =>
      decide (id ∉ base.manifest.segments.get s)) = [] := by
    rw [List.filter_eq_nil_iff]
    intro id hid
    simpa using hid
  rw [hold, List.nil_append, List.filter_eq_self]
  intro id hid
  rw [decide_eq_true_eq]
  exact fun hmem => hnd.2.2 id hmem id hid rfl

/-! ## Candidates -/

variable (H) in
/-- A candidate on a disk, with its parent, its stage and its intent. -/
structure Published (c : CommitRequest) (base m : Manifest) (d : Disk) : Prop where
  manifest : read_manifest H d (CommitRequest.candidate H m) = .ok m
  parent : read_manifest H d c.observed = .ok base
  refutation : ∀ o, c.refute_objects = some o →
    read_refutation H d (H.digest_json o.refutation) = .ok o.refutation
  stage : read_stage H d c.txid (c.stage_id H m) = .ok (c.stage H m)
  stages : ∀ id s, read_stage H d c.txid id = .ok s →
    s.candidate = CommitRequest.candidate H m → s = c.stage H m
  named : named_stage d c.txid = some (c.stage_id H m)
  intent : read_ref_log H d (c.intent_id H m) = .ok (c.intent H m)

namespace Published

variable {c : CommitRequest} {base m : Manifest} {d : Disk}

/-- The stage of the candidate is the only one. -/
theorem stage_evidence (h : Published H c base m d) :
    AnKla.stage_evidence H d c.txid (CommitRequest.candidate H m) = some (c.stage H m) :=
  stage_evidence_of_unique h.stage rfl h.stages

theorem exact_stage (h : Published H c base m d) :
    exact_stage_path H d c.txid (CommitRequest.candidate H m) c.attempt = .ok (c.stage_id H m) := by
  rw [exact_stage_path, h.named]
  simp only [List.filter_cons, h.stage, List.filter_nil]
  simp [CommitRequest.stage]

theorem exact_intent (h : Published H c base m d) :
    exact_intent_path H d c.txid (CommitRequest.candidate H m) (some c.observed) =
      .ok (c.intent_id H m) := by
  have hone : (ref_logs.listing d).filter (is_intent H d c.txid (CommitRequest.candidate H m)
      (some c.observed)) = [c.intent_id H m] := by
    refine Dir.listing_filter_eq_singleton fun id => ?_
    rw [is_intent_iff]
    constructor
    · rintro ⟨⟨kind, t, parent, candidate⟩, hr, rfl, rfl, rfl, hp⟩
      obtain rfl := Option.some.inj hp
      exact (read_ref_log_iff.1 hr).2.symm
    · rintro rfl
      exact ⟨_, h.intent, rfl, rfl, rfl, rfl⟩
  rw [exact_intent_path_eq, hone]

variable {snap : Snapshot} {entry : List RefutationEntry}

/-- The files of the refutation of the candidate. -/
theorem refutation_files (h : Published H c snap.manifest m d) (hc : Child H c snap entry m)
    (hf : Fitting H c) : ∃ refs, entry.mapM (AnKla.refutation_files H d) = .ok refs ∧
      ∀ p, p ∈ refs.flatten ↔ p ∈ (c.refute_files H).map Prod.fst := by
  obtain ⟨ho, rfl, -⟩ | ⟨o, e, ho, rfl, -, hid, -, -, h1, h2⟩ := hc.entry_cases hf
  · refine ⟨[], rfl, fun p => ?_⟩
    rw [CommitRequest.refute_files, ho]
    rfl
  · have hread : AnKla.refutation_files H d e = .ok [.refutation e.refutation_id,
        .authority_claim (H.digest_json o.authority_claim),
        .authority_attestation (H.digest_json o.authority_attestation)] := by
      have hd (v : Json) : digest_of (H.json_ident v) = some (H.digest_json v) := digest_of_eq.2 rfl
      rw [AnKla.refutation_files, hid, h.refutation o ho]
      simp only [refutation_digest, h1, h2, hd, bind, Except.bind]
      rfl
    refine ⟨[[.refutation e.refutation_id, .authority_claim (H.digest_json o.authority_claim),
        .authority_attestation (H.digest_json o.authority_attestation)]],
      by rw [List.mapM_cons, hread]; rfl, fun p => ?_⟩
    rw [CommitRequest.refute_files, ho, hid]
    simp only [List.flatten_cons, List.flatten_nil, List.append_nil, List.map_cons, List.map_nil,
      List.mem_cons, List.not_mem_nil, or_false]
    tauto

/-- What the operation of the candidate needs. -/
theorem operation_files (h : Published H c snap.manifest m d) (hc : Child H c snap entry m)
    (hf : Fitting H c) (hv : snap.manifest.Valid) (hb : Bound H snap.manifest) :
    AnKla.operation_files H d c.txid m (some snap.manifest) (c.stage H m) c.attempt = .ok [] := by
  have hnew := hc.new_refutations_eq hf hv hb
  obtain ⟨ho, rfl, hop⟩ | ⟨o, e, ho, rfl, hr, hid, -⟩ := hc.entry_cases hf
  · have hpol : (c.stage H m).policy = c.policy_metadata.map .write_policy := by
      rw [CommitRequest.stage, CommitRequest.policy, if_neg hop]
    have hg := hf.governed
    rw [AnKla.operation_files.eq_def]
    cases hoc : c.attempt.operation with
    | refute => exact absurd hoc hop
    | write =>
      refine bind_ok.2 ⟨(), ensure_ok.2 ?_, rfl⟩
      rw [hnew, hpol]
      cases c.policy_metadata <;> rfl
    | checkpoint =>
      refine bind_ok.2 ⟨(), ensure_ok.2 ?_, rfl⟩
      rw [hnew, hpol]
      cases c.policy_metadata <;> rfl
    | init => rw [hoc] at hg; cases hg
    | compact => rw [hoc] at hg; cases hg
    | internal_commit => rw [hoc] at hg; cases hg
  · have hpol : (c.stage H m).policy =
        some (.refute_policy (refute_metadata o.refutation e.refutation_id)) := by
      rw [CommitRequest.stage, hr.policy, hid]
    rw [AnKla.operation_files.eq_def, hr.operation]
    simp only [hnew]
    refine bind_ok.2 ⟨o.refutation, hid ▸ h.refutation o ho, bind_ok.2 ⟨(), ensure_ok.2 hr.keys,
      bind_ok.2 ⟨(), ensure_ok.2 ?_, rfl⟩⟩⟩
    rw [hpol, hr.plan, hr.target_revision, hc.parent]
    simp [opt_ident]

/-- The files that the candidate needs are those that its receipt protects. -/
theorem required_files (h : Published H c snap.manifest m d) (hc : Child H c snap entry m)
    (hf : Fitting H c) (hv : snap.manifest.Valid) (hb : Bound H snap.manifest) :
    ∃ files, required_candidate_files H d c.txid (CommitRequest.candidate H m) c.attempt =
      .ok files ∧ ∀ p, p ∈ files ↔ p ∈ (c.candidate_files H m).map Prod.fst := by
  obtain ⟨refs, hrefs, hmem⟩ := h.refutation_files hc hf
  have hparent : read_parent H d m = .ok (some snap.manifest) := by
    rw [read_parent, hc.parent]
    simp only [h.parent]
    rfl
  have hintent : intent_files H d c.txid (CommitRequest.candidate H m) m c.attempt =
      .ok [.ref_log (c.intent_id H m)] := by
    have hg := hf.governed
    rw [intent_files, if_neg, if_neg, hc.parent, h.exact_intent]
    · rfl
    · intro hop
      rw [hop] at hg
      cases hg
    · intro hop
      rw [hop] at hg
      cases hg
  rw [required_candidate_files]
  refine ⟨_, bind_ok.2 ⟨m, h.manifest, bind_ok.2 ⟨_, hparent, bind_ok.2 ⟨refs, ?_, bind_ok.2
    ⟨_, h.exact_stage, bind_ok.2 ⟨_, h.stage, bind_ok.2 ⟨_, h.operation_files hc hf hv hb,
      bind_ok.2 ⟨_, hintent, rfl⟩⟩⟩⟩⟩⟩⟩, fun p => ?_⟩
  · rw [hc.new_refutations_eq hf hv hb]
    exact hrefs
  · have hseg : (p ∈ STREAMS.flatMap fun s =>
        (new_segments m (some snap.manifest) s).map (Path.segment s)) ↔
        p ∈ (c.new_rows.map fun x => ((.segment x.1 (segment_id H x.2), segment_id H x.2) :
          Path × Digest)).map Prod.fst := by
      rw [List.mem_flatMap, List.map_map, List.mem_map]
      constructor
      · rintro ⟨s, hs, hp⟩
        rw [hc.new_segments_eq] at hp
        split_ifs at hp with hne
        · exact absurd hp List.not_mem_nil
        · rw [List.map_singleton, List.mem_singleton] at hp
          refine ⟨(s, c.pending.get s), ?_, hp.symm⟩
          rw [CommitRequest.new_rows, List.mem_filter]
          exact ⟨List.mem_map.2 ⟨s, hs, rfl⟩, by simpa using hne⟩
      · rintro ⟨x, hx, rfl⟩
        rw [CommitRequest.new_rows, List.mem_filter] at hx
        obtain ⟨hx, hne⟩ := hx
        obtain ⟨s, hs, rfl⟩ := List.mem_map.1 hx
        refine ⟨s, hs, ?_⟩
        rw [hc.new_segments_eq, if_neg (by simpa using hne)]
        exact List.mem_singleton_self _
    rw [CommitRequest.candidate_files]
    simp only [List.mem_append, List.map_append, hseg, hmem, List.mem_cons, List.not_mem_nil,
      or_false, List.map_cons, List.map_nil]
    tauto

/-- The evidence of the candidate. -/
theorem stageOf (h : Published H c snap.manifest m d) (hc : Child H c snap entry m)
    (hf : Fitting H c) (hv : snap.manifest.Valid) (hb : Bound H snap.manifest) :
    StageOf H d (CommitRequest.candidate H m) m entry := by
  obtain ⟨files, hfiles, -⟩ := h.required_files hc hf hv hb
  refine ⟨c.txid, c.stage H m, by rw [hc.transaction_id]; rfl, h.stage_evidence, ?_, files, hfiles⟩
  obtain ⟨-, rfl, hop⟩ | ⟨o, e, -, rfl, hr, -⟩ := hc.entry_cases hf
  · exact iff_of_false hop (by simp)
  · exact iff_of_true hr.operation rfl

/-- The new entries are bound to the parent. -/
theorem entry_bound (h : Published H c snap.manifest m d) (hc : Child H c snap entry m)
    (hf : Fitting H c) : ∀ e ∈ entry, refutation_bound H d c.observed e = .ok true := by
  intro e he
  obtain ⟨-, rfl, -⟩ | ⟨o, e₀, ho, rfl, hr, hid, hs, ht, -⟩ := hc.entry_cases hf
  · exact absurd he List.not_mem_nil
  · obtain rfl := List.mem_singleton.1 he
    obtain ⟨stream, hstream⟩ := hr.stream
    rw [hstream, py_str, Stream.ofName_name] at hs
    refine bind_ok.2 ⟨o.refutation, hid ▸ h.refutation o ho, ?_⟩
    rw [hr.target_revision, hstream, digest_of_eq.1 ht, Option.some.inj hs]
    simp [pure, Except.pure]

/-- The refutations that the reader finds added are the new entries. -/
theorem added (hc : Child H c snap entry m) (hf : Fitting H c) (hv : snap.manifest.Valid) :
    ∃ added, added_refutations m snap.manifest = some added ∧ (∀ e ∈ added, e ∈ entry) ∧
      (m.schema ≠ .v1 → added = entry) := by
  have hrefs := hc.refutations_eq hf hv
  have hlen : entry.length ≤ 1 := by
    obtain ⟨-, rfl, -⟩ | ⟨o, e, -, rfl, -⟩ := hc.entry_cases hf <;> simp
  rw [added_refutations, hrefs]
  by_cases hs : snap.manifest.schema = .v1
  · have hold := refutations_of_v1 hv hs
    rw [if_neg (not_not.2 hs), hold, List.nil_append]
    by_cases hm : m.schema = .v2
    · have hone : entry.length = 1 := by
        obtain ⟨-, rfl, hop⟩ | ⟨o, e, -, rfl, -⟩ := hc.entry_cases hf
        · rw [hc.schema, hs] at hm
          simp [hop] at hm
        · rfl
      rw [if_pos hm, if_pos hone]
      exact ⟨entry, rfl, fun _ he => he, fun _ => rfl⟩
    · rw [if_neg hm]
      refine ⟨[], rfl, fun e he => absurd he List.not_mem_nil, fun hm' => ?_⟩
      have hsch := hc.schema
      rw [hs] at hsch
      simp only [reduceCtorEq, if_false, false_or] at hsch
      split_ifs at hsch
      · exact absurd hsch hm
      · exact absurd hsch hm'
  · have hsch : m.schema = snap.manifest.schema := by
      rw [hc.schema]
      cases hbs : snap.manifest.schema with
      | v1 => exact absurd hbs hs
      | v2 => simp
      | v3 => simp
    have hfeat : m.features = snap.manifest.features := by
      rw [hc.valid.features (hsch ▸ hs), hv.features hs, hsch]
    have hepoch : snap.manifest.schema ≠ .v3 ∨ m.compaction_epoch =
        snap.manifest.compaction_epoch := by
      rw [or_iff_not_imp_left, not_not]
      intro h3
      rw [hc.epoch, if_pos h3]
    rw [if_pos hs, if_pos]
    · refine ⟨entry, by rw [List.drop_left], fun _ he => he, fun _ => rfl⟩
    · simp only [Bool.and_eq_true, Bool.or_eq_true, decide_eq_true_eq, List.isPrefixOf_iff_prefix,
        List.length_append]
      exact ⟨⟨⟨hfeat, hepoch⟩, List.prefix_append _ _⟩, by omega⟩

/-- The candidate may follow its parent. -/
theorem transition (h : Published H c snap.manifest m d) (hc : Child H c snap entry m)
    (hf : Fitting H c) (hv : snap.manifest.Valid) (hb : Bound H snap.manifest)
    (hid : snap.manifest.store_identity = none ∨
      some c.store_identity = snap.manifest.store_identity) :
    Transition H d (CommitRequest.candidate H m) m c.observed snap.manifest := by
  obtain ⟨new, hadd, hsub, hall⟩ := added hc hf hv
  refine ⟨hc.revision, hid.imp_right fun heq => hc.store_identity.trans heq, ?_, ?_, new, hadd,
    fun e he => h.entry_bound hc hf e (hsub e he), fun hs => ?_⟩
  · rw [hc.supersedes]
    exact List.prefix_append _ _
  · rw [hc.schema]
    cases hbs : snap.manifest.schema with
    | v1 => exact .inl rfl
    | v2 => exact .inr (by simp)
    | v3 => exact .inr (by simp)
  · rw [hall hs]
    exact h.stageOf hc hf hv hb

end Published

end AnKla
