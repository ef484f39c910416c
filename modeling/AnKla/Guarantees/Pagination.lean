import AnKla.Guarantees.Minimum

/-!
# Pagination of the context view

Whoever follows the cursors from page to page is served every subject of the revision once
and in order, whatever the limits and budgets of the pages are.

* `derive_universe_ok`: the subjects that the light pass finds.
* `context_page_ok`: what one page serves, and where it ends.
* `pages_from`: what the pages serve from a cursor on.
* `pagination_exact`.
-/

namespace AnKla

open PyJson Budget

variable {H : Crypto}

/-! ## The universe -/

/-- A record is shown under a subject. -/
def ShownUnder (subject_filter : Option String) (x : Stream × Json) (ref : String) : Prop :=
  x.2.get? "subject_ref" = some (.str ref) ∧ ∀ filter ∈ subject_filter, filter = ref

theorem keys_append_grouped {α : Type} (ref : String) (x : α) (g : List (String × List α)) :
    (append_grouped ref x g).map Prod.fst =
      if ref ∈ g.map Prod.fst then g.map Prod.fst else g.map Prod.fst ++ [ref] := by
  induction g with
  | nil => simp [append_grouped]
  | cons entry g ih =>
    obtain ⟨other, xs⟩ := entry
    rw [append_grouped]
    by_cases h : other = ref
    · rw [if_pos h, if_pos (by simp [h])]
      rfl
    · rw [if_neg h, List.map_cons, ih, List.map_cons]
      by_cases hmem : ref ∈ g.map Prod.fst
      · rw [if_pos hmem, if_pos (List.mem_cons_of_mem _ hmem)]
      · have hne : ref ∉ other :: g.map Prod.fst := by
          rw [List.mem_cons, not_or]
          exact ⟨fun he => h he.symm, hmem⟩
        rw [if_neg hmem, if_neg hne, List.cons_append]

/-- One record adds the subject that it is shown under, which can be parsed. -/
theorem universe_step_ok {subject_filter : Option String} {u u' : Universe} {x : Stream × Json}
    (h : universe_step H subject_filter u x = .ok u') :
    (∀ ref, ref ∈ u'.grouped.map Prod.fst ↔
      ref ∈ u.grouped.map Prod.fst ∨ ShownUnder subject_filter x ref) ∧
    ((u.grouped.map Prod.fst).Nodup → (u'.grouped.map Prod.fst).Nodup) ∧
    ∀ ref, ShownUnder subject_filter x ref → (parse_subject_ref (.str ref)).isSome = true := by
  rw [universe_step] at h
  cases hsubject : x.2.get? "subject_ref" with
  | none =>
    simp only [hsubject] at h
    cases h
    simp [ShownUnder, hsubject]
  | some subject =>
    simp only [hsubject] at h
    cases hparsed : parse_subject_ref subject with
    | none => simp [hparsed] at h
    | some parsed =>
      simp only [hparsed] at h
      obtain ⟨name, rfl⟩ : ∃ name, subject = .str name := by
        cases subject with
        | str name => exact ⟨name, rfl⟩
        | _ => simp [parse_subject_ref] at hparsed
      have hshown (ref : String) : ShownUnder subject_filter x ref ↔
          name = ref ∧ ∀ filter ∈ subject_filter, filter = ref := by
        rw [ShownUnder, hsubject, Option.some.injEq, Json.str.injEq]
      split_ifs at h with hfilter
      · cases h
        obtain ⟨filter, hmem, hne⟩ : ∃ filter, subject_filter = some filter ∧ name ≠ filter := by
          cases subject_filter with
          | none => simp at hfilter
          | some filter => exact ⟨filter, rfl, by simpa using hfilter⟩
        have hnot (ref : String) : ¬ShownUnder subject_filter x ref := by
          rw [hshown, hmem]
          rintro ⟨rfl, h⟩
          exact hne (h filter rfl).symm
        exact ⟨fun ref => by simp [hnot], id, fun ref h => absurd h (hnot ref)⟩
      · cases h
        have hall (ref : String) : ShownUnder subject_filter x ref ↔ name = ref := by
          rw [hshown, and_iff_left_iff_imp]
          rintro rfl filter hmem
          rw [Option.mem_def.1 hmem] at hfilter
          by_contra hne
          exact hfilter (by simpa using fun he : name = filter => hne he.symm)
        have hname : py_str (.str name) = name := rfl
        refine ⟨fun ref => ?_, fun hnodup => ?_, fun ref h => ?_⟩
        · rw [hall, keys_append_grouped, hname]
          split_ifs with hmem
          · exact ⟨.inl, fun h => h.elim id fun he => he ▸ hmem⟩
          · rw [List.mem_append, List.mem_singleton, @eq_comm _ ref]
        · rw [keys_append_grouped, hname]
          split_ifs with hmem
          · exact hnodup
          · refine List.nodup_append.2 ⟨hnodup, List.nodup_singleton _, fun other hother ref hin => ?_⟩
            rw [List.mem_singleton.1 hin]
            exact fun he => hmem (he ▸ hother)
        · rw [← (hall ref).1 h, hparsed]
          rfl

/-- The subjects that are found: those that records are shown under, in order. -/
structure FoundSubjects (s : Snapshot) (v : ViewIdentity) (u : Universe) : Prop where
  sorted : u.refs.Pairwise (· < ·)
  mem : ∀ ref, ref ∈ u.refs ↔ ∃ x ∈ view_rows s v.streams, ShownUnder v.subject_filter x ref
  parsed : ∀ ref ∈ u.refs, (parse_subject_ref (.str ref)).isSome = true

theorem derive_universe_ok {s : Snapshot} {v : ViewIdentity} {u : Universe}
    (h : derive_universe H s v = .ok u) : FoundSubjects s v u := by
  have hrun (rows : List (Stream × Json)) (u0 u1 : Universe)
      (hrows : rows.foldlM (universe_step H v.subject_filter) u0 = .ok u1) :
      (∀ ref, ref ∈ u1.grouped.map Prod.fst ↔ ref ∈ u0.grouped.map Prod.fst ∨
        ∃ x ∈ rows, ShownUnder v.subject_filter x ref) ∧
      ((u0.grouped.map Prod.fst).Nodup → (u1.grouped.map Prod.fst).Nodup) ∧
      ∀ x ∈ rows, ∀ ref, ShownUnder v.subject_filter x ref →
        (parse_subject_ref (.str ref)).isSome = true := by
    induction rows generalizing u0 with
    | nil =>
      cases hrows
      simp
    | cons x rows ih =>
      rw [List.foldlM_cons, bind_ok] at hrows
      obtain ⟨u', hstep, hrest⟩ := hrows
      obtain ⟨hmem, hnodup, hparsed⟩ := universe_step_ok hstep
      obtain ⟨hmem', hnodup', hparsed'⟩ := ih u' hrest
      refine ⟨fun ref => ?_, fun h => hnodup' (hnodup h), fun y hy => ?_⟩
      · rw [hmem', hmem, or_assoc]
        simp
      · rcases List.mem_cons.1 hy with rfl | hy
        · exact hparsed
        · exact hparsed' y hy
  obtain ⟨hmem, hnodup, hparsed⟩ := hrun _ _ _ h
  have hrefs (ref : String) : ref ∈ u.refs ↔
      ∃ x ∈ view_rows s v.streams, ShownUnder v.subject_filter x ref := by
    rw [Universe.refs, List.mem_insertionSort, hmem]
    simp
  refine ⟨?_, hrefs, fun ref href => ?_⟩
  · have hsorted := List.pairwise_insertionSort (fun a b : String => a ≤ b)
      (u.grouped.map Prod.fst)
    have hdistinct : u.refs.Nodup :=
      (List.perm_insertionSort _ _).nodup_iff.2 (hnodup List.nodup_nil)
    exact (hsorted.and hdistinct).imp fun h => lt_of_le_of_ne h.1 h.2
  · obtain ⟨x, hx, hshown⟩ := (hrefs ref).1 href
    exact hparsed x hx ref hshown

/-! ## Pages -/

/-- The subjects that a page serves. -/
def page_subjects (page : Json) : List Json :=
  match item page "subjects" with
  | .arr subjects => subjects
  | _ => []

/-- The cursor of a page, for the next one. -/
def page_cursor (page : Json) : Option String :=
  match item (item page "pagination") "next_cursor" with
  | .str cursor => some cursor
  | _ => none

section

variable (v : ViewIdentity) (u : Universe) (limit : ℕ) (selected : List Json)
  (next_index budget used : ℕ)

theorem nodup_base_items (next_cursor : Option String) (truncated : ℕ) :
    ((base_items v u limit budget selected next_cursor truncated used).map Prod.fst).Nodup := by
  simp [base_items]

theorem page_subjects_build : page_subjects
    (build_page H v u limit selected next_index budget used) = selected := by
  rw [page_subjects, build_page, base_payload,
    item_dict (v := .arr selected) (nodup_base_items _ _ _ _ _ _ _ _) (by simp [base_items])]

theorem pagination_build : item (build_page H v u limit selected next_index budget used)
    "pagination" = pagination (next_cursor H v u next_index) selected.length u.refs.length
      (u.refs.length - next_index) limit budget used := by
  rw [build_page, base_payload]
  exact item_dict (nodup_base_items _ _ _ _ _ _ _ _) (by simp [base_items])

theorem page_cursor_build : page_cursor
    (build_page H v u limit selected next_index budget used) = next_cursor H v u next_index := by
  have hcursor : item (pagination (next_cursor H v u next_index) selected.length u.refs.length
      (u.refs.length - next_index) limit budget used) "next_cursor" =
        nullable .str (next_cursor H v u next_index) := item_dict (by simp) (by simp)
  rw [page_cursor, pagination_build, hcursor]
  cases next_cursor H v u next_index <;> rfl

theorem budget_used_build :
    item (item (build_page H v u limit selected next_index budget used) "pagination")
      "budget_used_bytes" = .int used := by
  rw [pagination_build]
  exact item_dict (by simp) (by simp)

end

/-- What a page serves from an index on, how it goes on, and how large it is. -/
structure ServesFrom (H : Crypto) (s : Snapshot) (v : ViewIdentity) (u : Universe)
    (page : ViewPage) (start n : ℕ) (json : Json) : Prop where
  subjects : page_subjects json = served H s v u start n
  cursor : page_cursor json = next_cursor H v u (start + n)
  progress : start < u.refs.length → 0 < n
  within : n ≤ u.refs.length - start
  used : item (item json "pagination") "budget_used_bytes" = .int json.size
  size : json.size ≤ page.budget_bytes

theorem page_from_ok {s : Snapshot} {v : ViewIdentity} {u : Universe} {page : ViewPage}
    {cursor : Option String} {start : ℕ} {json : Json}
    (h : page_from H s v u page cursor start = .ok json) :
    ∃ n, ServesFrom H s v u page start n json := by
  have hspec := @page_from_spec H s v u page cursor start
  rw [h] at hspec
  cases hspec with
  | @served n _ hfirst hn hfits =>
    obtain ⟨base, hbase⟩ := size_build_page H v u page.limit (served H s v u start n) (start + n)
    have hsize := (hbase page.budget_bytes).measurable.size
    refine ⟨n, page_subjects_build _ _ _ _ _ _ _, page_cursor_build _ _ _ _ _ _ _,
      fun hlt => (hfirst _ (List.getElem?_eq_getElem hlt)).1, hn, ?_, ?_⟩
    · rw [measured_page, budget_used_build, hsize]
    · rw [measured_page, hsize]
      exact hfits

/-- A request that succeeds has a start among the subjects, and is served from it. -/
theorem context_page_ok {s : Snapshot} {v : ViewIdentity} {u : Universe} {page : ViewPage}
    {cursor : Option String} {json : Json} (hu : derive_universe H s v = .ok u)
    (h : context_page H s v page cursor = .ok json) :
    ∃ start n, decode_cursor H cursor v.revision (H.digest_json v.json) u.refs = .ok start ∧
      ServesFrom H s v u page start n json := by
  rw [context_page, bind_ok] at h
  obtain ⟨u', hu', h⟩ := h
  obtain rfl := Except.ok.inj (hu.symm.trans hu')
  obtain ⟨start, hstart, hpage⟩ := bind_ok.1 h
  obtain ⟨n, hn⟩ := page_from_ok hpage
  exact ⟨start, n, hstart, hn⟩

/-- The pages that are served from a cursor on, each by the cursor of the page before it, until
    there is none. The limits and budgets are arbitrary. -/
inductive Pages (H : Crypto) (s : Snapshot) (v : ViewIdentity) : Option String → List Json → Prop
  | last {page cursor json} : context_page H s v page cursor = .ok json →
    page_cursor json = none → Pages H s v cursor [json]
  | more {page cursor json next pages} : context_page H s v page cursor = .ok json →
    page_cursor json = some next → Pages H s v (some next) pages →
    Pages H s v cursor (json :: pages)

/-- A cursor that the view has given for the subject at an index. -/
def CursorAt (H : Crypto) (v : ViewIdentity) (u : Universe) (cursor : Option String)
    (start : ℕ) : Prop :=
  (cursor = none ∧ start = 0) ∨ (start < u.refs.length ∧ cursor = next_cursor H v u start)

theorem start_of_cursor_at {v : ViewIdentity} {u : Universe} {cursor : Option String}
    {start start' : ℕ} (hnodup : u.refs.Nodup) (h : CursorAt H v u cursor start)
    (hdecode : decode_cursor H cursor v.revision (H.digest_json v.json) u.refs = .ok start') :
    start' = start := by
  rcases h with ⟨rfl, rfl⟩ | ⟨hlt, rfl⟩
  · rw [decode_cursor.eq_def] at hdecode
    exact (Except.ok.inj hdecode).symm
  · rw [next_cursor, List.getElem?_eq_getElem hlt, Option.map_some] at hdecode
    rw [start_of_encode_cursor H _ _ (List.getElem_mem hlt) hdecode]
    exact hnodup.idxOf_getElem start hlt

/-- From a cursor on, the pages serve the subjects from its index on. -/
theorem pages_from {s : Snapshot} {v : ViewIdentity} {u : Universe} {cursor : Option String}
    {pages : List Json} (hu : derive_universe H s v = .ok u) (hpages : Pages H s v cursor pages)
    {start : ℕ} (hcursor : CursorAt H v u cursor start) :
    pages.flatMap page_subjects = (u.refs.drop start).map (projected H s v u) := by
  have hnodup : u.refs.Nodup := (derive_universe_ok hu).sorted.imp fun h => h.ne
  induction hpages generalizing start with
  | @last page cursor json hjson hlast =>
    obtain ⟨start', n, hdecode, hserves⟩ := context_page_ok hu hjson
    obtain rfl := start_of_cursor_at hnodup hcursor hdecode
    rw [hserves.cursor, next_cursor, Option.map_eq_none_iff, List.getElem?_eq_none_iff] at hlast
    rw [List.flatMap_singleton, hserves.subjects, served, List.take_of_length_le]
    rw [List.length_drop]
    omega
  | @more page cursor json next pages hjson hnext _ ih =>
    obtain ⟨start', n, hdecode, hserves⟩ := context_page_ok hu hjson
    obtain rfl := start_of_cursor_at hnodup hcursor hdecode
    have hlt : start' + n < u.refs.length := by
      by_contra hge
      rw [hserves.cursor, next_cursor, List.getElem?_eq_none_iff.2 (not_lt.1 hge)] at hnext
      cases hnext
    rw [List.flatMap_cons, hserves.subjects, served,
      ih (.inr ⟨hlt, hnext.symm.trans hserves.cursor⟩), ← List.map_append, ← List.drop_drop,
      List.take_append_drop]

/-! ## The guarantee -/

/-- The digests that cursors of the view mention have 256 bits. -/
structure Digests256 (H : Crypto) (v : ViewIdentity) (u : Universe) : Prop where
  revision : v.revision < 16 ^ 64
  identity : H.digest_json v.json < 16 ^ 64
  cursors : ∀ ref ∈ u.refs, H.digest_json (cursor_core (.str CONTRACT_VERSION)
    (.str (ident v.revision)) (.str (ident (H.digest_json v.json))) (.str ref)) < 16 ^ 64

/-- What pagination promises for a view of a snapshot. -/
structure PaginatesExactly (H : Crypto) (s : Snapshot) (v : ViewIdentity) (u : Universe) : Prop where
  /-- The subjects are those that records are shown under, each once and in order. -/
  found : FoundSubjects s v u
  shown : ∀ ref, item (projected H s v u ref) "subject_ref" = .str ref
  /-- From the first page to the last, each subject is served once and in order. -/
  pages : ∀ pages, Pages H s v none pages →
    pages.flatMap page_subjects = u.refs.map (projected H s v u)
  /-- A page serves a subject or is the last one. -/
  progress : ∀ page cursor json, context_page H s v page cursor = .ok json →
    page_subjects json ≠ [] ∨ page_cursor json = none
  /-- Of a cursor that was written, its subject is read. -/
  codec : ∀ ref ∈ u.refs,
    decode_cursor H (some (encode_cursor H v.revision (H.digest_json v.json) ref)) v.revision
      (H.digest_json v.json) u.refs = .ok (u.refs.idxOf ref)
  /-- A page states its own size, which is within its budget. -/
  sizes : ∀ page cursor json, context_page H s v page cursor = .ok json →
    item (item json "pagination") "budget_used_bytes" = .int json.size ∧
      json.size ≤ page.budget_bytes

theorem subject_ref_projected (s : Snapshot) (v : ViewIdentity) (u : Universe) (ref : String) :
    item (projected H s v u ref) "subject_ref" = .str ref := by
  rw [projected, view_subject]
  refine item_dict ?_ (by simp)
  split_ifs <;> simp

/-- Pagination of the context view is exact. -/
theorem pagination_exact {s : Snapshot} {v : ViewIdentity} {u : Universe}
    (hu : derive_universe H s v = .ok u) (hdigests : Digests256 H v u) :
    PaginatesExactly H s v u := by
  have hfound := derive_universe_ok hu
  refine ⟨hfound, subject_ref_projected s v u, fun pages hpages => ?_,
    fun page cursor json h => ?_, fun ref href => ?_, fun page cursor json h => ?_⟩
  · exact pages_from hu hpages (.inl ⟨rfl, rfl⟩)
  · obtain ⟨start, n, -, hserves⟩ := context_page_ok hu h
    rw [hserves.subjects, hserves.cursor]
    by_cases hlt : start < u.refs.length
    · have hpos := hserves.progress hlt
      have hwithin := hserves.within
      left
      rw [Ne, ← List.length_eq_zero_iff, served, List.length_map, List.length_take,
        List.length_drop]
      omega
    · right
      rw [next_cursor, Option.map_eq_none_iff, List.getElem?_eq_none_iff]
      omega
  · exact decode_encode_cursor H _ _ href (length_encode_cursor H _ _ (hfound.parsed ref href)
      hdigests.revision hdigests.identity (hdigests.cursors ref href))
  · obtain ⟨start, n, -, hserves⟩ := context_page_ok hu h
    exact ⟨hserves.used, hserves.size⟩

theorem pagination_exact_one_subject :
    PaginatesExactly OneSubject.host OneSubject.revision OneSubject.view OneSubject.subjects :=
  pagination_exact OneSubject.derive
    ⟨by decide, OneSubject.digest_view ▸ by decide, fun ref href => by
      obtain rfl : ref = OneSubject.ref := List.mem_singleton.1 href
      rw [OneSubject.digest_view]
      decide +kernel⟩

end AnKla
