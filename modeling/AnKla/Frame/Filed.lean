import AnKla.Snapshot
import AnKla.Identity

/-!
# Files under their own digest

* `Filed`: a content at a path that its digest names.
* `filed_unique`: a path holds one filed content at most.
* `read_manifest_iff` and its likes: what a reader accepts is what is filed.
-/

namespace AnKla

open PyJson Durable

/-- The format of the files of a directory of content-addressed objects. -/
def Path.kind : Path → Option ℕ
  | .segment _ _ => some 2
  | .checkpoint _ | .refutation _ | .authority_claim _ | .authority_attestation _
  | .attest_receipt _ => some 3
  | .revision _ => some 4
  | .ref_log _ => some 5
  | .stage _ _ => some 7
  | .receipt _ _ => some 8
  | .catalog _ => some 10
  | .epoch _ => some 11
  | .restore_proof _ => some 12
  | .identity _ => some 14
  | .immutable_intent _ => some 16
  | .identity_receipt _ => some 17
  | _ => none

variable (H : Crypto)

/-- A content at a path that its digest names. -/
def Filed (p : Path) (c : Document) : Prop := p.kind = some c.kind ∧ p.digests = [H.digest c]

variable {H}

/-- A path holds one filed content at most. -/
theorem filed_unique {p : Path} {c c' : Document} (h : Filed H p c) (h' : Filed H p c') :
    c = c' := by
  have hk : c.kind = c'.kind := Option.some.inj (h.1.symm.trans h'.1)
  have hd : H.digest c = H.digest c' := List.singleton_injective (h.2.symm.trans h'.2)
  exact H.injective hk hd

/-! ## Readers -/

/-- A reader of one format accepts an object exactly when it is filed. -/
theorem read_json_object_iff {α : Type*} {d : Disk} {kind : String} {path : Path}
    {identifier : Digest} {get : Document → Option α} (make : α → Document)
    (hget : ∀ c x, get c = some x ↔ c = make x) {x : α} :
    read_json_object H d kind path identifier get = .ok x ↔
      d.read path = some (make x) ∧ H.digest (make x) = identifier := by
  rw [read_json_object_ok]
  constructor
  · rintro ⟨c, hc, hd, hg⟩
    obtain rfl := (hget c x).1 hg
    exact ⟨hc, hd⟩
  · rintro ⟨hc, hd⟩
    exact ⟨make x, hc, hd, (hget _ x).2 rfl⟩

theorem json?_eq {c : Document} {v : Json} : c.json? = some v ↔ c = .json v := by
  cases c <;> simp [Document.json?]

theorem read_manifest_iff {d : Disk} {id : Digest} {m : Manifest} :
    read_manifest H d id = .ok m ↔
      d.read (.revision id) = some (.manifest m) ∧ H.digest (.manifest m) = id :=
  read_json_object_iff .manifest fun c x => by cases c <;> simp [Document.manifest?]

theorem read_checkpoint_iff {d : Disk} {id : Digest} {v : Json} :
    read_checkpoint H d id = .ok v ↔
      d.read (.checkpoint id) = some (.json v) ∧ H.digest (.json v) = id :=
  read_json_object_iff .json fun _ _ => json?_eq

theorem read_stage_iff {d : Disk} {t : Uuid} {id : Digest} {s : Stage} :
    read_stage H d t id = .ok s ↔
      d.read (.stage t id) = some (.stage s) ∧ H.digest (.stage s) = id :=
  read_json_object_iff .stage fun c x => by cases c <;> simp [Document.stage?]

theorem read_receipt_iff {d : Disk} {t : Uuid} {id : Digest} {r : Receipt} :
    read_receipt H d t id = .ok r ↔
      d.read (.receipt t id) = some (.receipt r) ∧ H.digest (.receipt r) = id :=
  read_json_object_iff .receipt fun c x => by cases c <;> simp [Document.receipt?]

theorem read_ref_log_iff {d : Disk} {id : Digest} {r : RefLog} :
    read_ref_log H d id = .ok r ↔
      d.read (.ref_log id) = some (.ref_log r) ∧ H.digest (.ref_log r) = id :=
  read_json_object_iff .ref_log fun c x => by cases c <;> simp [Document.ref_log?]

theorem read_refutation_iff {d : Disk} {id : Digest} {v : Json} :
    read_refutation H d id = .ok v ↔
      d.read (.refutation id) = some (.json v) ∧ H.digest (.json v) = id :=
  read_json_object_iff .json fun _ _ => json?_eq

theorem read_authority_claim_iff {d : Disk} {id : Digest} {v : Json} :
    read_authority_claim H d id = .ok v ↔
      d.read (.authority_claim id) = some (.json v) ∧ H.digest (.json v) = id :=
  read_json_object_iff .json fun _ _ => json?_eq

theorem read_authority_attestation_iff {d : Disk} {id : Digest} {v : Json} :
    read_authority_attestation H d id = .ok v ↔
      d.read (.authority_attestation id) = some (.json v) ∧ H.digest (.json v) = id :=
  read_json_object_iff .json fun _ _ => json?_eq

theorem read_identity_iff {d : Disk} {id : Digest} {s : StoreIdentity} :
    read_identity H d id = .ok s ↔
      d.read (.identity id) = some (.store_identity s) ∧ H.digest (.store_identity s) = id :=
  read_json_object_iff .store_identity fun c x => by cases c <;> simp [Document.store_identity?]

theorem read_catalog_iff {d : Disk} {id : Digest} {c : Catalog} :
    read_catalog H d id = .ok c ↔
      d.read (.catalog id) = some (.catalog c) ∧ H.digest (.catalog c) = id :=
  read_json_object_iff .catalog fun c x => by cases c <;> simp [Document.catalog?]

theorem read_epoch_iff {d : Disk} {id : Digest} {e : EpochManifest} :
    read_epoch H d id = .ok e ↔
      d.read (.epoch id) = some (.epoch e) ∧ H.digest (.epoch e) = id :=
  read_json_object_iff .epoch fun c x => by cases c <;> simp [Document.epoch?]

theorem read_restore_proof_iff {d : Disk} {id : Digest} {p : RestoreProof} :
    read_restore_proof H d id = .ok p ↔
      d.read (.restore_proof id) = some (.restore_proof p) ∧
        H.digest (.restore_proof p) = id :=
  read_json_object_iff .restore_proof fun c x => by cases c <;> simp [Document.restore_proof?]

/-- A segment that is read is filed. -/
theorem read_segment_filed {d : Disk} {stream : Stream} {id : Digest} {rows : List Json} :
    read_segment H d stream id = .ok rows → ∃ text, d.read (.segment stream id) =
      some (.segment text) ∧ Filed H (.segment stream id) (.segment text) := by
  intro h
  obtain ⟨text, hr, hd, -⟩ := read_segment_ok h
  exact ⟨text, hr, rfl, congrArg (fun x => [x]) hd.symm⟩

/-- What a segment reads as depends on its file alone. -/
theorem read_segment_congr {d e : Disk} {stream : Stream} {id : Digest}
    (h : e.read (.segment stream id) = d.read (.segment stream id)) :
    read_segment H e stream id = read_segment H d stream id := by
  rw [read_segment, read_segment, h]

theorem read_manifest_congr {d e : Disk} {id : Digest}
    (h : e.read (.revision id) = d.read (.revision id)) :
    read_manifest H e id = read_manifest H d id := by
  rw [read_manifest, read_manifest, read_json_object, read_json_object, h]

end AnKla
