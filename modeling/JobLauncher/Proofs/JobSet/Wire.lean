import JobLauncher.JobSet.Wire
import JobLauncher.Kube.JobSets

/-!
# Reading written JobSets

What is written of a JobSet can be read again, and gives the JobSet back: each part of it as it is
(`decodeMetadata_metadataJson`, `decodeSpec_specJson`), a JobSet as it is submitted
(`Submitted.ofJson_toJson`), and the same as an object of any kind (`decodeObjectOfAnyKind_toJson`).
-/

namespace JobLauncher

namespace Json

/-- Texts by name read back. -/
theorem decodeTexts_ofTexts (d : Dict String) : decodeTexts (ofTexts d) = .ok d := by
  have hpairs : ((d.map Json.str).toList.mapM fun e : String × Json =>
        (decodeText e.2).map fun s => (e.1, s)) = .ok d.toList := by
    show (d.entries.map fun e => (e.1, Json.str e.2)).mapM _ = _
    rw [List.mapM_map]
    exact List.mapM_pure (f := fun e : String × String => e) |>.trans (by rw [List.map_id']; rfl)
  show (do
    let pairs ← (d.map Json.str).toList.mapM fun e : String × Json =>
      (decodeText e.2).map fun s => (e.1, s)
    return Dict.ofList pairs) = Except.ok d
  rw [hpairs]
  exact congrArg Except.ok d.ofList_toList

theorem decodeUInt32_nat (n : UInt32) : decodeUInt32 (nat n.toNat) = .ok n := by
  have hlt : n.toNat < 4294967296 := n.toNat_lt
  have hrange : (0 : Int) ≤ n.toNat ∧ (n.toNat : Int) < 4294967296 := by omega
  simp only [nat, int, decodeUInt32]
  rw [if_pos hrange, Int.toNat_natCast, UInt32.ofNat_toNat]

theorem decodeList_decodeAny (items : List Json) : decodeList decodeAny (.arr items) = .ok items :=
  (List.mapM_pure (f := fun v : Json => v)).trans (by rw [List.map_id']; rfl)

end Json

namespace JobSet

open Json

variable (s : Setting) (d : Document)

/-- The metadata of a document read back, though they are written in another order than they are
read in. -/
theorem decodeMetadata_metadataJson :
    decodeMetadata s d.metadataJson = .ok (d.name, d.annotations) := by
  show (do
    let annotations ← (decodeTexts (ofTexts d.annotations)).map some
    let name ← (decodeText (.str d.name)).map some
    return (← require "name" name, annotations.getD Dict.empty)) = Except.ok _
  rw [decodeTexts_ofTexts]
  rfl

theorem decodeSpec_specJson : decodeSpec s d.specJson = .ok (d.maxRestarts, d.replicatedJobs) := by
  have hpolicy : decodeFailurePolicy s (.obj [("maxRestarts", nat d.maxRestarts.toNat)])
      = .ok d.maxRestarts := by
    show (do
      require "maxRestarts" (← (decodeUInt32 (nat d.maxRestarts.toNat)).map some)) = Except.ok _
    rw [decodeUInt32_nat]
    rfl
  show (do
    let maxRestarts ← (decodeFailurePolicy s (.obj [("maxRestarts", nat d.maxRestarts.toNat)])).map
      some
    let jobs ← (decodeList decodeAny (.arr d.replicatedJobs)).map some
    return (← require "failurePolicy" maxRestarts, ← require "replicatedJobs" jobs)) = Except.ok _
  rw [hpolicy, decodeList_decodeAny]
  rfl

/-- The document among other fields. -/
theorem decodeFields_of_lookup {fields : List (String × Json)}
    (hmetadata : fields.lookup "metadata" = some d.metadataJson)
    (hspec : fields.lookup "spec" = some d.specJson) : decodeFields s fields = .ok d := by
  unfold decodeFields decodeField?
  rw [hmetadata, hspec]
  simp only [decodeMetadata_metadataJson, decodeSpec_specJson]
  rfl

/-- A JobSet that is written as it is submitted reads back as it was. -/
theorem Submitted.ofJson_toJson (j : Submitted) : Submitted.ofJson j.toJson = .ok j := by
  show (do
    let document ← decodeFields .enclosed _
    return (⟨j.apiVersion, j.kind, document⟩ : Submitted)) = Except.ok j
  rw [decodeFields_of_lookup .enclosed j.document rfl rfl]
  rfl

/-- So it does as an object of any kind. -/
theorem decodeObjectOfAnyKind_toJson (j : Submitted) :
    Kube.decodeObjectOfAnyKind j.toJson = .ok j.toJson := by
  have hmetadata : Kube.checkMetadata [("annotations", ofTexts j.document.annotations),
      ("name", .str j.document.name)] = .ok () := by
    show (do
      let _ ← (decodeTexts (ofTexts j.document.annotations)).map some
      let _ ← (decodeText (.str j.document.name)).map some) = Except.ok ()
    rw [decodeTexts_ofTexts]
    rfl
  show (Kube.checkMetadata _).map (fun _ => j.toJson) = _
  rw [hmetadata]
  rfl

end JobSet

end JobLauncher
