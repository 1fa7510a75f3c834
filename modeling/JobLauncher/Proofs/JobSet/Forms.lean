import JobLauncher.Proofs.JobSet.Wire
import JobLauncher.Proofs.Except

/-!
# What reads as a JobSet

The JSON values that are read as a document, told without the readers: `IsDocument j d` names the
members of `j` that count and what they have to be. A record is an object or the list of its fields
in order, so a member is looked up by its name in the one and by its place in the other. What else
an object holds is never looked at.

The two readers go different ways, a document on its own and the fields of a document among those of
a submission, and they report different errors. Where they succeed each of them comes down to
`IsDocument` (`decodeFields_eq_ok_iff`, `Document.ofJson_eq_ok_iff`), so they accept the same values
and read the same out of them (`documents_survive_the_wire`).
-/

namespace JobLauncher

namespace Json

/-- The member of a record: by name in an object, by place in a list. -/
def member? (name : String) (place : Nat) : Json → Option Json
  | .obj fields => fields.lookup name
  | .arr items => items[place]?
  | _ => none

/-- A value that can be a record of `count` fields. -/
def IsRecord (count : Nat) : Json → Prop
  | .obj _ => True
  | .arr items => items.length ≤ count
  | _ => False

/-- An object with these fields in this order and no other. -/
def HasJust (names : List String) : Json → Prop
  | .obj fields => fields.map (·.1) = names
  | _ => False

/-- The dictionary that a member stands for which may be left out: its fields are texts, and the
last one of a name counts. -/
inductive AreTexts : Option Json → Dict String → Prop
  | missing : AreTexts none Dict.empty
  | given (pairs : List (String × String)) :
      AreTexts (some (.obj (pairs.map fun e => (e.1, .str e.2)))) (Dict.ofList pairs)

/-! ## The pieces -/

variable {α : Type} {fields : List (String × Json)} {items : List Json} {name : String}
  {read : Decoder α} {a : α} {v : Json}

/-- A text is read from a text and from nothing else. -/
theorem decodeText_eq_ok_iff {t : String} : decodeText v = .ok t ↔ v = .str t := by
  cases v <;> simp [decodeText]

/-- A count of 32 bits is read from the number that it is, and from no other one. -/
theorem decodeUInt32_eq_ok_iff {n : UInt32} : decodeUInt32 v = .ok n ↔ v = nat n.toNat := by
  constructor
  · intro h
    unfold decodeUInt32 at h
    split at h
    next i =>
      split at h
      next hrange =>
        cases h
        have hback : (UInt32.ofNat i.toNat).toNat = i.toNat :=
          UInt32.toNat_ofNat_of_lt (by show i.toNat < 4294967296; omega)
        rw [hback, nat, int, Int.toNat_of_nonneg hrange.1]
      next => cases h
    next => cases h
  · rintro rfl
    exact decodeUInt32_nat n

/-- A list of whatever is read as it stands. -/
theorem decodeList_decodeAny_eq_ok_iff : decodeList decodeAny v = .ok items ↔ v = .arr items := by
  constructor
  · intro h
    cases v with
    | arr read =>
      rw [decodeList_decodeAny] at h
      cases h
      rfl
    | _ => cases h
  · rintro rfl
    exact decodeList_decodeAny items

/-- Fields are read as texts exactly if each of them is one. -/
theorem mapM_decodeText_eq_ok_iff {pairs : List (String × String)} :
    (fields.mapM fun e : String × Json => (decodeText e.2).map fun t => (e.1, t)) = .ok pairs ↔
      fields = pairs.map fun e => (e.1, .str e.2) := by
  have hone {e : String × Json} {p : String × String} :
      (decodeText e.2).map (fun t => (e.1, t)) = .ok p ↔ e = (p.1, .str p.2) ∧ True := by
    rw [and_true, Except.map_eq_ok]
    constructor
    · rintro ⟨t, ht, rfl⟩
      exact Prod.ext rfl (decodeText_eq_ok_iff.mp ht)
    · rintro rfl
      exact ⟨p.2, decodeText_eq_ok_iff.mpr rfl, rfl⟩
  simp only [Except.mapM_eq_ok_iff hone, implies_true, and_true]

/-- Texts by name are read from an object of texts. -/
theorem decodeTexts_eq_ok_iff {d : Dict String} : decodeTexts v = .ok d ↔ AreTexts (some v) d := by
  constructor
  · intro h
    cases v with
    | obj fields =>
      obtain ⟨pairs, hpairs, h⟩ := Except.bind_eq_ok.mp h
      cases h
      rw [mapM_decodeText_eq_ok_iff.mp hpairs]
      exact .given pairs
    | _ => cases h
  · rintro (_ | ⟨pairs⟩)
    exact Except.bind_eq_ok.mpr ⟨pairs, mapM_decodeText_eq_ok_iff.mpr rfl, rfl⟩

/-- A field that may be missing is missing or has the expected form. -/
theorem decodeField?_eq_ok_iff {x : Option α} : decodeField? fields name read = .ok x ↔
    (fields.lookup name = none ∧ x = none) ∨
      ∃ v a, fields.lookup name = some v ∧ read v = .ok a ∧ x = some a := by
  unfold decodeField?
  cases fields.lookup name with
  | none =>
    simp only [true_and, reduceCtorEq, false_and, exists_false, or_false]
    exact ⟨fun h => (Except.ok.inj h).symm, fun h => h ▸ rfl⟩
  | some v =>
    constructor
    · intro h
      obtain ⟨a, ha, rfl⟩ := Except.map_eq_ok.mp h
      exact .inr ⟨v, a, rfl, ha, rfl⟩
    · rintro (⟨⟨⟩, -⟩ | ⟨_, a, ⟨⟩, ha, rfl⟩)
      exact Except.map_eq_ok.mpr ⟨a, ha, rfl⟩

/-- A field that has to be there is there and was read. -/
theorem required_eq_ok_iff :
    (∃ x, decodeField? fields name read = .ok x ∧ require name x = .ok a) ↔
      ∃ v, fields.lookup name = some v ∧ read v = .ok a := by
  constructor
  · rintro ⟨x, hx, ha⟩
    obtain ⟨-, rfl⟩ | ⟨v, b, hv, hb, rfl⟩ := decodeField?_eq_ok_iff.mp hx
    · cases ha
    · cases ha
      exact ⟨v, hv, hb⟩
  · rintro ⟨v, hv, ha⟩
    exact ⟨some a, decodeField?_eq_ok_iff.mpr (.inr ⟨v, a, hv, ha, rfl⟩), rfl⟩

/-- Texts that may be left out. -/
theorem optionalTexts_eq_ok_iff {d : Dict String} :
    (∃ x, decodeField? fields name decodeTexts = .ok x ∧ x.getD Dict.empty = d) ↔
      AreTexts (fields.lookup name) d := by
  constructor
  · rintro ⟨x, hx, rfl⟩
    obtain ⟨hnone, rfl⟩ | ⟨v, texts, hv, htexts, rfl⟩ := decodeField?_eq_ok_iff.mp hx
    · rw [hnone]
      exact .missing
    · rw [hv]
      exact decodeTexts_eq_ok_iff.mp htexts
  · intro h
    cases hlookup : fields.lookup name with
    | none =>
      rw [hlookup] at h
      cases h
      exact ⟨none, decodeField?_eq_ok_iff.mpr (.inl ⟨hlookup, rfl⟩), rfl⟩
    | some v =>
      rw [hlookup] at h
      have hread := decodeTexts_eq_ok_iff.mpr h
      exact ⟨some d, decodeField?_eq_ok_iff.mpr (.inr ⟨v, d, hlookup, hread, rfl⟩), rfl⟩

/-- Texts that come last in a list and may be left out. -/
theorem optionalItem_eq_ok_iff {x : Option Json} {next : Dict String → Except DecodeError α} :
    (match x with
      | none => pure Dict.empty >>= next
      | some v => decodeTexts v >>= next) = .ok a ↔ ∃ d, AreTexts x d ∧ next d = .ok a := by
  cases x with
  | none =>
    constructor
    · intro h
      exact ⟨Dict.empty, .missing, h⟩
    · rintro ⟨_, ⟨⟩, h⟩
      exact h
  | some v => simp only [Except.bind_eq_ok, decodeTexts_eq_ok_iff]

theorem decodeItem_eq_ok_iff {place : Nat} {expected : String} :
    decodeItem items place expected read = .ok a ↔
      ∃ v, items[place]? = some v ∧ read v = .ok a := by
  unfold decodeItem
  cases items[place]? <;> simp

end Json

namespace JobSet

open Json

/-! ## The records -/

/-- Metadata: the name, and annotations if there are any. -/
structure IsMetadata (j : Json) (name : String) (annotations : Dict String) : Prop where
  record : j.IsRecord 2
  name : j.member? "name" 0 = some (.str name)
  annotations : AreTexts (j.member? "annotations" 1) annotations

/-- A failure policy: a number of restarts that fits 32 bits. -/
structure IsFailurePolicy (j : Json) (maxRestarts : UInt32) : Prop where
  record : j.IsRecord 1
  maxRestarts : j.member? "maxRestarts" 0 = some (nat maxRestarts.toNat)

/-- A specification: the failure policy and the replicated jobs, whatever these are. -/
structure IsSpec (j : Json) (maxRestarts : UInt32) (replicatedJobs : List Json) : Prop where
  record : j.IsRecord 2
  failurePolicy : ∃ p, j.member? "failurePolicy" 0 = some p ∧ IsFailurePolicy p maxRestarts
  replicatedJobs : j.member? "replicatedJobs" 1 = some (.arr replicatedJobs)

/-- A document: metadata and a specification. -/
structure IsDocument (j : Json) (d : Document) : Prop where
  record : j.IsRecord 2
  metadata : ∃ m, j.member? "metadata" 0 = some m ∧ IsMetadata m d.name d.annotations
  spec : ∃ s, j.member? "spec" 1 = some s ∧ IsSpec s d.maxRestarts d.replicatedJobs

variable {s : Setting} {j : Json} {d : Document} {fields : List (String × Json)}

/-- A list may be shorter than its record, but not longer. -/
theorem Setting.checkLength_eq_ok_iff {items : List Json} {count : Nat} :
    s.checkLength items count = .ok () ↔ items.length ≤ count := by
  unfold Setting.checkLength
  split
  next hle => exact ⟨fun _ => hle, fun _ => rfl⟩
  next hlong => exact ⟨fun h => (nomatch h), fun hle => absurd hle hlong⟩

/-- Metadata are read from what is metadata, be it an object or a list. -/
theorem decodeMetadata_eq_ok_iff {name : String} {annotations : Dict String} :
    decodeMetadata s j = .ok (name, annotations) ↔ IsMetadata j name annotations := by
  -- an object is read field by field before what is missing is reported, a list item by item before
  -- its length is checked, so the two forms are taken apart on their own
  cases j with
  | obj fields =>
    constructor
    · intro h
      obtain ⟨annotations?, hannotations, h⟩ := Except.bind_eq_ok.mp h
      obtain ⟨name?, hname?, h⟩ := Except.bind_eq_ok.mp h
      obtain ⟨_, hname, h⟩ := Except.bind_eq_ok.mp h
      cases h
      obtain ⟨v, hv, hread⟩ := required_eq_ok_iff.mp ⟨name?, hname?, hname⟩
      exact {
        record := trivial
        name := hv.trans (congrArg some (decodeText_eq_ok_iff.mp hread))
        annotations := optionalTexts_eq_ok_iff.mp ⟨annotations?, hannotations, rfl⟩ }
    · intro h
      obtain ⟨annotations?, hannotations, rfl⟩ := optionalTexts_eq_ok_iff.mpr h.annotations
      obtain ⟨name?, hname?, hname⟩ :=
        required_eq_ok_iff.mpr ⟨.str name, h.name, decodeText_eq_ok_iff.mpr rfl⟩
      refine Except.bind_eq_ok.mpr ⟨annotations?, hannotations, ?_⟩
      refine Except.bind_eq_ok.mpr ⟨name?, hname?, ?_⟩
      exact Except.bind_eq_ok.mpr ⟨name, hname, rfl⟩
  | arr items =>
    constructor
    · intro h
      obtain ⟨_, hname, h⟩ := Except.bind_eq_ok.mp h
      obtain ⟨_, hannotations, h⟩ := optionalItem_eq_ok_iff.mp h
      obtain ⟨⟨⟩, hlength, h⟩ := Except.bind_eq_ok.mp h
      cases h
      obtain ⟨v, hv, hread⟩ := decodeItem_eq_ok_iff.mp hname
      exact {
        record := Setting.checkLength_eq_ok_iff.mp hlength
        name := hv.trans (congrArg some (decodeText_eq_ok_iff.mp hread))
        annotations := hannotations }
    · intro h
      have hname : decodeItem items 0 (recordOf "JobSetMetadata" 2) decodeText = .ok name :=
        decodeItem_eq_ok_iff.mpr ⟨.str name, h.name, decodeText_eq_ok_iff.mpr rfl⟩
      refine Except.bind_eq_ok.mpr ⟨name, hname, ?_⟩
      refine optionalItem_eq_ok_iff.mpr ⟨annotations, h.annotations, ?_⟩
      exact Except.bind_eq_ok.mpr ⟨(), Setting.checkLength_eq_ok_iff.mpr h.record, rfl⟩
  | _ => exact ⟨fun h => (nomatch h), fun h => h.record.elim⟩

theorem decodeFailurePolicy_eq_ok_iff {n : UInt32} :
    decodeFailurePolicy s j = .ok n ↔ IsFailurePolicy j n := by
  cases j with
  | obj fields =>
    have hread : (∃ v, fields.lookup "maxRestarts" = some v ∧ decodeUInt32 v = .ok n) ↔
        fields.lookup "maxRestarts" = some (nat n.toNat) := by
      simp only [decodeUInt32_eq_ok_iff, exists_eq_right]
    constructor
    · intro h
      have hmember := hread.mp (required_eq_ok_iff.mp (Except.bind_eq_ok.mp h))
      exact { record := trivial, maxRestarts := hmember }
    · intro h
      exact Except.bind_eq_ok.mpr (required_eq_ok_iff.mpr (hread.mpr h.maxRestarts))
  | arr items =>
    constructor
    · intro h
      obtain ⟨_, hitem, h⟩ := Except.bind_eq_ok.mp h
      obtain ⟨⟨⟩, hlength, h⟩ := Except.bind_eq_ok.mp h
      cases h
      obtain ⟨v, hv, hread⟩ := decodeItem_eq_ok_iff.mp hitem
      exact {
        record := Setting.checkLength_eq_ok_iff.mp hlength
        maxRestarts := hv.trans (congrArg some (decodeUInt32_eq_ok_iff.mp hread)) }
    · intro h
      have hitem : decodeItem items 0 (recordOf "FailurePolicy" 1) decodeUInt32 = .ok n :=
        decodeItem_eq_ok_iff.mpr ⟨nat n.toNat, h.maxRestarts, decodeUInt32_eq_ok_iff.mpr rfl⟩
      refine Except.bind_eq_ok.mpr ⟨n, hitem, ?_⟩
      exact Except.bind_eq_ok.mpr ⟨(), Setting.checkLength_eq_ok_iff.mpr h.record, rfl⟩
  | _ => exact ⟨fun h => (nomatch h), fun h => h.record.elim⟩

/-- So is a specification, whose parts are read in their turn. -/
theorem decodeSpec_eq_ok_iff {n : UInt32} {jobs : List Json} :
    decodeSpec s j = .ok (n, jobs) ↔ IsSpec j n jobs := by
  cases j with
  | obj fields =>
    constructor
    · intro h
      obtain ⟨policy?, hpolicy?, h⟩ := Except.bind_eq_ok.mp h
      obtain ⟨jobs?, hjobs?, h⟩ := Except.bind_eq_ok.mp h
      obtain ⟨_, hpolicy, h⟩ := Except.bind_eq_ok.mp h
      obtain ⟨_, hjobs, h⟩ := Except.bind_eq_ok.mp h
      cases h
      obtain ⟨p, hp, hreadPolicy⟩ := required_eq_ok_iff.mp ⟨policy?, hpolicy?, hpolicy⟩
      obtain ⟨v, hv, hreadJobs⟩ := required_eq_ok_iff.mp ⟨jobs?, hjobs?, hjobs⟩
      exact {
        record := trivial
        failurePolicy := ⟨p, hp, decodeFailurePolicy_eq_ok_iff.mp hreadPolicy⟩
        replicatedJobs := hv.trans (congrArg some (decodeList_decodeAny_eq_ok_iff.mp hreadJobs)) }
    · intro h
      obtain ⟨p, hp, hisPolicy⟩ := h.failurePolicy
      obtain ⟨policy?, hpolicy?, hpolicy⟩ :=
        required_eq_ok_iff.mpr ⟨p, hp, decodeFailurePolicy_eq_ok_iff.mpr hisPolicy⟩
      obtain ⟨jobs?, hjobs?, hjobs⟩ :=
        required_eq_ok_iff.mpr ⟨.arr jobs, h.replicatedJobs, decodeList_decodeAny jobs⟩
      refine Except.bind_eq_ok.mpr ⟨policy?, hpolicy?, ?_⟩
      refine Except.bind_eq_ok.mpr ⟨jobs?, hjobs?, ?_⟩
      refine Except.bind_eq_ok.mpr ⟨n, hpolicy, ?_⟩
      exact Except.bind_eq_ok.mpr ⟨jobs, hjobs, rfl⟩
  | arr items =>
    constructor
    · intro h
      obtain ⟨_, hpolicy, h⟩ := Except.bind_eq_ok.mp h
      obtain ⟨_, hjobs, h⟩ := Except.bind_eq_ok.mp h
      obtain ⟨⟨⟩, hlength, h⟩ := Except.bind_eq_ok.mp h
      cases h
      obtain ⟨p, hp, hreadPolicy⟩ := decodeItem_eq_ok_iff.mp hpolicy
      obtain ⟨v, hv, hreadJobs⟩ := decodeItem_eq_ok_iff.mp hjobs
      exact {
        record := Setting.checkLength_eq_ok_iff.mp hlength
        failurePolicy := ⟨p, hp, decodeFailurePolicy_eq_ok_iff.mp hreadPolicy⟩
        replicatedJobs := hv.trans (congrArg some (decodeList_decodeAny_eq_ok_iff.mp hreadJobs)) }
    · intro h
      obtain ⟨p, hp, hisPolicy⟩ := h.failurePolicy
      have hpolicy : decodeItem items 0 (recordOf "JobSetSpec" 2) (decodeFailurePolicy s) = .ok n :=
        decodeItem_eq_ok_iff.mpr ⟨p, hp, decodeFailurePolicy_eq_ok_iff.mpr hisPolicy⟩
      have hjobs : decodeItem items 1 (recordOf "JobSetSpec" 2) (decodeList decodeAny) = .ok jobs :=
        decodeItem_eq_ok_iff.mpr ⟨.arr jobs, h.replicatedJobs, decodeList_decodeAny jobs⟩
      refine Except.bind_eq_ok.mpr ⟨n, hpolicy, ?_⟩
      refine Except.bind_eq_ok.mpr ⟨jobs, hjobs, ?_⟩
      exact Except.bind_eq_ok.mpr ⟨(), Setting.checkLength_eq_ok_iff.mpr h.record, rfl⟩
  | _ => exact ⟨fun h => (nomatch h), fun h => h.record.elim⟩

/-- Among other fields or alone, the document of an object is the same. -/
theorem decodeFields_eq_ok_iff : decodeFields s fields = .ok d ↔ IsDocument (.obj fields) d := by
  constructor
  · intro h
    obtain ⟨metadata?, hmetadata?, h⟩ := Except.bind_eq_ok.mp h
    obtain ⟨spec?, hspec?, h⟩ := Except.bind_eq_ok.mp h
    obtain ⟨⟨name, annotations⟩, hmetadata, h⟩ := Except.bind_eq_ok.mp h
    obtain ⟨⟨maxRestarts, replicatedJobs⟩, hspec, h⟩ := Except.bind_eq_ok.mp h
    cases h
    obtain ⟨m, hm, hreadMetadata⟩ := required_eq_ok_iff.mp ⟨metadata?, hmetadata?, hmetadata⟩
    obtain ⟨v, hv, hreadSpec⟩ := required_eq_ok_iff.mp ⟨spec?, hspec?, hspec⟩
    exact {
      record := trivial
      metadata := ⟨m, hm, decodeMetadata_eq_ok_iff.mp hreadMetadata⟩
      spec := ⟨v, hv, decodeSpec_eq_ok_iff.mp hreadSpec⟩ }
  · intro h
    obtain ⟨m, hm, hisMetadata⟩ := h.metadata
    obtain ⟨v, hv, hisSpec⟩ := h.spec
    obtain ⟨metadata?, hmetadata?, hmetadata⟩ :=
      required_eq_ok_iff.mpr ⟨m, hm, decodeMetadata_eq_ok_iff.mpr hisMetadata⟩
    obtain ⟨spec?, hspec?, hspec⟩ :=
      required_eq_ok_iff.mpr ⟨v, hv, decodeSpec_eq_ok_iff.mpr hisSpec⟩
    refine Except.bind_eq_ok.mpr ⟨metadata?, hmetadata?, ?_⟩
    refine Except.bind_eq_ok.mpr ⟨spec?, hspec?, ?_⟩
    refine Except.bind_eq_ok.mpr ⟨_, hmetadata, ?_⟩
    exact Except.bind_eq_ok.mpr ⟨_, hspec, rfl⟩

/-- A document is read from what is a document and from nothing else. -/
theorem Document.ofJson_eq_ok_iff : Document.ofJson j = .ok d ↔ IsDocument j d := by
  cases j with
  | obj fields => exact decodeFields_eq_ok_iff
  | arr items =>
    constructor
    · intro h
      obtain ⟨⟨name, annotations⟩, hmetadata, h⟩ := Except.bind_eq_ok.mp h
      obtain ⟨⟨maxRestarts, replicatedJobs⟩, hspec, h⟩ := Except.bind_eq_ok.mp h
      obtain ⟨⟨⟩, hlength, h⟩ := Except.bind_eq_ok.mp h
      cases h
      obtain ⟨m, hm, hreadMetadata⟩ := decodeItem_eq_ok_iff.mp hmetadata
      obtain ⟨v, hv, hreadSpec⟩ := decodeItem_eq_ok_iff.mp hspec
      exact {
        record := Setting.checkLength_eq_ok_iff.mp hlength
        metadata := ⟨m, hm, decodeMetadata_eq_ok_iff.mp hreadMetadata⟩
        spec := ⟨v, hv, decodeSpec_eq_ok_iff.mp hreadSpec⟩ }
    · intro h
      obtain ⟨m, hm, hisMetadata⟩ := h.metadata
      obtain ⟨v, hv, hisSpec⟩ := h.spec
      have hmetadata := decodeMetadata_eq_ok_iff (s := .alone).mpr hisMetadata
      have hspec := decodeSpec_eq_ok_iff (s := .alone).mpr hisSpec
      refine Except.bind_eq_ok.mpr ⟨_, decodeItem_eq_ok_iff.mpr ⟨m, hm, hmetadata⟩, ?_⟩
      refine Except.bind_eq_ok.mpr ⟨_, decodeItem_eq_ok_iff.mpr ⟨v, hv, hspec⟩, ?_⟩
      exact Except.bind_eq_ok.mpr ⟨(), Setting.checkLength_eq_ok_iff.mpr h.record, rfl⟩
  | _ => exact ⟨fun h => (nomatch h), fun h => h.record.elim⟩

/-! ## Submissions -/

/-- A submission is an object with a version and a kind that is a document besides. -/
theorem Submitted.ofJson_eq_ok_iff {version kind : String} :
    Submitted.ofJson (.obj fields) = .ok ⟨version, kind, d⟩ ↔
      fields.lookup "apiVersion" = some (.str version) ∧
        fields.lookup "kind" = some (.str kind) ∧ IsDocument (.obj fields) d := by
  have htext {name t : String} : (∃ v, fields.lookup name = some v ∧ decodeText v = .ok t) ↔
      fields.lookup name = some (.str t) := by
    simp only [decodeText_eq_ok_iff, exists_eq_right]
  constructor
  · intro h
    obtain ⟨version?, hversion?, h⟩ := Except.bind_eq_ok.mp h
    obtain ⟨kind?, hkind?, h⟩ := Except.bind_eq_ok.mp h
    obtain ⟨_, hversion, h⟩ := Except.bind_eq_ok.mp h
    obtain ⟨_, hkind, h⟩ := Except.bind_eq_ok.mp h
    obtain ⟨_, hdocument, h⟩ := Except.bind_eq_ok.mp h
    cases h
    exact ⟨htext.mp (required_eq_ok_iff.mp ⟨version?, hversion?, hversion⟩),
      htext.mp (required_eq_ok_iff.mp ⟨kind?, hkind?, hkind⟩),
      decodeFields_eq_ok_iff.mp hdocument⟩
  · rintro ⟨hversion, hkind, hdocument⟩
    obtain ⟨version?, hversion?, hversion⟩ := required_eq_ok_iff.mpr (htext.mpr hversion)
    obtain ⟨kind?, hkind?, hkind⟩ := required_eq_ok_iff.mpr (htext.mpr hkind)
    refine Except.bind_eq_ok.mpr ⟨version?, hversion?, ?_⟩
    refine Except.bind_eq_ok.mpr ⟨kind?, hkind?, ?_⟩
    refine Except.bind_eq_ok.mpr ⟨version, hversion, ?_⟩
    refine Except.bind_eq_ok.mpr ⟨kind, hkind, ?_⟩
    exact Except.bind_eq_ok.mpr ⟨d, decodeFields_eq_ok_iff.mpr hdocument, rfl⟩

/-- A submission is never written as a list. -/
theorem Submitted.isDocument_of_ofJson {r : Submitted} (h : Submitted.ofJson j = .ok r) :
    IsDocument j r.document := by
  cases j with
  | obj fields => exact (Submitted.ofJson_eq_ok_iff.mp h).2.2
  | _ => cases h

/-- A document that is written alone reads back as it was. -/
theorem Document.ofJson_toJson (d : Document) : Document.ofJson d.toJson = .ok d :=
  decodeFields_of_lookup .alone d rfl rfl

/-! ## Written again -/

/-- The replicated jobs as they stand in a document. -/
def replicatedJobs? (j : Json) : Option Json :=
  (j.member? "spec" 1).bind fun s => s.member? "replicatedJobs" 1

/-- The jobs of a document are where they are looked for. -/
theorem IsDocument.replicatedJobs (h : IsDocument j d) :
    replicatedJobs? j = some (.arr d.replicatedJobs) := by
  obtain ⟨s, hs, hspec⟩ := h.spec
  rw [replicatedJobs?, hs]
  exact hspec.replicatedJobs

/-- A document with no field but its own on any level; `top` are those of the outermost. -/
structure Bare (top : List String) (j : Json) : Prop where
  top : j.HasJust top
  metadata : ∃ m, j.member? "metadata" 0 = some m ∧ m.HasJust ["annotations", "name"]
  spec : ∃ s, j.member? "spec" 1 = some s ∧ s.HasJust ["failurePolicy", "replicatedJobs"] ∧
    ∃ p, s.member? "failurePolicy" 0 = some p ∧ p.HasJust ["maxRestarts"]

/-- What is written of the document `d` that was read from `j`: the same document, its replicated
jobs as they stand in `j`, and nothing that no reader looks at. -/
structure Rewritten (top : List String) (j : Json) (d : Document) (written : Json) : Prop where
  source : IsDocument j d
  result : IsDocument written d
  jobs : replicatedJobs? j = some (.arr d.replicatedJobs)
  verbatim : replicatedJobs? written = replicatedJobs? j
  bare : Bare top written

/-- What is written for a document and reads back as it has kept its jobs word for word. -/
theorem IsDocument.rewritten {top : List String} {written : Json} (h : IsDocument j d)
    (hresult : IsDocument written d) (hbare : Bare top written) : Rewritten top j d written where
  source := h
  result := hresult
  jobs := h.replicatedJobs
  verbatim := hresult.replicatedJobs.trans h.replicatedJobs.symm
  bare := hbare

/-- A document is written with its own fields and no others. -/
theorem Document.bare_toJson (d : Document) : Bare ["metadata", "spec"] d.toJson where
  top := rfl
  metadata := ⟨d.metadataJson, rfl, rfl⟩
  spec := ⟨d.specJson, rfl, rfl, _, rfl, rfl⟩

/-- So is an object that is submitted, with its version and its kind. -/
theorem Submitted.bare_toJson (r : Submitted) :
    Bare ["apiVersion", "kind", "metadata", "spec"] r.toJson where
  top := rfl
  metadata := ⟨r.document.metadataJson, rfl, rfl⟩
  spec := ⟨r.document.specJson, rfl, rfl, _, rfl, rfl⟩

/-- What is written of a document reads back as that document, submitted or alone. Of every value
both readers accept the same documents, a submission having a version and a kind that are texts
besides; what they accept is the documents and nothing else. Written again, what was accepted reads
back as the same, keeps its replicated jobs as they were and loses what is not of a document. -/
theorem documents_survive_the_wire :
    (∀ (d : Document) (version : String),
      Submitted.ofJson (d.submit version).toJson = .ok ⟨version, "JobSet", d⟩ ∧
        Document.ofJson d.toJson = .ok d) ∧
    (∀ (j : Json) (d : Document), Document.ofJson j = .ok d ↔ IsDocument j d) ∧
    (∀ (fields : List (String × Json)) (version kind : String) (d : Document),
      Submitted.ofJson (.obj fields) = .ok ⟨version, kind, d⟩ ↔
        Document.ofJson (.obj fields) = .ok d ∧
          fields.lookup "apiVersion" = some (.str version) ∧
          fields.lookup "kind" = some (.str kind)) ∧
    (∀ (j : Json) (d : Document), Document.ofJson j = .ok d →
      Document.ofJson d.toJson = .ok d ∧ Rewritten ["metadata", "spec"] j d d.toJson) ∧
    (∀ (j : Json) (r : Submitted), Submitted.ofJson j = .ok r →
      Submitted.ofJson r.toJson = .ok r ∧
        Rewritten ["apiVersion", "kind", "metadata", "spec"] j r.document r.toJson) := by
  refine ⟨fun d version => ⟨?_, d.ofJson_toJson⟩, fun _ _ => Document.ofJson_eq_ok_iff, ?_, ?_, ?_⟩
  · exact Submitted.ofJson_toJson (d.submit version)
  · intro fields version kind d
    rw [Submitted.ofJson_eq_ok_iff, Document.ofJson_eq_ok_iff]
    exact ⟨fun ⟨hv, hk, hd⟩ => ⟨hd, hv, hk⟩, fun ⟨hd, hv, hk⟩ => ⟨hv, hk, hd⟩⟩
  · intro j d h
    have hsource : IsDocument j d := Document.ofJson_eq_ok_iff.mp h
    have hback : Document.ofJson d.toJson = .ok d := d.ofJson_toJson
    exact ⟨hback, hsource.rewritten (Document.ofJson_eq_ok_iff.mp hback) d.bare_toJson⟩
  · intro j r h
    have hsource : IsDocument j r.document := Submitted.isDocument_of_ofJson h
    have hback : Submitted.ofJson r.toJson = .ok r := Submitted.ofJson_toJson r
    have hresult : IsDocument r.toJson r.document := Submitted.isDocument_of_ofJson hback
    exact ⟨hback, hsource.rewritten hresult r.bare_toJson⟩

/-- A document whose records are lists, the annotations left out, among fields of its own. -/
example :
    (Document.ofJson (.obj [
      ("metadata", .arr [.str "job1"]),
      ("spec", .arr [.arr [nat 2], .arr [.null]]),
      ("status", .bool true)])).map Document.toJson = .ok (.obj [
        ("metadata", .obj [("annotations", .obj []), ("name", .str "job1")]),
        ("spec", .obj [
          ("failurePolicy", .obj [("maxRestarts", nat 2)]),
          ("replicatedJobs", .arr [.null])])]) := rfl

end JobSet

end JobLauncher
