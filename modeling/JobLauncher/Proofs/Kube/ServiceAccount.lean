import JobLauncher.Kube.ServiceAccount
import JobLauncher.Proofs.Except

/-!
# References to service accounts

A reference has one of three forms (`Refers`): the name alone, the namespace and the name, or the
user name. What tells them apart is the number of colons in them: none, one, or the two of the
prefix and one more. The prefix is taken off before the namespace is looked for, and the namespace
may be missing even then. So one form more is read that is none of the three, the prefix and a name
(`Shortened`).

> `parse_accepts`: these four forms are read, each as what it says, and everything else is refused.
>
> `username_canonical`: the user name of an account that has been read refers to it again, and to no
> other.
-/

namespace JobLauncher.Kube.ServiceAccount

/-- A text that can be the namespace or the name of a reference. -/
def IsPart (s : String) : Prop := s ≠ "" ∧ ':' ∉ s.toList

/-- The forms that references are meant to have, and what they refer to. -/
inductive Refers : String → ServiceAccount → Prop where
  | bare {name : String} (hname : IsPart name) : Refers name ⟨"default", name⟩
  | qualified {ns name : String} (hns : IsPart ns) (hname : IsPart name) :
      Refers (ns ++ ":" ++ name) ⟨ns, name⟩
  | username {ns name : String} (hns : IsPart ns) (hname : IsPart name) :
      Refers ("system:serviceaccount:" ++ ns ++ ":" ++ name) ⟨ns, name⟩

/-- A user name whose namespace has been left out. -/
inductive Shortened : String → ServiceAccount → Prop where
  | mk {name : String} (hname : IsPart name) :
      Shortened ("system:serviceaccount:" ++ name) ⟨"default", name⟩

variable {account : String} {a : ServiceAccount}

/-! ## Colons -/

/-- How many colons there are in a text. -/
def colons (s : String) : Nat := s.toList.count ':'

theorem colons_append (s t : String) : colons (s ++ t) = colons s + colons t := by
  rw [colons, String.toList_append, List.count_append]
  rfl

theorem IsPart.colons_eq {s : String} (h : IsPart s) : colons s = 0 :=
  List.count_eq_zero.mpr h.2

theorem userPrefix_append (ns name : String) :
    "system:serviceaccount:" ++ ns ++ ":" ++ name = userPrefix ++ (ns ++ ":" ++ name) := by
  simp only [String.append_assoc]
  rfl

theorem colons_userPrefix : colons userPrefix = 2 := by decide +kernel

theorem isPart_default : IsPart "default" := ⟨by decide, by decide⟩

/-! ## What is read without the prefix -/

/-- A reference without the prefix: a name, perhaps after a namespace. -/
inductive Named : String → ServiceAccount → Prop where
  | bare {name : String} (hname : IsPart name) : Named name ⟨"default", name⟩
  | qualified {ns name : String} (hns : IsPart ns) (hname : IsPart name) :
      Named (ns ++ ":" ++ name) ⟨ns, name⟩

/-- A reference names two parts. -/
theorem Named.parts (h : Named account a) : IsPart a.ns ∧ IsPart a.name := by
  cases h with
  | bare hname => exact ⟨isPart_default, hname⟩
  | qualified hns hname => exact ⟨hns, hname⟩

/-- There are too few colons for the prefix. -/
theorem Named.colons_le (h : Named account a) : colons account ≤ 1 := by
  cases h with
  | bare hname => rw [hname.colons_eq]; exact Nat.zero_le 1
  | qualified hns hname =>
    have hcolon : colons ":" = 1 := by decide +kernel
    simp [colons_append, hns.colons_eq, hname.colons_eq, hcolon]

/-- The namespace and the name that a reference without the prefix is cut into. -/
def cutName (ref : String) : String × String :=
  (Text.cut? ':' ref).getD (defaultNamespace, ref)

/-- A reference is cut at its first colon. -/
theorem cut?_eq_some_iff {ref ns name : String} :
    Text.cut? ':' ref = some (ns, name) ↔ ref = ns ++ ":" ++ name ∧ ':' ∉ ns.toList := by
  have hcolon : (ns ++ ":" ++ name).toList = ns.toList ++ ':' :: name.toList := by simp
  rw [Text.cut?_eq_some_iff, ← hcolon, String.toList_inj]

theorem cut?_eq_none_iff {ref : String} : Text.cut? ':' ref = none ↔ ':' ∉ ref.toList := by
  rw [Text.cut?, Option.map_eq_none_iff, Text.cutList_eq_none_iff]

/-- What is named is what is cut out, if the parts are any. -/
theorem named_iff {ref : String} : Named ref a ↔
    cutName ref = (a.ns, a.name) ∧ a.ns ≠ "" ∧ IsPart a.name := by
  constructor
  · intro h
    cases h with
    | bare hname =>
      rw [cutName, cut?_eq_none_iff.mpr hname.2]
      exact ⟨rfl, isPart_default.1, hname⟩
    | qualified hns hname =>
      rw [cutName, cut?_eq_some_iff.mpr ⟨rfl, hns.2⟩]
      exact ⟨rfl, hns.1, hname⟩
  · rintro ⟨hcut, hns, hname⟩
    unfold cutName at hcut
    cases hfound : Text.cut? ':' ref with
    | none =>
      rw [hfound] at hcut
      obtain ⟨hdefault, rfl⟩ := Prod.mk.inj hcut
      have ha : a = ⟨"default", a.name⟩ := by rw [← show a.ns = "default" from hdefault.symm]
      rw [ha]
      exact .bare hname
    | some p =>
      rw [hfound] at hcut
      cases hcut
      obtain ⟨rfl, hcolon⟩ := cut?_eq_some_iff.mp hfound
      exact .qualified ⟨hns, hcolon⟩ hname

/-! ## What is read -/

/-- The reference that is left when the prefix has been taken off. -/
def withoutPrefix (account : String) : String := (Text.dropStart? userPrefix account).getD account

/-- The reference that a namespace and a name make up, unless they cannot be those of one. -/
def ofParts (account : String) (p : String × String) : Except Error ServiceAccount :=
  if p.1 = "" ∨ p.2 = "" ∨ Text.has ':' p.2 then .error (.auth account expected)
  else .ok ⟨p.1, p.2⟩

/-- Parsing takes off the prefix, cuts what is left and checks the two parts. -/
theorem parse_eq_ofParts : parse account = ofParts account (cutName (withoutPrefix account)) := rfl

/-- The namespace must not be empty, and the name has to be a part; that there is no colon in the
namespace is known from the cut. -/
theorem ofParts_eq_ok_iff {p : String × String} :
    ofParts account p = .ok a ↔ p = (a.ns, a.name) ∧ a.ns ≠ "" ∧ IsPart a.name := by
  have hparts : ¬(p.1 = "" ∨ p.2 = "" ∨ Text.has ':' p.2 = true) ↔ p.1 ≠ "" ∧ IsPart p.2 := by
    simp only [not_or, Text.has, List.contains_iff_mem]
    rfl
  unfold ofParts
  constructor
  · intro h
    split at h
    next => cases h
    next hok =>
      cases h
      exact ⟨rfl, hparts.mp hok⟩
  · rintro ⟨rfl, hns, hname⟩
    exact if_neg (hparts.mpr ⟨hns, hname⟩)

theorem parse_eq_ok_iff_named : parse account = .ok a ↔ Named (withoutPrefix account) a := by
  rw [parse_eq_ofParts, ofParts_eq_ok_iff, named_iff]

/-- There is one error, whatever is wrong. -/
theorem parse_eq_error {e : Error} (h : parse account = .error e) : e = .auth account expected := by
  rw [parse_eq_ofParts, ofParts] at h
  split at h
  next => exact (Except.error.inj h).symm
  next => cases h

/-- The prefix is taken off once. -/
theorem withoutPrefix_append (rest : String) : withoutPrefix (userPrefix ++ rest) = rest := by
  have hdrop : Text.dropStart? userPrefix (userPrefix ++ rest) = some rest := by
    rw [Text.dropStart?, Text.dropStartList_eq_some_iff.mpr String.toList_append, Option.map_some,
      String.ofList_toList]
  rw [withoutPrefix, hdrop, Option.getD_some]

/-- Either there is the prefix, or nothing is taken off. -/
theorem withoutPrefix_cases (account : String) :
    account = userPrefix ++ withoutPrefix account ∨ withoutPrefix account = account := by
  unfold withoutPrefix Text.dropStart?
  cases hdrop : Text.dropStartList userPrefix.toList account.toList with
  | none => exact .inr rfl
  | some rest =>
    refine .inl ?_
    rw [← String.toList_inj, String.toList_append, Text.dropStartList_eq_some_iff.mp hdrop]
    simp

/-- A reference with too few colons has no prefix. -/
theorem Named.withoutPrefix_eq (h : Named account a) : withoutPrefix account = account := by
  refine (withoutPrefix_cases account).resolve_left fun hprefix => ?_
  have hcolons : colons account = 2 + colons (withoutPrefix account) := by
    rw [← colons_userPrefix, ← colons_append, ← hprefix]
  have hle : colons account ≤ 1 := h.colons_le
  omega

/-- What is read: a reference without the prefix, and one with it. -/
theorem named_withoutPrefix_iff : Named (withoutPrefix account) a
    ↔ Named account a ∨ ∃ rest, account = userPrefix ++ rest ∧ Named rest a := by
  constructor
  · intro h
    rcases withoutPrefix_cases account with hprefix | hnone
    · exact .inr ⟨_, hprefix, h⟩
    · rw [hnone] at h
      exact .inl h
  · rintro (h | ⟨rest, rfl, h⟩)
    · rw [h.withoutPrefix_eq]
      exact h
    · rw [withoutPrefix_append]
      exact h

/-- These are the three forms and the one that is left over. -/
theorem refers_or_shortened_iff : Refers account a ∨ Shortened account a
    ↔ Named account a ∨ ∃ rest, account = userPrefix ++ rest ∧ Named rest a := by
  constructor
  · rintro (h | h)
    · cases h with
      | bare hname => exact .inl (.bare hname)
      | qualified hns hname => exact .inl (.qualified hns hname)
      | @username ns name hns hname =>
        exact .inr ⟨ns ++ ":" ++ name, userPrefix_append ns name, .qualified hns hname⟩
    · cases h with
      | @mk name hname => exact .inr ⟨name, rfl, .bare hname⟩
  · rintro (h | ⟨rest, rfl, h⟩)
    · cases h with
      | bare hname => exact .inl (.bare hname)
      | qualified hns hname => exact .inl (.qualified hns hname)
    · cases h with
      | bare hname => exact .inr (.mk hname)
      | qualified hns hname =>
        rw [← userPrefix_append]
        exact .inl (.username hns hname)

/-- An account is read from a reference as it is meant to be, or from a user name that lacks its
namespace. -/
theorem parse_eq_ok_iff : parse account = .ok a ↔ Refers account a ∨ Shortened account a := by
  rw [parse_eq_ok_iff_named, named_withoutPrefix_iff, refers_or_shortened_iff]

/-- The forms differ in how many colons they have, so none of the three is the shortened one. -/
theorem Shortened.not_refers {b : ServiceAccount} (h : Shortened account a) :
    ¬Refers account b := by
  have hcolon : colons ":" = 1 := by decide +kernel
  have hprefix : colons "system:serviceaccount:" = 2 := colons_userPrefix
  have htwo : colons account = 2 := by
    cases h with
    | mk hname => rw [colons_append, hprefix, hname.colons_eq]
  intro hrefers
  cases hrefers with
  | bare hname =>
    rw [hname.colons_eq] at htwo
    omega
  | qualified hns hname =>
    rw [colons_append, colons_append, hns.colons_eq, hname.colons_eq, hcolon] at htwo
    omega
  | username hns hname =>
    rw [colons_append, colons_append, colons_append, hprefix, hns.colons_eq, hname.colons_eq,
      hcolon] at htwo
    omega

/-- A reference is read exactly if it has one of the three forms or is a user name without its
namespace, and it is read as what it says. Everything else is refused, and the error is about the
account. -/
theorem parse_accepts (account : String) :
    (∀ a, parse account = .ok a ↔ Refers account a ∨ Shortened account a)
    ∧ ∀ e, parse account = .error e ↔ (∀ a, ¬(Refers account a ∨ Shortened account a))
      ∧ e = .auth account
        "expected <name>, <namespace>:<name> or system:serviceaccount:<namespace>:<name>" := by
  refine ⟨fun a => parse_eq_ok_iff, fun e => ?_⟩
  constructor
  · intro h
    refine ⟨fun a ha => ?_, parse_eq_error h⟩
    rw [parse_eq_ok_iff.mpr ha] at h
    cases h
  · rintro ⟨hnone, rfl⟩
    cases hparse : parse account with
    | ok a => exact absurd (parse_eq_ok_iff.mp hparse) (hnone a)
    | error e =>
      rw [parse_eq_error hparse]
      rfl

/-- A user name without its namespace is read, though it has none of the three forms. -/
theorem parse_accepts_shortened :
    parse "system:serviceaccount:trainer" = .ok ⟨"default", "trainer"⟩
    ∧ ∀ a, ¬Refers "system:serviceaccount:trainer" a := by
  have hname : IsPart "trainer" := ⟨by decide, by decide⟩
  have hshortened : Shortened "system:serviceaccount:trainer" ⟨"default", "trainer"⟩ := .mk hname
  exact ⟨parse_eq_ok_iff.mpr (.inr hshortened), fun a => hshortened.not_refers⟩

/-! ## User names -/

/-- What has been read is made of two parts. -/
theorem parts_of_parse (h : parse account = .ok a) : IsPart a.ns ∧ IsPart a.name :=
  (parse_eq_ok_iff_named.mp h).parts

/-- The user name of an account refers to it again. -/
theorem parse_username (h : parse account = .ok a) : parse a.username = .ok a := by
  obtain ⟨hns, hname⟩ := parts_of_parse h
  exact parse_eq_ok_iff.mpr (.inl (.username hns hname))

/-- Of two accounts that have been read, each can be told by its user name. -/
theorem username_inj {account' : String} {a' : ServiceAccount} (h : parse account = .ok a)
    (h' : parse account' = .ok a') : a.username = a'.username ↔ a = a' := by
  constructor
  · intro heq
    have hread : parse a'.username = .ok a := by rw [← heq, parse_username h]
    rw [parse_username h'] at hread
    exact (Except.ok.inj hread).symm
  · exact congrArg username

/-- However an account was referred to, its parts are those of a reference, its user name and its
namespace with its name refer to it again, and its user name is that of no other account and stays
as it is when it is read and written. -/
theorem username_canonical (h : parse account = .ok a) :
    parse a.username = .ok a
    ∧ parse (a.ns ++ ":" ++ a.name) = .ok a
    ∧ (a.ns ≠ "" ∧ ':' ∉ a.ns.toList) ∧ (a.name ≠ "" ∧ ':' ∉ a.name.toList)
    ∧ (∀ account' a', parse account' = .ok a' → (a.username = a'.username ↔ a = a'))
    ∧ ∀ name, (parse account).map username = .ok name → (parse name).map username = .ok name := by
  obtain ⟨hns, hname⟩ := parts_of_parse h
  have husername : parse a.username = .ok a := parse_username h
  refine ⟨husername, parse_eq_ok_iff.mpr (.inl (.qualified hns hname)), hns, hname,
    fun account' a' h' => username_inj h h', fun name hwritten => ?_⟩
  rw [h] at hwritten
  obtain rfl : a.username = name := Except.ok.inj hwritten
  rw [husername]
  rfl

/-- A namespace and a name that look like the parts of the prefix. -/
theorem username_canonical_lookalike :
    parse "system:serviceaccount" = .ok ⟨"system", "serviceaccount"⟩
    ∧ parse "system:serviceaccount:system:serviceaccount" = .ok ⟨"system", "serviceaccount"⟩
    ∧ (parse "system:serviceaccount").map username
      = .ok "system:serviceaccount:system:serviceaccount" := by
  have hsystem : IsPart "system" := ⟨by decide, by decide⟩
  have hname : IsPart "serviceaccount" := ⟨by decide, by decide⟩
  have hread : parse "system:serviceaccount" = .ok ⟨"system", "serviceaccount"⟩ :=
    parse_eq_ok_iff.mpr (.inl (.qualified hsystem hname))
  obtain ⟨husername, -⟩ := username_canonical hread
  refine ⟨hread, husername, ?_⟩
  rw [hread]
  rfl

end JobLauncher.Kube.ServiceAccount
