import JobLauncher.Kube.Label

/-!
# Labels

The check of a label goes through the rules one by one, and looks at the first character apart from
the others. Taken together, the rules say what the header of the check says of labels, with no
regard to the order. The order decides what is said of a text that breaks more than one: the checks
are a search of it (`fault?_eq_find?`).

> `fault?_eq_none_iff`: a text breaks no rule exactly if it is a label.
>
> `label_or_first_broken`: a label is accepted, and any other text is refused for the first rule
> that it breaks.
-/

/-- One more rule that is not broken. -/
theorem Option.ite_some_eq_none_iff {α : Type} {p : Prop} [Decidable p] {a : α} {x : Option α} :
    (if p then some a else x) = none ↔ ¬p ∧ x = none := by
  by_cases hp : p
  · simp [hp]
  · simp [hp]

/-- A search tries its first candidate and goes on without it. -/
theorem List.find?_cons_eq_ite {α : Type} {p : α → Bool} {q : Prop} [Decidable q] {a : α}
    {as : List α} (h : p a = true ↔ q) :
    (a :: as).find? p = if q then some a else as.find? p := by
  by_cases hq : q
  · rw [if_pos hq, List.find?_cons_of_pos (h.mpr hq)]
  · rw [if_neg hq, List.find?_cons_of_neg (mt h.mp hq)]

namespace JobLauncher.Kube.Label

/-- A DNS label: 1 to 63 bytes of lower case letters, digits and hyphens, with no hyphen at either
end. -/
structure IsLabel (s : String) : Prop where
  bytes : 1 ≤ s.utf8ByteSize ∧ s.utf8ByteSize ≤ 63
  characters : ∀ c ∈ s.toList, ('a' ≤ c ∧ c ≤ 'z') ∨ ('0' ≤ c ∧ c ≤ '9') ∨ c = '-'
  start : s.toList.head? ≠ some '-'
  finish : s.toList.getLast? ≠ some '-'

/-- Which characters may stand anywhere in a label. -/
theorem isAlphanumeric_iff {c : Char} :
    isAlphanumeric c = true ↔ ('a' ≤ c ∧ c ≤ 'z') ∨ ('0' ≤ c ∧ c ≤ '9') := by
  have hlower : c.isLower = (decide ('a' ≤ c) && decide (c ≤ 'z')) := rfl
  have hdigit : c.isDigit = (decide ('0' ≤ c) && decide (c ≤ '9')) := rfl
  rw [isAlphanumeric, hlower, hdigit, Bool.or_eq_true, Bool.and_eq_true, Bool.and_eq_true,
    decide_eq_true_iff, decide_eq_true_iff, decide_eq_true_iff, decide_eq_true_iff]

theorem isInner_iff {c : Char} :
    isInner c = true ↔ ('a' ≤ c ∧ c ≤ 'z') ∨ ('0' ≤ c ∧ c ≤ '9') ∨ c = '-' := by
  rw [isInner, Bool.or_eq_true, isAlphanumeric_iff, beq_iff_eq, or_assoc]

/-- A label character that may stand at the start is one that is not a hyphen. -/
theorem isAlphanumeric_iff_isInner {c : Char} :
    isAlphanumeric c = true ↔ isInner c = true ∧ c ≠ '-' := by
  rw [isInner, Bool.or_eq_true, beq_iff_eq]
  constructor
  · intro h
    refine ⟨.inl h, ?_⟩
    rintro rfl
    exact absurd h (by decide)
  · rintro ⟨h, hne⟩
    exact h.resolve_right hne

/-- The rules as they are checked, of a text that is not empty. -/
theorem isLabel_iff {s : String} {first : Char} {rest : List Char} (hs : s.toList = first :: rest) :
    IsLabel s ↔ s.utf8ByteSize ≤ maxLength ∧ isAlphanumeric first = true
      ∧ (∀ c ∈ rest, isInner c = true) ∧ (first :: rest).getLast? ≠ some '-' := by
  have hne : s.utf8ByteSize ≠ 0 := by
    intro h
    rw [String.utf8ByteSize_eq_zero_iff.mp h] at hs
    cases hs
  constructor
  · rintro ⟨⟨-, hlength⟩, hcharacters, hstart, hfinish⟩
    rw [hs] at hcharacters hstart hfinish
    obtain ⟨hfirst, hrest⟩ := List.forall_mem_cons.mp hcharacters
    have hhyphen : first ≠ '-' := fun e => hstart (congrArg some e)
    exact ⟨hlength, isAlphanumeric_iff_isInner.mpr ⟨isInner_iff.mpr hfirst, hhyphen⟩,
      fun c hc => isInner_iff.mpr (hrest c hc), hfinish⟩
  · rintro ⟨hlength, hfirst, hrest, hfinish⟩
    obtain ⟨hinner, hhyphen⟩ := isAlphanumeric_iff_isInner.mp hfirst
    refine ⟨⟨Nat.one_le_iff_ne_zero.mpr hne, hlength⟩, ?_, ?_, by rwa [hs]⟩
    · rw [hs]
      exact List.forall_mem_cons.mpr
        ⟨isInner_iff.mp hinner, fun c hc => isInner_iff.mp (hrest c hc)⟩
    · rw [hs]
      exact fun e => hhyphen (Option.some.inj e)

theorem fault?_eq_none_iff {s : String} : fault? s = none ↔ IsLabel s := by
  unfold fault?
  cases hs : s.toList with
  | nil =>
    have hempty : ¬IsLabel s := by
      rintro ⟨⟨hlength, -⟩, -⟩
      rw [String.toList_eq_nil_iff.mp hs] at hlength
      cases hlength
    simp [hempty]
  | cons first rest =>
    rw [isLabel_iff hs]
    simp only [Option.ite_some_eq_none_iff, Bool.not_eq_true', Bool.not_eq_false, List.any_eq_true,
      not_exists, not_and, Nat.not_lt, and_true, ne_eq, gt_iff_lt]

/-- Labels are accepted, and nothing else is. -/
theorem check_eq_ok_iff {what s : String} : check what s = .ok () ↔ IsLabel s := by
  rw [← fault?_eq_none_iff, check]
  cases fault? s with
  | none => simp
  | some f => simp

/-- A text that is too long is refused for that, whatever else is wrong with it. -/
theorem fault?_of_tooLong {s : String} (h : maxLength < s.utf8ByteSize) :
    fault? s = some .tooLong := by
  unfold fault?
  cases hs : s.toList with
  | nil =>
    rw [String.toList_eq_nil_iff.mp hs] at h
    cases h
  | cons first rest => exact if_pos h

theorem message_tooLong (what s : String) :
    Fault.tooLong.message what s = what ++ " must be at most 63 characters: " ++ s := by
  have hlimit : toString maxLength = "63" := by decide +kernel
  have htext : what ++ " must be at most " ++ "63" ++ " characters: "
      = what ++ " must be at most 63 characters: " := by
    rw [String.append_assoc, String.append_assoc]
    rfl
  rw [Fault.message, hlimit, htext]

theorem check_of_tooLong {s : String} (h : maxLength < s.utf8ByteSize) (what : String) :
    check what s = .error (what ++ " must be at most 63 characters: " ++ s) := by
  rw [check, fault?_of_tooLong h, ← message_tooLong]

theorem IsLabel.toList_ne_nil {s : String} (h : IsLabel s) : s.toList ≠ [] := by
  intro hnil
  have hbytes := h.bytes.1
  rw [String.toList_eq_nil_iff.mp hnil] at hbytes
  cases hbytes

/-- A label goes on with characters of labels, the last of which is not a hyphen, for as long as
there is room. -/
theorem isLabel_append_iff {s t : String} (hs : IsLabel s)
    (hinner : ∀ c ∈ t.toList, isInner c = true) (hfinish : t.toList.getLast? ≠ some '-') :
    IsLabel (s ++ t) ↔ s.utf8ByteSize + t.utf8ByteSize ≤ maxLength := by
  rw [← String.utf8ByteSize_append]
  refine ⟨fun h => h.bytes.2,
    fun hlength => ⟨⟨?bytes, hlength⟩, fun c hc => ?characters, ?start, ?finish⟩⟩
  case bytes =>
    rw [String.utf8ByteSize_append]
    exact Nat.le_trans hs.bytes.1 (Nat.le_add_right _ _)
  case characters =>
    rw [String.toList_append] at hc
    rcases List.mem_append.mp hc with hc | hc
    · exact hs.characters c hc
    · exact isInner_iff.mp (hinner c hc)
  case start =>
    obtain ⟨first, rest, hfirst⟩ := List.exists_cons_of_ne_nil hs.toList_ne_nil
    have hstart := hs.start
    rw [String.toList_append, hfirst]
    rw [hfirst] at hstart
    exact hstart
  case finish =>
    rw [String.toList_append, List.getLast?_append]
    cases hlast : t.toList.getLast? with
    | none => exact hs.finish
    | some c =>
      rw [hlast] at hfinish
      exact hfinish

/-! ## The first rule that is broken -/

/-- The rules in the order in which they are checked. -/
def Fault.order : List Fault := [.empty, .tooLong, .badStart, .badCharacter, .badEnd]

/-- The text breaks the rule, whatever the others say of it. -/
def Fault.Broken (s : String) : Fault → Prop
  | .empty => s = ""
  | .tooLong => 63 < s.utf8ByteSize
  | .badStart => ∃ c, s.toList.head? = some c ∧ ¬(('a' ≤ c ∧ c ≤ 'z') ∨ ('0' ≤ c ∧ c ≤ '9'))
  | .badCharacter =>
    ∃ c ∈ s.toList.tail, ¬(('a' ≤ c ∧ c ≤ 'z') ∨ ('0' ≤ c ∧ c ≤ '9') ∨ c = '-')
  | .badEnd => s.toList.getLast? = some '-'

/-- The first rule that the text breaks. -/
structure FirstBroken (s : String) (f : Fault) : Prop where
  broken : f.Broken s
  first : ∃ before after, Fault.order = before ++ f :: after ∧ ∀ g ∈ before, ¬g.Broken s

/-- What the check of each rule tests. -/
def breaks (s : String) : Fault → Bool
  | .empty => s.toList.isEmpty
  | .tooLong => decide (s.utf8ByteSize > maxLength)
  | .badStart => s.toList.head?.any fun c => !isAlphanumeric c
  | .badCharacter => s.toList.tail.any fun c => !isInner c
  | .badEnd => s.toList.getLast? == some '-'

/-- A rule is broken exactly if its test fails. -/
theorem breaks_iff {s : String} {f : Fault} : breaks s f = true ↔ f.Broken s := by
  cases f with
  | empty => rw [breaks, Fault.Broken, List.isEmpty_iff, String.toList_eq_nil_iff]
  | tooLong => exact decide_eq_true_iff
  | badStart =>
    rw [breaks, Fault.Broken, Option.any_eq_true]
    refine exists_congr fun c => and_congr_right fun hc => ?_
    rw [Bool.not_eq_true', ← isAlphanumeric_iff, Bool.not_eq_true]
  | badCharacter =>
    rw [breaks, Fault.Broken, List.any_eq_true]
    refine exists_congr fun c => and_congr_right fun hc => ?_
    rw [Bool.not_eq_true', ← isInner_iff, Bool.not_eq_true]
  | badEnd => exact beq_iff_eq

/-- The checks are a search for the first rule that is broken. -/
theorem fault?_eq_find? (s : String) : fault? s = Fault.order.find? (breaks s) := by
  unfold fault? Fault.order
  cases hs : s.toList with
  | nil =>
    have hempty : breaks s .empty = true := by rw [breaks, hs]; rfl
    rw [List.find?_cons_of_pos hempty]
  | cons first rest =>
    have hempty : ¬breaks s .empty = true := by rw [breaks, hs]; exact Bool.false_ne_true
    have htooLong : breaks s .tooLong = true ↔ s.utf8ByteSize > maxLength := decide_eq_true_iff
    have hstart : breaks s .badStart = true ↔ !isAlphanumeric first := by rw [breaks, hs]; rfl
    have hcharacter : breaks s .badCharacter = true ↔ rest.any fun c => !isInner c := by
      rw [breaks, hs]
      rfl
    have hend : breaks s .badEnd = true ↔ (first :: rest).getLast? = some '-' := by
      rw [breaks, hs, beq_iff_eq]
    rw [List.find?_cons_of_neg hempty, List.find?_cons_eq_ite htooLong,
      List.find?_cons_eq_ite hstart, List.find?_cons_eq_ite hcharacter,
      List.find?_cons_eq_ite hend, List.find?_nil]

/-- What is refused is refused with the message of its fault. -/
theorem check_eq_error_iff {what s e : String} : check what s = .error e ↔
    ∃ f, fault? s = some f ∧ e = f.message what s := by
  unfold check
  cases fault? s with
  | none => simp
  | some f => simp [eq_comm]

/-- The fault that is found is the first rule that is broken. -/
theorem firstBroken_iff {s : String} {f : Fault} : fault? s = some f ↔ FirstBroken s f := by
  rw [fault?_eq_find?, List.find?_eq_some_iff_append, breaks_iff]
  simp only [Bool.not_eq_true', ← Bool.not_eq_true, breaks_iff]
  exact ⟨fun ⟨hbroken, hfirst⟩ => ⟨hbroken, hfirst⟩, fun h => ⟨h.broken, h.first⟩⟩

/-! ## What is said of it -/

/-- How a message goes on after what it is about. These ten characters tell the rules apart. -/
def Fault.opening : Fault → List Char
  | .empty => " cannot be".toList
  | .tooLong => " must be a".toList
  | .badStart => " must star".toList
  | .badCharacter => " must be l".toList
  | .badEnd => " cannot en".toList

/-- The ten characters are where they are said to be. -/
theorem Fault.opening_eq (what s : String) (f : Fault) :
    ((f.message what s).toList.drop what.toList.length).take 10 = f.opening := by
  cases f with
  | empty =>
    rw [message, String.toList_append, List.drop_left]
    rfl
  | tooLong =>
    rw [message_tooLong, String.toList_append, String.toList_append, List.append_assoc,
      List.drop_left]
    rfl
  | badStart | badCharacter | badEnd =>
    rw [message, String.toList_append, String.toList_append, List.append_assoc, List.drop_left]
    rfl

theorem Fault.mem_order (f : Fault) : f ∈ order := by
  cases f <;> decide

/-- So the message tells which rule it was. -/
theorem Fault.message_inj {what s : String} {f g : Fault}
    (h : f.message what s = g.message what s) : f = g := by
  have hopening : ∀ f ∈ order, ∀ g ∈ order, f.opening = g.opening → f = g := by decide
  refine hopening f f.mem_order g g.mem_order ?_
  rw [← f.opening_eq what s, ← g.opening_eq what s, h]

/-- Exactly the labels are accepted. Any other text is refused for the first rule that it breaks,
with the message of that rule. No two rules have the same message. -/
theorem label_or_first_broken (what s : String) :
    (check what s = .ok () ↔ IsLabel s)
    ∧ (∀ e, check what s = .error e ↔ ∃ f, FirstBroken s f ∧ e = f.message what s)
    ∧ (∀ f g : Fault, f.message what s = g.message what s → f = g)
    ∧ Fault.order.map (·.message what s) = [
      what ++ " cannot be empty",
      what ++ " must be at most 63 characters: " ++ s,
      what ++ " must start with a lowercase letter or digit: " ++ s,
      what ++ " must be lowercase alphanumeric with hyphens: " ++ s,
      what ++ " cannot end with hyphen: " ++ s] := by
  refine ⟨check_eq_ok_iff, fun e => ?refused, fun f g => Fault.message_inj, ?messages⟩
  case refused =>
    rw [check_eq_error_iff]
    exact exists_congr fun f => and_congr_left' firstBroken_iff
  case messages =>
    rw [← message_tooLong]
    rfl

/-- Of a capital, an underscore and hyphens at both ends, the hyphen at the start is found first. -/
example : check "job name" "-Job_1-"
    = .error "job name must start with a lowercase letter or digit: -Job_1-" := rfl

end JobLauncher.Kube.Label
