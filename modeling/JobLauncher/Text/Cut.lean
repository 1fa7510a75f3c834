/-!
# Cutting text

Operations that take a text apart at a given place. Each is defined on the list of characters and
says by an equation how the parts make up the whole.
-/

namespace JobLauncher.Text

/-- The characters before the first `sep` and those after it, if there is one. -/
def cutList (sep : Char) : List Char → Option (List Char × List Char)
  | [] => none
  | c :: rest =>
    if c = sep then some ([], rest)
    else (cutList sep rest).map fun p => (c :: p.1, p.2)

/-- The text before the first `sep` and the text after it, if there is one. -/
def cut? (sep : Char) (s : String) : Option (String × String) :=
  (cutList sep s.toList).map fun p => (String.ofList p.1, String.ofList p.2)

/-- What follows `start` in a list that begins with it. -/
def dropStartList [DecidableEq α] : List α → List α → Option (List α)
  | [], cs => some cs
  | _ :: _, [] => none
  | p :: ps, c :: cs => if p = c then dropStartList ps cs else none

/-- What follows `start` in a text that begins with it. -/
def dropStart? (start s : String) : Option String :=
  (dropStartList start.toList s.toList).map String.ofList

/-- The text begins with `start`. -/
def startsWith (start s : String) : Bool := (dropStart? start s).isSome

/-- The text ends with `ending`. -/
def endsWith (ending s : String) : Bool :=
  (dropStartList ending.toList.reverse s.toList.reverse).isSome

/-- The text without the characters at its end that satisfy `p`. -/
def dropEndWhile (p : Char → Bool) (s : String) : String :=
  String.ofList (s.toList.reverse.dropWhile p).reverse

/-- Whether `c` occurs in the text. -/
def has (c : Char) (s : String) : Bool := s.toList.contains c

/-- The pieces of a list between occurrences of `sep`; always at least one. -/
def splitList (sep : Char) : List Char → List (List Char)
  | [] => [[]]
  | c :: rest =>
    if c = sep then [] :: splitList sep rest
    else match splitList sep rest with
      | [] => [[c]]
      | piece :: more => (c :: piece) :: more

/-- The pieces of a text between occurrences of `sep`; always at least one. -/
def split (sep : Char) (s : String) : List String :=
  (splitList sep s.toList).map String.ofList

/-- The texts one after another with `sep` between them. -/
def join (sep : String) : List String → String
  | [] => ""
  | [s] => s
  | s :: rest => s ++ sep ++ join sep rest

theorem eq_append_of_cutList {sep : Char} {l a b : List Char} (h : cutList sep l = some (a, b)) :
    l = a ++ sep :: b ∧ sep ∉ a := by
  induction l generalizing a with
  | nil => simp [cutList] at h
  | cons c rest ih =>
    simp only [cutList] at h
    split at h
    next hc => simp_all
    next hc =>
      obtain ⟨p, hp, he⟩ := Option.map_eq_some_iff.mp h
      obtain ⟨h₁, h₂⟩ := Prod.mk.inj he
      obtain ⟨ih₁, ih₂⟩ := ih (a := p.1) (by rw [hp, ← h₂])
      subst h₁
      refine ⟨by simp [ih₁], ?_⟩
      simp only [List.mem_cons, not_or]
      exact ⟨fun e => hc e.symm, ih₂⟩

theorem cutList_append {sep : Char} {a : List Char} (b : List Char) (h : sep ∉ a) :
    cutList sep (a ++ sep :: b) = some (a, b) := by
  induction a with
  | nil => simp [cutList]
  | cons c rest ih =>
    simp only [List.mem_cons, not_or] at h
    have hc : ¬ c = sep := fun e => h.1 e.symm
    simp [cutList, hc, ih h.2]

theorem cutList_eq_none_iff {sep : Char} {l : List Char} : cutList sep l = none ↔ sep ∉ l := by
  induction l with
  | nil => simp [cutList]
  | cons c rest ih =>
    by_cases hc : c = sep
    · simp [cutList, hc]
    · simp [cutList, hc, ih, eq_comm (a := sep)]

theorem cut?_eq_some_iff {sep : Char} {s a b : String} :
    cut? sep s = some (a, b) ↔ s.toList = a.toList ++ sep :: b.toList ∧ sep ∉ a.toList := by
  unfold cut?
  constructor
  · intro h
    obtain ⟨p, hp, he⟩ := Option.map_eq_some_iff.mp h
    obtain ⟨rfl, rfl⟩ := Prod.mk.inj he
    rw [String.toList_ofList, String.toList_ofList]
    exact eq_append_of_cutList (a := p.1) (b := p.2) hp
  · rintro ⟨hs, ha⟩
    rw [hs, cutList_append _ ha]
    simp

theorem dropStartList_eq_some_iff [DecidableEq α] {p l r : List α} :
    dropStartList p l = some r ↔ l = p ++ r := by
  induction p generalizing l with
  | nil => simp [dropStartList]
  | cons x xs ih =>
    cases l with
    | nil => simp [dropStartList]
    | cons y ys =>
      by_cases h : x = y
      · simp [dropStartList, h, ih]
      · simp [dropStartList, h, eq_comm (a := y)]

end JobLauncher.Text
