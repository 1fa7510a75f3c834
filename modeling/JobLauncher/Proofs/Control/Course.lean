import JobLauncher.Program

/-!
# Courses of programs

A program goes through rounds, each of them a question and its answer, until it is done. `Course`
holds of the rounds and the result of every such course, whatever the answers: nothing is assumed of
who gives them, and every run is one of them (`course_run`). What programs in a row go through, and
programs whose questions are answered by other programs, follows from what their parts go through
(`course_bind`, `course_inTurn`, `course_refine`). `Every` holds of a program that asks nothing but
what has a property.
-/

namespace JobLauncher.Program

variable {Op : Type} {Answer : Op → Type} {Op' : Type} {Answer' : Op' → Type} {α β σ : Type}

/-- A question with its answer. -/
abbrev Round (Op : Type) (Answer : Op → Type) : Type := (op : Op) × Answer op

/-- The questions that a run asks, each with its answer. -/
def rounds (answer : (op : Op) → σ → Answer op × σ) :
    Program Op Answer α → σ → List (Round Op Answer)
  | .done _, _ => []
  | .ask op next, s =>
    let reply := answer op s
    ⟨op, reply.1⟩ :: (next reply.1).rounds answer reply.2

/-- The program may go through these rounds and end with this result. -/
inductive Course : Program Op Answer α → List (Round Op Answer) → α → Prop where
  | done (a : α) : Course (.done a) [] a
  | ask {op : Op} {next : Answer op → Program Op Answer α} {rs : List (Round Op Answer)} {a : α}
      (answer : Answer op) (rest : Course (next answer) rs a) :
      Course (.ask op next) (⟨op, answer⟩ :: rs) a

variable {p : Program Op Answer α} {rs : List (Round Op Answer)} {a : α} {b : β}

/-- The questions of the rounds are the questions of the run. -/
theorem map_fst_rounds (answer : (op : Op) → σ → Answer op × σ) (p : Program Op Answer α) (s : σ) :
    (p.rounds answer s).map (·.1) = p.questions answer s := by
  induction p generalizing s with
  | done a => rfl
  | ask op next ih => exact congrArg (op :: ·) (ih _ _)

/-- Two programs in a row go through the rounds of the first, then those of the second. -/
theorem rounds_bind (answer : (op : Op) → σ → Answer op × σ) (p : Program Op Answer α)
    (f : α → Program Op Answer β) (s : σ) :
    (p.bind f).rounds answer s
      = p.rounds answer s ++ (f (p.run answer s).1).rounds answer (p.run answer s).2 := by
  induction p generalizing s with
  | done a => rfl
  | ask op next ih => exact congrArg (List.cons _) (ih _ _)

/-- Every run takes a course of the program. -/
theorem course_run (answer : (op : Op) → σ → Answer op × σ) (p : Program Op Answer α) (s : σ) :
    Course p (p.rounds answer s) (p.run answer s).1 := by
  induction p generalizing s with
  | done a => exact .done a
  | ask op next ih => exact .ask _ (ih _ _)

@[simp] theorem course_done {a a' : α} :
    Course (.done a : Program Op Answer α) rs a' ↔ rs = [] ∧ a' = a := by
  constructor
  · intro h
    cases h
    exact ⟨rfl, rfl⟩
  · rintro ⟨rfl, rfl⟩
    exact .done _

/-- A program that asks goes through one round and what comes after its answer. -/
theorem course_ask {op : Op} {next : Answer op → Program Op Answer α} :
    Course (.ask op next) rs a
      ↔ ∃ answer rest, rs = ⟨op, answer⟩ :: rest ∧ Course (next answer) rest a := by
  constructor
  · intro h
    cases h with
    | ask answer rest => exact ⟨answer, _, rfl, rest⟩
  · rintro ⟨answer, rest, rfl, h⟩
    exact .ask answer h

/-- One question is one round. -/
theorem course_question {op : Op} {answer : Answer op} :
    Course (question op) rs answer ↔ rs = [⟨op, answer⟩] := by
  simp only [question, course_ask, course_done]
  constructor
  · rintro ⟨reply, rest, rfl, rfl, rfl⟩
    rfl
  · rintro rfl
    exact ⟨answer, [], rfl, rfl, rfl⟩

/-- So do their courses. -/
theorem course_bind {f : α → Program Op Answer β} :
    Course (p.bind f) rs b
      ↔ ∃ before a after, rs = before ++ after ∧ Course p before a ∧ Course (f a) after b := by
  induction p generalizing rs with
  | done a =>
    constructor
    · intro h
      exact ⟨[], a, rs, rfl, .done a, h⟩
    · rintro ⟨before, a', after, rfl, hfirst, hsecond⟩
      obtain ⟨rfl, rfl⟩ := course_done.mp hfirst
      exact hsecond
  | ask op next ih =>
    constructor
    · intro h
      obtain ⟨answer, rest, rfl, hnext⟩ := course_ask.mp h
      obtain ⟨before, a, after, rfl, hfirst, hsecond⟩ := (ih answer).mp hnext
      exact ⟨⟨op, answer⟩ :: before, a, after, rfl, .ask answer hfirst, hsecond⟩
    · rintro ⟨before, a, after, rfl, hfirst, hsecond⟩
      obtain ⟨answer, rest, rfl, hnext⟩ := course_ask.mp hfirst
      exact .ask answer ((ih answer).mpr ⟨rest, a, after, rfl, hnext, hsecond⟩)

/-- Whatever the program may ask has the property, whatever the answers. -/
def Every (P : Op → Prop) : Program Op Answer α → Prop
  | .done _ => True
  | .ask op next => P op ∧ ∀ answer, (next answer).Every P

/-- A program asks such questions if both its parts do. -/
theorem Every.bind {P : Op → Prop} {f : α → Program Op Answer β} (hp : p.Every P)
    (hf : ∀ a, (f a).Every P) : (p.bind f).Every P := by
  induction p with
  | done a => exact hf a
  | ask op next ih => exact ⟨hp.1, fun answer => ih answer (hp.2 answer)⟩

/-- Whatever course such a program takes, only such questions are in it. -/
theorem Every.of_course {P : Op → Prop} (hp : p.Every P) (h : Course p rs a) :
    ∀ r ∈ rs, P r.1 := by
  induction h with
  | done a => exact List.forall_mem_nil _
  | ask answer rest ih => exact List.forall_mem_cons.mpr ⟨hp.1, ih (hp.2 answer)⟩

/-- The questions may be answered by programs that ask something else. -/
theorem Every.refine {P : Op → Prop} {Q : Op' → Prop}
    {step : (op : Op) → Program Op' Answer' (Answer op)} (hp : p.Every P)
    (hstep : ∀ op, P op → (step op).Every Q) : (p.refine step).Every Q := by
  induction p with
  | done a => exact trivial
  | ask op next ih => exact (hstep op hp.1).bind fun answer => ih answer (hp.2 answer)

/-- What becomes of rounds when each question is answered by a program: one course of that program
for each of them. -/
inductive Refined (step : (op : Op) → Program Op' Answer' (Answer op)) :
    List (Round Op Answer) → List (Round Op' Answer') → Prop where
  | nil : Refined step [] []
  | cons {op : Op} {answer : Answer op} {rs : List (Round Op Answer)}
      {first rest : List (Round Op' Answer')} (hfirst : Course (step op) first answer)
      (hrest : Refined step rs rest) : Refined step (⟨op, answer⟩ :: rs) (first ++ rest)

theorem Refined.eq_nil {step : (op : Op) → Program Op' Answer' (Answer op)}
    {rs' : List (Round Op' Answer')} (h : Refined step [] rs') : rs' = [] := by
  cases h
  rfl

/-- Where one question is asked for each question, the rounds stand for each other one by one. -/
theorem Refined.eq_map {step : (op : Op) → Program Op' Answer' (Answer op)}
    {lift : Round Op Answer → Round Op' Answer'}
    (hstep : ∀ op answer rs', Course (step op) rs' answer → rs' = [lift ⟨op, answer⟩])
    {rs' : List (Round Op' Answer')} (h : Refined step rs rs') : rs' = rs.map lift := by
  induction h with
  | nil => rfl
  | cons hfirst hrest ih =>
    rw [hstep _ _ _ hfirst, ih]
    rfl

/-- Questions that stand for others have a property if all programs for these have it. -/
theorem Refined.every {step : (op : Op) → Program Op' Answer' (Answer op)} {Q : Op' → Prop}
    {rs' : List (Round Op' Answer')} (h : Refined step rs rs')
    (hstep : ∀ r ∈ rs, (step r.1).Every Q) : ∀ r ∈ rs', Q r.1 := by
  induction h with
  | nil => exact List.forall_mem_nil _
  | cons hfirst hrest ih =>
    obtain ⟨hhead, htail⟩ := List.forall_mem_cons.mp hstep
    exact List.forall_mem_append.mpr ⟨hhead.of_course hfirst, ih htail⟩

/-- A program whose questions are answered by programs goes through their rounds, in the order of
its own. -/
theorem course_refine {step : (op : Op) → Program Op' Answer' (Answer op)}
    {rs' : List (Round Op' Answer')} :
    Course (p.refine step) rs' a ↔ ∃ rs, Course p rs a ∧ Refined step rs rs' := by
  induction p generalizing rs' with
  | done a₀ =>
    constructor
    · intro h
      obtain ⟨rfl, rfl⟩ := course_done.mp h
      exact ⟨[], .done a, .nil⟩
    · rintro ⟨rs, hp, hrefined⟩
      obtain ⟨rfl, rfl⟩ := course_done.mp hp
      cases hrefined
      exact .done a
  | ask op next ih =>
    constructor
    · intro h
      obtain ⟨first, answer, rest, rfl, hfirst, hnext⟩ := course_bind.mp h
      obtain ⟨rs, hp, hrefined⟩ := (ih answer).mp hnext
      exact ⟨⟨op, answer⟩ :: rs, .ask answer hp, .cons hfirst hrefined⟩
    · rintro ⟨rs, hp, hrefined⟩
      obtain ⟨answer, rest, rfl, hnext⟩ := course_ask.mp hp
      cases hrefined with
      | cons hfirst hrest =>
        exact course_bind.mpr ⟨_, answer, _, rfl, hfirst, (ih answer).mpr ⟨rest, hnext, hrest⟩⟩

/-- A program whose result is put another way goes through the same rounds. -/
theorem course_map {f : α → β} :
    Course (p.bind fun a => .done (f a)) rs b ↔ ∃ a, Course p rs a ∧ b = f a := by
  constructor
  · intro h
    obtain ⟨before, a, after, rfl, hp, hdone⟩ := course_bind.mp h
    obtain ⟨rfl, rfl⟩ := course_done.mp hdone
    rw [List.append_nil]
    exact ⟨a, hp, rfl⟩
  · rintro ⟨a, hp, rfl⟩
    exact course_bind.mpr ⟨rs, a, [], (List.append_nil rs).symm, hp, .done (f a)⟩

/-! ## Programs one after another -/

/-- Runs programs one after another, each whatever came of those before it. -/
def inTurn : List (Program Op Answer α) → Program Op Answer (List α)
  | [] => .done []
  | p :: ps => p.bind fun a => (inTurn ps).bind fun as => .done (a :: as)

/-- Programs in a row ask such questions if each of them does. -/
theorem Every.inTurn {P : Op → Prop} {ps : List (Program Op Answer α)}
    (h : ∀ p ∈ ps, p.Every P) : (inTurn ps).Every P := by
  induction ps with
  | nil => exact trivial
  | cons p ps ih =>
    obtain ⟨hfirst, hrest⟩ := List.forall_mem_cons.mp h
    exact hfirst.bind fun a => (ih hrest).bind fun as => trivial

/-- The rounds and the results of a list, one element after another, where `R` holds of those of
each element. -/
inductive InTurn {ι : Type} (R : ι → List (Round Op Answer) → α → Prop) :
    List ι → List (Round Op Answer) → List α → Prop where
  | nil : InTurn R [] [] []
  | cons {i : ι} {is : List ι} {before after : List (Round Op Answer)} {a : α} {as : List α}
      (first : R i before a) (rest : InTurn R is after as) :
      InTurn R (i :: is) (before ++ after) (a :: as)

section

variable {ι : Type} {R : ι → List (Round Op Answer) → α → Prop} {is : List ι} {as : List α}

/-- Programs in a row go through the rounds of each of them, one after another. -/
theorem course_inTurn {program : ι → Program Op Answer α}
    (h : ∀ i rs a, Course (program i) rs a ↔ R i rs a) :
    Course (inTurn (is.map program)) rs as ↔ InTurn R is rs as := by
  induction is generalizing rs as with
  | nil =>
    constructor
    · intro hdone
      obtain ⟨rfl, rfl⟩ := course_done.mp hdone
      exact .nil
    · rintro ⟨⟩
      exact .done []
  | cons i is ih =>
    constructor
    · intro hboth
      obtain ⟨before, a, rest, rfl, hfirst, hrest⟩ := course_bind.mp hboth
      obtain ⟨as, has, rfl⟩ := course_map.mp hrest
      exact .cons ((h i before a).mp hfirst) (ih.mp has)
    · intro hboth
      cases hboth with
      | @cons _ _ before after a as first rest =>
        refine course_bind.mpr ⟨before, a, after, rfl, (h i before a).mpr first, ?_⟩
        exact course_map.mpr ⟨as, ih.mpr rest, rfl⟩

/-- What is asked for the elements, one after another. -/
theorem InTurn.questions_eq {asks : ι → List Op} (hR : ∀ i rs a, R i rs a → rs.map (·.1) = asks i)
    (h : InTurn R is rs as) : rs.map (·.1) = is.flatMap asks := by
  induction h with
  | nil => rfl
  | cons first rest ih => rw [List.map_append, List.flatMap_cons, hR _ _ _ first, ih]

/-- What holds of the rounds of each element holds of all. -/
theorem InTurn.every {P : Op → Prop} (hR : ∀ i rs a, R i rs a → ∀ r ∈ rs, P r.1)
    (h : InTurn R is rs as) : ∀ r ∈ rs, P r.1 := by
  induction h with
  | nil => exact List.forall_mem_nil _
  | cons first rest ih => exact List.forall_mem_append.mpr ⟨hR _ _ _ first, ih⟩

end

end JobLauncher.Program
