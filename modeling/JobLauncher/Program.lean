/-!
# Programs that ask

A `Program` is a computation that puts questions to its surroundings and goes on with the answers.
It does nothing by itself: whoever runs it decides how each question is answered, by a model, by a
program of a lower level, or by the real world. What a program asks, and in which order, is
therefore a matter of its definition alone.
-/

namespace JobLauncher

/-- A computation with a result in `α` whose questions are taken from `Op`; the type of an answer
depends on the question. -/
inductive Program (Op : Type) (Answer : Op → Type) (α : Type) where
  | done (a : α)
  | ask (op : Op) (next : Answer op → Program Op Answer α)

namespace Program

variable {Op : Type} {Answer : Op → Type} {Op' : Type} {Answer' : Op' → Type} {α β γ σ : Type}

/-- Runs one program and goes on with its result. -/
def bind (p : Program Op Answer α) (f : α → Program Op Answer β) : Program Op Answer β :=
  match p with
  | .done a => f a
  | .ask op next => .ask op fun answer => (next answer).bind f

instance : Monad (Program Op Answer) where
  pure := done
  bind := bind

/-- Asks one question and gives the answer. -/
def question (op : Op) : Program Op Answer (Answer op) := .ask op .done

/-- Runs a program whose questions are answered from a state. -/
def run (answer : (op : Op) → σ → Answer op × σ) : Program Op Answer α → σ → α × σ
  | .done a, s => (a, s)
  | .ask op next, s =>
    let reply := answer op s
    (next reply.1).run answer reply.2

/-- Runs a program whose questions are answered in a monad. -/
def runIn {m : Type → Type} [Monad m] (answer : (op : Op) → m (Answer op)) :
    Program Op Answer α → m α
  | .done a => pure a
  | .ask op next => do
    let reply ← answer op
    (next reply).runIn answer

/-- Replaces each question by a program that finds its answer. -/
def refine (step : (op : Op) → Program Op' Answer' (Answer op)) :
    Program Op Answer α → Program Op' Answer' α
  | .done a => .done a
  | .ask op next => (step op).bind fun answer => (next answer).refine step

/-- The questions that a run asks, in order. -/
def questions (answer : (op : Op) → σ → Answer op × σ) : Program Op Answer α → σ → List Op
  | .done _, _ => []
  | .ask op next, s =>
    let reply := answer op s
    op :: (next reply.1).questions answer reply.2

@[simp] theorem pure_eq (a : α) : (pure a : Program Op Answer α) = .done a := rfl

@[simp] theorem bind_eq (p : Program Op Answer α) (f : α → Program Op Answer β) :
    p >>= f = p.bind f := rfl

@[simp] theorem done_bind (a : α) (f : α → Program Op Answer β) : (done a).bind f = f a := rfl

@[simp] theorem ask_bind (op : Op) (next : Answer op → Program Op Answer α)
    (f : α → Program Op Answer β) :
    (ask op next).bind f = ask op fun answer => (next answer).bind f := rfl

@[simp] theorem bind_done (p : Program Op Answer α) : p.bind done = p := by
  induction p with
  | done a => rfl
  | ask op next ih => simp [ih]

theorem bind_assoc (p : Program Op Answer α) (f : α → Program Op Answer β)
    (g : β → Program Op Answer γ) : (p.bind f).bind g = p.bind fun a => (f a).bind g := by
  induction p with
  | done a => rfl
  | ask op next ih => simp [ih]

/-- A run of two programs in a row is a run of the second after one of the first. -/
theorem run_bind (answer : (op : Op) → σ → Answer op × σ) (p : Program Op Answer α)
    (f : α → Program Op Answer β) (s : σ) :
    (p.bind f).run answer s = (f (p.run answer s).1).run answer (p.run answer s).2 := by
  induction p generalizing s with
  | done a => rfl
  | ask op next ih => simp [run, ih]

/-- Answering from a state is answering in the monad of that state. -/
theorem runIn_eq_run (answer : (op : Op) → σ → Answer op × σ) (p : Program Op Answer α) (s : σ) :
    p.runIn (m := StateM σ) answer s = p.run answer s := by
  induction p generalizing s with
  | done a => rfl
  | ask op next ih => exact ih (answer op s).1 (answer op s).2

end Program

end JobLauncher
