import JobLauncher.Program
import Mathlib.Logic.Function.Basic

/-!
# Programs side by side

Several programs that share their surroundings take turns: at each turn one of them asks its next
question, the surroundings answer and change. `Interleaved` holds of every such course of events,
for every order of turns and for every answer that the surroundings may give. A program that is done
takes no more turns (`Interleaved.done_stays`).
-/

namespace JobLauncher.Program

variable {Op : Type} {Answer : Op → Type} {α σ ι : Type}

/-- What surroundings in a state may answer to a question, and the state that this leaves. -/
abbrev Surroundings (Op : Type) (Answer : Op → Type) (σ : Type) : Type :=
  (op : Op) → σ → Answer op → σ → Prop

/-- One turn: whose it is, the question, and the states before and after the answer. -/
structure Turn (Op σ ι : Type) where
  who : ι
  op : Op
  before : σ
  after : σ

/-- From the programs `ps` and the state `s`, the turns `ts` lead to the programs `ps'`, each of
them what is left of the one before, and to the state `s'`. -/
inductive Interleaved [DecidableEq ι] (world : Surroundings Op Answer σ) :
    (ι → Program Op Answer α) → σ → List (Turn Op σ ι) → (ι → Program Op Answer α) → σ → Prop where
  | nil (ps : ι → Program Op Answer α) (s : σ) : Interleaved world ps s [] ps s
  | turn {ps ps' : ι → Program Op Answer α} {s s' s'' : σ} {ts : List (Turn Op σ ι)} (i : ι)
      (op : Op) {next : Answer op → Program Op Answer α} (hask : ps i = .ask op next)
      (answer : Answer op) (hworld : world op s answer s')
      (rest : Interleaved world (Function.update ps i (next answer)) s' ts ps' s'') :
      Interleaved world ps s (⟨i, op, s, s'⟩ :: ts) ps' s''

variable [DecidableEq ι] {world : Surroundings Op Answer σ} {ps ps' : ι → Program Op Answer α}
  {s s' : σ} {ts : List (Turn Op σ ι)}

/-- No turn at all. -/
theorem Interleaved.exists_nil (hps : ∀ i, ps i = ps' i) (hs : s = s') :
    ∃ ts, Interleaved world ps s ts ps' s' := by
  obtain rfl := hs
  obtain rfl : ps = ps' := funext hps
  exact ⟨[], .nil ps s⟩

/-- One more turn at the beginning. -/
theorem Interleaved.exists_turn {s'' : σ} (i : ι) (op : Op) {next : Answer op → Program Op Answer α}
    (hask : ps i = .ask op next) (answer : Answer op) (hworld : world op s answer s')
    (rest : ∃ ts, Interleaved world (Function.update ps i (next answer)) s' ts ps' s'') :
    ∃ ts, Interleaved world ps s ts ps' s'' := by
  obtain ⟨ts, h⟩ := rest
  exact ⟨_, .turn i op hask answer hworld h⟩

theorem Interleaved.done_stays (h : Interleaved world ps s ts ps' s') {i : ι} {a : α}
    (hi : ps i = .done a) : ps' i = .done a := by
  induction h with
  | nil => exact hi
  | turn j op hask answer _ _ ih =>
    have hne : i ≠ j := by
      rintro rfl
      rw [hi] at hask
      cases hask
    exact ih (by rw [Function.update_of_ne hne]; exact hi)

end JobLauncher.Program
