import JobLauncher.Proofs.Control.Course
import JobLauncher.Proofs.Control.Interleaving
import Mathlib.Data.Set.Function

/-!
# Programs that keep to themselves

The state of the surroundings is a value for each of many places. A question may be answered from
some places alone and leave all others as they are (`Keeps`). A program that asks only such
questions takes no notice of what happens elsewhere (`run_congr`), so programs that keep to
different places do not notice each other: whatever the order of turns, each of them asks what it
would ask alone and comes to what it would come to alone (`Interleaved.alone`), and a place is left
as the one program that keeps to it leaves it.
-/

namespace JobLauncher.Program

variable {Op : Type} {Answer : Op → Type} {Place κ σ α β ι : Type}

/-- Surroundings that have one answer to each question, given their state. -/
abbrev determined (answer : (op : Op) → σ → Answer op × σ) : Surroundings Op Answer σ :=
  fun op s a s' => answer op s = (a, s')

/-- The question is answered from the places `K` alone, and no other place is changed. -/
structure Keeps (answer : (op : Op) → (Place → κ) → Answer op × (Place → κ)) (K : Set Place)
    (op : Op) : Prop where
  reads : ∀ {s s'}, Set.EqOn s s' K →
    (answer op s).1 = (answer op s').1 ∧ Set.EqOn (answer op s).2 (answer op s').2 K
  changes : ∀ s, Set.EqOn (answer op s).2 s Kᶜ

theorem Every.mono {P Q : Op → Prop} {p : Program Op Answer α} (h : ∀ op, P op → Q op)
    (hp : p.Every P) : p.Every Q := by
  induction p with
  | done a => exact trivial
  | ask op next ih => exact ⟨h op hp.1, fun answer => ih answer (hp.2 answer)⟩

section

variable {answer : (op : Op) → (Place → κ) → Answer op × (Place → κ)} {K K' : Set Place}
  {p p' p'' : Program Op Answer α} {s s' s'' : Place → κ}

theorem Keeps.mono {op : Op} (h : Keeps answer K op) (hK : K ⊆ K') : Keeps answer K' op where
  reads {s s'} heq := by
    obtain ⟨hanswer, hin⟩ := h.reads (heq.mono hK)
    refine ⟨hanswer, fun k hk => ?_⟩
    by_cases hmem : k ∈ K
    · exact hin hmem
    · rw [h.changes s hmem, h.changes s' hmem, heq hk]
  changes s := (h.changes s).mono (Set.compl_subset_compl.mpr hK)

/-- What happens elsewhere makes no difference to a program. -/
theorem run_congr (hp : p.Every (Keeps answer K)) (h : Set.EqOn s s' K) :
    (p.run answer s).1 = (p.run answer s').1
    ∧ p.questions answer s = p.questions answer s'
    ∧ Set.EqOn (p.run answer s).2 (p.run answer s').2 K := by
  induction p generalizing s s' with
  | done a => exact ⟨rfl, rfl, h⟩
  | ask op next ih =>
    obtain ⟨hanswer, hafter⟩ := hp.1.reads h
    simp only [run, questions, ← hanswer]
    obtain ⟨hresult, hquestions, hstate⟩ := ih _ (hp.2 _) hafter
    exact ⟨hresult, congrArg _ hquestions, hstate⟩

/-- From the state `s` on, the program `p` asks `asked` and then does what `p'` does from `s'` on,
with the same result and with the same left in the places `K`. -/
structure GoesOn (answer : (op : Op) → (Place → κ) → Answer op × (Place → κ)) (K : Set Place)
    (p : Program Op Answer α) (s : Place → κ) (asked : List Op) (p' : Program Op Answer α)
    (s' : Place → κ) : Prop where
  result : (p.run answer s).1 = (p'.run answer s').1
  questions : p.questions answer s = asked ++ p'.questions answer s'
  state : Set.EqOn (p.run answer s).2 (p'.run answer s').2 K

theorem GoesOn.refl (p : Program Op Answer α) (s : Place → κ) : GoesOn answer K p s [] p s :=
  ⟨rfl, rfl, Set.eqOn_refl _ _⟩

/-- What is asked in two parts is asked in both. -/
theorem GoesOn.trans {asked asked' : List Op} (h : GoesOn answer K p s asked p' s')
    (h' : GoesOn answer K p' s' asked' p'' s'') :
    GoesOn answer K p s (asked ++ asked') p'' s'' where
  result := h.result.trans h'.result
  questions := by rw [h.questions, h'.questions, List.append_assoc]
  state := h.state.trans h'.state

/-- A turn of the program itself. -/
theorem goesOn_of_answer {op : Op} {next : Answer op → Program Op Answer α} {a : Answer op}
    (h : answer op s = (a, s')) : GoesOn answer K (.ask op next) s [op] (next a) s' where
  result := by simp only [run, h]
  questions := by
    simp only [Program.questions, h]
    rfl
  state k _ := by simp only [run, h]

/-- A turn of another one. -/
theorem goesOn_of_eqOn (hp : p.Every (Keeps answer K)) (h : Set.EqOn s s' K) :
    GoesOn answer K p s [] p s' := by
  obtain ⟨hresult, hquestions, hstate⟩ := run_congr hp h
  exact ⟨hresult, hquestions, hstate⟩

/-- A program that is done has asked all that it asks. -/
theorem GoesOn.of_done {asked : List Op} {a : α} (h : GoesOn answer K p s asked (.done a) s') :
    a = (p.run answer s).1 ∧ asked = p.questions answer s
      ∧ Set.EqOn s' (p.run answer s).2 K := by
  refine ⟨h.result.symm, ?_, h.state.symm⟩
  rw [h.questions]
  exact (List.append_nil _).symm

end

/-! ## Turns -/

variable [DecidableEq ι]

/-- What one of the programs has asked. -/
def asked (ts : List (Turn Op σ ι)) (i : ι) : List Op :=
  (ts.filter fun t => t.who = i).map (·.op)

/-- A turn adds its question to those of the program whose turn it is. -/
theorem asked_cons (t : Turn Op σ ι) (ts : List (Turn Op σ ι)) (i : ι) :
    asked (t :: ts) i = (if t.who = i then [t.op] else []) ++ asked ts i := by
  unfold asked
  by_cases h : t.who = i
  · simp [h]
  · simp [h]

variable {answer : (op : Op) → (Place → κ) → Answer op × (Place → κ)} {K : ι → Set Place}
  {ps ps' : ι → Program Op Answer α} {s s' : Place → κ} {ts : List (Turn Op (Place → κ) ι)}

/-- One turn. Each program goes on as it would, and what is left of it keeps to its places. -/
theorem goesOn_turn (hps : ∀ i, (ps i).Every (Keeps answer (K i)))
    (hapart : Pairwise fun i j => ∀ k ∈ K i, k ∉ K j) {i : ι} {op : Op}
    {next : Answer op → Program Op Answer α} (hask : ps i = .ask op next) {a : Answer op}
    (hworld : answer op s = (a, s')) (j : ι) :
    GoesOn answer (K j) (ps j) s (if i = j then [op] else [])
        (Function.update ps i (next a) j) s'
      ∧ (Function.update ps i (next a) j).Every (Keeps answer (K j)) := by
  have hi := hps i
  rw [hask] at hi
  by_cases hij : i = j
  · subst hij
    rw [Function.update_self, if_pos rfl, hask]
    exact ⟨goesOn_of_answer hworld, hi.2 a⟩
  · rw [Function.update_of_ne (Ne.symm hij), if_neg hij]
    refine ⟨goesOn_of_eqOn (hps j) fun k hk => ?_, hps j⟩
    have hout : k ∉ K i := fun hmem => hapart hij k hmem hk
    have hkept : (answer op s).2 k = s k := hi.1.changes s hout
    rw [hworld] at hkept
    exact hkept.symm

/-- Any number of turns. -/
theorem Interleaved.alone (h : Interleaved (determined answer) ps s ts ps' s')
    (hps : ∀ i, (ps i).Every (Keeps answer (K i)))
    (hapart : Pairwise fun i j => ∀ k ∈ K i, k ∉ K j) (j : ι) :
    GoesOn answer (K j) (ps j) s (asked ts j) (ps' j) s' := by
  induction h with
  | nil ps s => exact .refl _ _
  | turn i op hask a hworld _ ih =>
    have hturn := goesOn_turn hps hapart hask hworld
    rw [asked_cons]
    exact (hturn j).1.trans (ih fun j => (hturn j).2)

/-- A place that no program keeps to stays as it is. -/
theorem Interleaved.untouched (h : Interleaved (determined answer) ps s ts ps' s')
    (hps : ∀ i, (ps i).Every (Keeps answer (K i)))
    (hapart : Pairwise fun i j => ∀ k ∈ K i, k ∉ K j) {k : Place} (hk : ∀ i, k ∉ K i) :
    s' k = s k := by
  induction h with
  | nil => rfl
  | @turn ps _ s _ _ _ i op _ hask a hworld _ ih =>
    have hi := hps i
    rw [hask] at hi
    have hkept : (answer op s).2 k = s k := hi.1.changes s (hk i)
    rw [hworld] at hkept
    exact (ih fun j => (goesOn_turn hps hapart hask hworld j).2).trans hkept

end JobLauncher.Program
