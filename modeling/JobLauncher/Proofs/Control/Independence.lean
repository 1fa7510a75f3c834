import JobLauncher.Proofs.Control.Footprint
import JobLauncher.Proofs.Control.Ledger

/-!
# Errands about different JobSets

Callers who are about different JobSets do not notice each other. Of the world we assume that
credentials and the way to address JobSets depend on nothing but what is asked, and that a JobSet is
created and deleted without regard to the others (`LocalWorld`). Every call of an errand that
changes something is about the JobSet of that errand (`every_program`), so an errand keeps to one
place.

> `errands_apart`: each caller has the same results and makes the same calls as if there were no
> others, whatever the order of the calls, and what the cluster keeps in the end is the same
> whatever the order.
-/

namespace JobLauncher

open Program (Interleaved Turn Every Keeps asked determined)

variable {κ ι : Type}

/-! ## The world -/

/-- A world with one answer to each call. Something of type `κ` is kept of each JobSet, such as
whether it is there. -/
structure LocalWorld (κ : Type) where
  credentials : Option String → List String → Except Error Kube.Credentials
  resolve : Kube.Credentials → Except Kube.Failure (Option Kube.Resource)
  /-- The answer to creating a JobSet, and what is kept of that JobSet from then on. -/
  create : Kube.Credentials → String → Kube.Resource → Json → κ → Except Kube.Failure Json × κ
  delete : Kube.Credentials → String → Kube.Resource → String → κ → Except Kube.Failure Unit × κ
  /-- Nothing is assumed of lines that are run in the shell. -/
  run : String → (JobSetKey → κ) → Except String Remote.Output × (JobSetKey → κ)

/-- The answer to a call, and what is kept of the JobSets after it. -/
def LocalWorld.answer (w : LocalWorld κ) (call : Call) (s : JobSetKey → κ) :
    call.Answer × (JobSetKey → κ) :=
  match call with
  | .credentials account scopes => (w.credentials account scopes, s)
  | .resolve c => (w.resolve c, s)
  | .create c ns r body =>
    let key := (ns, Scripted.nameOf body)
    let reply := w.create c ns r body (s key)
    (reply.1, Function.update s key reply.2)
  | .delete c ns r name =>
    let reply := w.delete c ns r name (s (ns, name))
    (reply.1, Function.update s (ns, name) reply.2)
  | .run line => w.run line s

/-- A call to the cluster that changes no other JobSet. -/
inductive Call.Concerns (key : JobSetKey) : Call → Prop where
  | credentials (account : Option String) (scopes : List String) :
      Concerns key (.credentials account scopes)
  | resolve (c : Kube.Credentials) : Concerns key (.resolve c)
  | create {c : Kube.Credentials} {ns : String} {r : Kube.Resource} {body : Json}
      (hkey : (ns, Scripted.nameOf body) = key) : Concerns key (.create c ns r body)
  | delete {c : Kube.Credentials} {ns : String} {r : Kube.Resource} {name : String}
      (hkey : (ns, name) = key) : Concerns key (.delete c ns r name)

/-- An answer that is found in one place and leaves something in that place keeps to it. -/
theorem keeps_of_update {w : LocalWorld κ} {call : Call} {key : JobSetKey}
    (reply : κ → call.Answer × κ)
    (h : ∀ s, w.answer call s = ((reply (s key)).1, Function.update s key (reply (s key)).2)) :
    Keeps w.answer {key} call where
  reads {s s'} heq := by
    rw [h s, h s', heq (Set.mem_singleton key)]
    refine ⟨rfl, fun k hk => ?_⟩
    obtain rfl := Set.mem_singleton_iff.mp hk
    show Function.update s k _ k = Function.update s' k _ k
    rw [Function.update_self, Function.update_self]
  changes s k hk := by
    rw [h s]
    exact Function.update_of_ne hk _ _

/-- So a call keeps to the JobSet that it concerns. -/
theorem LocalWorld.keeps (w : LocalWorld κ) {key : JobSetKey} {call : Call}
    (h : call.Concerns key) : Keeps w.answer {key} call := by
  cases h with
  | credentials account scopes => exact ⟨fun heq => ⟨rfl, heq⟩, fun s => Set.eqOn_refl _ _⟩
  | resolve c => exact ⟨fun heq => ⟨rfl, heq⟩, fun s => Set.eqOn_refl _ _⟩
  | @create c ns r body hkey =>
    subst hkey
    exact keeps_of_update (w.create c ns r body) fun s => rfl
  | @delete c ns r name hkey =>
    subst hkey
    exact keeps_of_update (w.delete c ns r name) fun s => rfl

/-! ## Errands -/

namespace Errand

/-- To submit a job calls for nothing about other JobSets. -/
theorem every_execute (j : JobSetJob) :
    (execute j).program.Every (Call.Concerns (execute j).key) := by
  simp only [program, JobSetJob.execute]
  cases hdoc : j.compile with
  | error e => exact trivial
  | ok document =>
    refine ⟨.credentials _ _, ?_⟩
    rintro (e | credentials)
    · exact trivial
    refine ⟨.resolve _, ?_⟩
    rintro (source | _ | resource)
    · exact trivial
    · exact trivial
    simp only [JobSet.decodeObjectOfAnyKind_toJson]
    have hname : Scripted.nameOf (document.submit resource.apiVersion).toJson = j.config.name :=
      (nameOf_submit document _).trans (name_of_compile hdoc)
    refine ⟨.create (by rw [hname]; rfl), ?_⟩
    rintro (source | created)
    · exact trivial
    · exact trivial

theorem every_deleteRef (t : JobSetRef) :
    (deleteRef t).program.Every (Call.Concerns (deleteRef t).key) := by
  refine ⟨.credentials _ _, ?_⟩
  rintro (e | credentials)
  · exact trivial
  refine ⟨.resolve _, ?_⟩
  rintro (source | _ | resource)
  · exact trivial
  · exact trivial
  refine ⟨.delete rfl, ?_⟩
  rintro (source | ⟨⟩)
  · cases hgone : source.isNotFound <;> simp only [hgone] <;> exact trivial
  · exact trivial

/-- An errand calls nothing but the cluster, and changes no JobSet but its own. -/
theorem every_program (e : Errand) : e.program.Every (Call.Concerns e.key) := by
  cases e with
  | execute j => exact every_execute j
  | delete j => exact every_deleteRef (JobSetRef.ofConfig j.config)
  | deleteRef t => exact every_deleteRef t

/-- Errands one after another, each whatever came of those before it. -/
def inTurn (es : List Errand) : Control (List Result) := Program.inTurn (es.map (·.program))

/-- The JobSets that errands are about. -/
def keys (es : List Errand) : Set JobSetKey := { key | ∃ e ∈ es, e.key = key }

/-- Errands in a row keep to the JobSets that they are about. -/
theorem every_inTurn (w : LocalWorld κ) (es : List Errand) :
    (inTurn es).Every (Keeps w.answer (keys es)) := by
  refine Every.inTurn fun p hp => ?_
  obtain ⟨e, he, rfl⟩ := List.mem_map.mp hp
  have hkey : ({e.key} : Set JobSetKey) ⊆ keys es :=
    Set.singleton_subset_iff.mpr ⟨e, he, rfl⟩
  exact e.every_program.mono fun call hcall => (w.keeps hcall).mono hkey

end Errand

/-! ## Callers side by side -/

namespace Apart

open Errand

/-- No two of the callers have errands about the same JobSet. -/
def OfDifferentJobSets (runs : ι → List Errand) : Prop :=
  ∀ i j, i ≠ j → ∀ e ∈ runs i, ∀ e' ∈ runs j, e.key ≠ e'.key

variable [DecidableEq ι]

/-- Callers, each of whom runs its errands one after another, have taken the turns `ts` in some
order. What each has left to do is `ps`, and what is kept of the JobSets is `s`. -/
abbrev SideBySide (w : LocalWorld κ) (runs : ι → List Errand) (start : JobSetKey → κ)
    (ts : List (Turn Call (JobSetKey → κ) ι)) (ps : ι → Control (List Result))
    (s : JobSetKey → κ) : Prop :=
  Interleaved (determined w.answer) (fun i => inTurn (runs i)) start ts ps s

section

variable {w : LocalWorld κ} {runs : ι → List Errand} {start s : JobSetKey → κ}
  {ts : List (Turn Call (JobSetKey → κ) ι)} {ps : ι → Control (List Result)}

omit [DecidableEq ι] in
theorem disjoint_keys (hapart : OfDifferentJobSets runs) :
    Pairwise fun i j => ∀ key ∈ keys (runs i), key ∉ keys (runs j) := by
  intro i j hij
  rintro key ⟨e, he, hkey⟩ ⟨e', he', hkey'⟩
  exact hapart i j hij e he e' he' (hkey.trans hkey'.symm)

/-- What a caller has called so far it would have called alone. -/
theorem SideBySide.prefix_alone (h : SideBySide w runs start ts ps s)
    (hapart : OfDifferentJobSets runs) (i : ι) :
    asked ts i <+: (inTurn (runs i)).questions w.answer start := by
  have hgoes := h.alone (fun i => every_inTurn w (runs i)) (disjoint_keys hapart) i
  rw [hgoes.questions]
  exact List.prefix_append _ _

/-- A caller that is done has what it would have alone. -/
theorem SideBySide.eq_alone (h : SideBySide w runs start ts ps s)
    (hapart : OfDifferentJobSets runs) {i : ι}
    {results : List Result} (hdone : ps i = .done results) :
    results = ((inTurn (runs i)).run w.answer start).1
    ∧ asked ts i = (inTurn (runs i)).questions w.answer start
    ∧ ∀ e ∈ runs i, s e.key = ((inTurn (runs i)).run w.answer start).2 e.key := by
  have hgoes := h.alone (fun i => every_inTurn w (runs i)) (disjoint_keys hapart) i
  rw [hdone] at hgoes
  obtain ⟨hresults, hasked, hstate⟩ := hgoes.of_done
  exact ⟨hresults, hasked, fun e he => hstate ⟨e, he, rfl⟩⟩

/-- A JobSet that no caller is about stays as it was. -/
theorem SideBySide.kept (h : SideBySide w runs start ts ps s)
    (hapart : OfDifferentJobSets runs) {key : JobSetKey}
    (hkey : ∀ i, ∀ e ∈ runs i, e.key ≠ key) : s key = start key := by
  refine h.untouched (fun i => every_inTurn w (runs i)) (disjoint_keys hapart) fun i => ?_
  rintro ⟨e, he, heq⟩
  exact hkey i e he heq

end

/-- Callers of whom no two are about the same JobSet. Each makes the calls that it would make alone
from the same state, in that order, and once done has the results that it would have alone. What is
kept of a JobSet is in the end what its caller alone would have left, or what it was at the start if
it is nobody's. So it is the same whatever the order of the calls. -/
theorem errands_apart (w : LocalWorld κ) (runs : ι → List Errand)
    (hapart : OfDifferentJobSets runs)
    (start : JobSetKey → κ) :
    (∀ ts ps s, SideBySide w runs start ts ps s →
      (∀ i, asked ts i <+: (inTurn (runs i)).questions w.answer start)
      ∧ (∀ i results, ps i = .done results →
        results = ((inTurn (runs i)).run w.answer start).1
        ∧ asked ts i = (inTurn (runs i)).questions w.answer start
        ∧ ∀ e ∈ runs i, s e.key = ((inTurn (runs i)).run w.answer start).2 e.key)
      ∧ ∀ key, (∀ i, ∀ e ∈ runs i, e.key ≠ key) → s key = start key)
    ∧ ∀ (results results' : ι → List Result) ts ts' finish finish',
      SideBySide w runs start ts (fun i => .done (results i)) finish →
      SideBySide w runs start ts' (fun i => .done (results' i)) finish' →
      finish' = finish := by
  constructor
  · intro ts ps s h
    exact ⟨h.prefix_alone hapart, fun i results => h.eq_alone hapart, fun key => h.kept hapart⟩
  · intro results results' ts ts' finish finish' h h'
    funext key
    by_cases hkey : ∃ i, ∃ e ∈ runs i, e.key = key
    · obtain ⟨i, e, he, rfl⟩ := hkey
      obtain ⟨-, -, hfinish⟩ := h.eq_alone hapart (i := i) rfl
      obtain ⟨-, -, hfinish'⟩ := h'.eq_alone hapart (i := i) rfl
      rw [hfinish e he, hfinish' e he]
    · have hnobody : ∀ i, ∀ e ∈ runs i, e.key ≠ key := fun i e he heq => hkey ⟨i, e, he, heq⟩
      rw [h.kept hapart hnobody, h'.kept hapart hnobody]

/-- A world that keeps of each JobSet whether it is there. -/
def register : LocalWorld Bool where
  credentials account scopes := .ok ⟨{}, account, scopes⟩
  resolve _ := .ok (some Ledger.raceResource)
  create _ ns _ body live :=
    if live then
      (.error (Scripted.refusal 409 "AlreadyExists" " exists" ns (Scripted.nameOf body)), true)
    else (.ok body, true)
  delete _ ns _ name live :=
    if live then (.ok (), false)
    else (.error (Scripted.refusal 404 "NotFound" " not found" ns name), false)
  run _ s := (.ok {}, s)

/-- One caller replaces a JobSet that is there, and another has one deleted. -/
def pair : Fin 2 → List Errand
  | 0 => [.delete Ledger.raceJob, .execute Ledger.raceJob]
  | 1 => [.deleteRef ⟨"old", "default", none, []⟩]

/-- Those two are there at the start, and one that is nobody's. -/
def pairStart : JobSetKey → Bool :=
  Function.update (Function.update (Function.update (fun _ => false)
    ("default", "other") true) ("default", "old") true) ("default", "j") true

def pairFinish : JobSetKey → Bool :=
  Function.update (Function.update (fun _ => false) ("default", "other") true) ("default", "j") true

/-- The object that the first caller submits. -/
def pairObject : Json :=
  (JobSet.Document.submit ⟨"j", Dict.empty, 0, []⟩ Kube.fallbackApiVersion).toJson

def pairResults : Fin 2 → List Result
  | 0 => [.ok (.deleted .requested), .ok (.submitted pairObject)]
  | 1 => [.ok (.deleted .requested)]

theorem pair_ofDifferentJobSets : OfDifferentJobSets pair := by
  intro i j hij
  -- one of the two with itself, and the two orders of both
  fin_cases i <;> fin_cases j
  · exact absurd rfl hij
  · decide
  · decide
  · exact absurd rfl hij

/-- The two callers take turns, the one in the middle of the calls of the other. -/
theorem pair_sideBySide : ∃ ts, SideBySide register pair pairStart ts
    (fun i => .done (pairResults i)) pairFinish := by
  refine Interleaved.exists_turn 0 (.credentials none []) rfl _ rfl ?_
  refine Interleaved.exists_turn 1 (.credentials none []) rfl _ rfl ?_
  refine Interleaved.exists_turn 0 (.resolve _) rfl _ rfl ?_
  refine Interleaved.exists_turn 0 (.delete _ "default" _ "j") rfl (.ok ()) rfl ?_
  refine Interleaved.exists_turn 0 (.credentials none []) rfl _ rfl ?_
  refine Interleaved.exists_turn 1 (.resolve _) rfl _ rfl ?_
  refine Interleaved.exists_turn 0 (.resolve _) rfl _ rfl ?_
  refine Interleaved.exists_turn 1 (.delete _ "default" _ "old") rfl (.ok ()) rfl ?_
  refine Interleaved.exists_turn 0 (.create _ "default" _ pairObject) rfl (.ok pairObject) rfl ?_
  refine Interleaved.exists_nil (fun i => ?_) ?_
  · fin_cases i <;> rfl
  · show Function.update (Function.update (Function.update pairStart ("default", "j") false)
      ("default", "old") false) ("default", "j") true = pairFinish
    -- the changes are about two JobSets, so they can be put in the order of the state that is
    -- claimed
    have hne : (("default", "old") : JobSetKey) ≠ ("default", "j") := by decide
    have hfree : Function.update (Function.update (fun _ => false) ("default", "other") true)
        (("default", "old") : JobSetKey) false
        = Function.update (fun _ => false) ("default", "other") true :=
      Function.update_eq_self_iff.mpr rfl
    rw [pairStart, pairFinish, Function.update_idem, Function.update_comm hne,
      Function.update_idem, Function.update_comm hne.symm, Function.update_idem, hfree]

/-- However the two take turns, the first one has its JobSet back and the old one is gone. -/
theorem errands_apart_pair :
    OfDifferentJobSets pair
    ∧ (∃ ts, SideBySide register pair pairStart ts (fun i => .done (pairResults i)) pairFinish)
    ∧ pairResults 0 = ((inTurn (pair 0)).run register.answer pairStart).1
    ∧ ∀ (results : Fin 2 → List Result) ts finish,
        SideBySide register pair pairStart ts (fun i => .done (results i)) finish →
        finish = pairFinish := by
  obtain ⟨ts, h⟩ := pair_sideBySide
  obtain ⟨halone, hsame⟩ := errands_apart register pair pair_ofDifferentJobSets pairStart
  obtain ⟨-, hdone, -⟩ := halone ts _ _ h
  refine ⟨pair_ofDifferentJobSets, ⟨ts, h⟩, (hdone 0 _ rfl).1, fun results ts' finish h' => ?_⟩
  exact hsame pairResults results ts ts' pairFinish finish h h'

end Apart

end JobLauncher
