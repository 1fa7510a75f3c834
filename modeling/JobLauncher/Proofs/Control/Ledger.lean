import JobLauncher.Control.JobSet
import JobLauncher.Control.Scripted
import JobLauncher.Proofs.Control.Interleaving
import JobLauncher.Proofs.JobSet.Compile
import JobLauncher.Proofs.JobSet.Wire
import Mathlib.Algebra.BigOperators.Ring.Finset
import Mathlib.Data.Fintype.Basic
import Mathlib.Tactic.FinCases

/-!
# The ledger of JobSets

Any number of callers submit JobSets and have JobSets deleted, all at once, against a cluster of
which we assume very little: it keeps a set of JobSets, a call that fails leaves the set alone, one
that succeeds in creating adds a JobSet that was not there, and one that succeeds in deleting takes
away one that was (`Permits`).

Every call that succeeds in changing the set is the last one of its errand, is about the JobSet of
that errand and becomes its result (`Accountable`). So the results tell what happened:

> `ledger_balances`: for each JobSet, the errands that submitted it less those that requested its
> deletion are as many as it has become more live, whatever the order of the calls and whichever of
> them failed.
-/

namespace JobLauncher

/-- A JobSet as the cluster tells it from others: its namespace and its name. -/
abbrev JobSetKey : Type := String × String

/-- The JobSet that a call is to change, if it is to change one. -/
def Call.key? : Call → Option JobSetKey
  | .create _ ns _ body => some (ns, Scripted.nameOf body)
  | .delete _ ns _ name => some (ns, name)
  | _ => none

/-! ## The cluster -/

namespace Cluster

/-- What a cluster with the JobSets `live` may answer to a call, and the JobSets it has afterwards.
Any call may fail, for whatever reason, one reason being that the JobSet is there already or is not
there; then nothing changes. -/
def Permits (call : Call) (live : Finset JobSetKey) (answer : call.Answer)
    (after : Finset JobSetKey) : Prop :=
  match call, answer with
  | .create _ ns _ body, .ok _ =>
    (ns, Scripted.nameOf body) ∉ live ∧ after = insert (ns, Scripted.nameOf body) live
  | .delete _ ns _ name, .ok _ => (ns, name) ∈ live ∧ after = live.erase (ns, name)
  | _, _ => after = live

/-- How many more JobSets there are after an answer. -/
def gain (call : Call) (answer : call.Answer) : Int :=
  match call, answer with
  | .create _ _ _ _, .ok _ => 1
  | .delete _ _ _ _, .ok _ => -1
  | _, _ => 0

/-- One if the JobSet is there and zero if it is not. -/
def liveness (live : Finset JobSetKey) (key : JobSetKey) : Int := if key ∈ live then 1 else 0

variable {call : Call} {answer : call.Answer} {live after : Finset JobSetKey}

/-- All that an answer can do: nothing, add the JobSet of the call, or take it away. -/
theorem Permits.cases (h : Permits call live answer after) :
    (gain call answer = 0 ∧ after = live)
    ∨ (∃ key, call.key? = some key ∧ gain call answer = 1
        ∧ key ∉ live ∧ after = insert key live)
    ∨ (∃ key, call.key? = some key ∧ gain call answer = -1
        ∧ key ∈ live ∧ after = live.erase key) := by
  cases call with
  | create c ns r body =>
    cases answer with
    | error f => exact .inl ⟨rfl, h⟩
    | ok created => exact .inr (.inl ⟨_, rfl, rfl, h⟩)
  | delete c ns r name =>
    cases answer with
    | error f => exact .inl ⟨rfl, h⟩
    | ok u => exact .inr (.inr ⟨_, rfl, rfl, h⟩)
  | _ => exact .inl ⟨rfl, h⟩

/-- An answer without gain changes nothing. -/
theorem Permits.eq_of_gain (h : Permits call live answer after) (hgain : gain call answer = 0) :
    after = live := by
  rcases h.cases with ⟨-, hafter⟩ | ⟨key, -, hone, -⟩ | ⟨key, -, hone, -⟩
  · exact hafter
  · omega
  · omega

/-- The gain of an answer is a gain of the JobSet that the call is about, and of no other. -/
theorem Permits.liveness_eq (h : Permits call live answer after) (key : JobSetKey) :
    liveness after key
      = liveness live key + if call.key? = some key then gain call answer else 0 := by
  rcases h.cases with ⟨hgain, rfl⟩ | ⟨k, hk, hgain, hnew, rfl⟩ | ⟨k, hk, hgain, hold, rfl⟩
  · rw [hgain, ite_self, Int.add_zero]
  · by_cases hkey : k = key
    · subst hkey
      simp [liveness, hk, hgain, hnew]
    · have hne : key ≠ k := Ne.symm hkey
      simp [liveness, hk, hkey, hne]
  · by_cases hkey : k = key
    · subst hkey
      simp [liveness, hk, hgain, hold]
    · have hne : key ≠ k := Ne.symm hkey
      simp [liveness, hk, hkey, hne]

theorem liveness_nonneg (live : Finset JobSetKey) (key : JobSetKey) : 0 ≤ liveness live key := by
  unfold liveness; split <;> omega

theorem liveness_le_one (live : Finset JobSetKey) (key : JobSetKey) : liveness live key ≤ 1 := by
  unfold liveness; split <;> omega

end Cluster

/-- The scripted world keeps to this. -/
theorem Scripted.permits_answer (w : Scripted) (call : Call) :
    Cluster.Permits call w.live.toFinset (w.answer call).1 (w.answer call).2.live.toFinset := by
  cases call with
  | create c ns r body =>
    simp only [answer, create]
    rcases w.createErrors.head?.join with _ | f
    · by_cases hlive : (ns, nameOf body) ∈ w.live
      · simp [hlive, Cluster.Permits]
      · simp [hlive, Cluster.Permits]
    · rfl
  | delete c ns r name =>
    simp only [answer, delete]
    rcases w.deleteErrors.head?.join with _ | f
    · by_cases hlive : (ns, name) ∈ w.live
      · simp only [hlive, if_true, Cluster.Permits, List.mem_toFinset, true_and]
        ext key
        simp [and_comm]
      · simp [hlive, Cluster.Permits]
    · rfl
  | credentials _ _ => rfl
  | resolve _ => rfl
  | run _ => rfl

/-! ## Errands -/

/-- What a caller wants of the cluster. -/
inductive Errand where
  | execute (j : JobSetJob)
  | delete (j : JobSetJob)
  | deleteRef (t : JobSetRef)

namespace Errand

/-- What comes of an errand that does not fail. -/
inductive Outcome where
  /-- The object as the cluster has it. -/
  | submitted (created : Json)
  | deleted (d : Deletion)

/-- How an errand ends. -/
abbrev Result : Type := Except Job.Error Outcome

/-- The calls of an errand. -/
def program : Errand → Control Result
  | .execute j => j.execute.bind fun r => .done (r.map .submitted)
  | .delete j => j.delete.bind fun r => .done (r.map .deleted)
  | .deleteRef t => t.delete.bind fun r => .done (r.map .deleted)

/-- The JobSet that an errand is about. -/
def key : Errand → JobSetKey
  | .execute j | .delete j => (j.config.ns, j.config.name)
  | .deleteRef t => (t.ns, t.name)

/-- The errand has submitted its JobSet. -/
def Result.isSubmitted : Result → Bool
  | .ok (.submitted _) => true
  | _ => false

/-- The errand has had its JobSet deleted. -/
def Result.isRequested : Result → Bool
  | .ok (.deleted .requested) => true
  | _ => false

/-- What a result says about the number of JobSets. -/
def Result.credit (r : Result) : Int := r.isSubmitted.toInt - r.isRequested.toInt

/-- What an errand that is under way has said so far: nothing before it is done. -/
def standing : Control Result → Int
  | .done r => r.credit
  | .ask _ _ => 0

/-- An errand that tells what it does to the cluster: each gain is a gain of the JobSet `key`, and
what the errand says after an answer is the gain of that answer. -/
def Accountable (key : JobSetKey) : Control Result → Prop
  | .done _ => True
  | .ask call next => ∀ answer : call.Answer,
    standing (next answer) = Cluster.gain call answer
    ∧ (Cluster.gain call answer ≠ 0 → call.key? = some key)
    ∧ Accountable key (next answer)

/-- A document is submitted under its name. -/
theorem nameOf_submit (d : JobSet.Document) (version : String) :
    Scripted.nameOf (d.submit version).toJson = d.name := rfl

/-- A document has the name of its job. -/
theorem name_of_compile {j : JobSetJob} {d : JobSet.Document} (h : j.compile = .ok d) :
    d.name = j.config.name := by
  obtain ⟨-, -, rfl⟩ := JobSet.compile_eq_ok_iff.mp (Except.mapError_eq_ok.mp h)
  rfl

/-- No errand has said anything before its first answer. -/
theorem standing_program (e : Errand) : standing e.program = 0 := by
  cases e with
  | execute j =>
    simp only [program, JobSetJob.execute]
    cases j.compile <;> rfl
  | delete j => rfl
  | deleteRef t => rfl

/-- An answer that changes nothing and after which nothing is said. -/
theorem accountable_quiet {key : JobSetKey} {call : Call} {answer : call.Answer}
    {rest : Control Result} (hgain : Cluster.gain call answer = 0) (hsaid : standing rest = 0)
    (h : Accountable key rest) :
    standing rest = Cluster.gain call answer
    ∧ (Cluster.gain call answer ≠ 0 → call.key? = some key) ∧ Accountable key rest :=
  ⟨hsaid.trans hgain.symm, fun hne => absurd hgain hne, h⟩

/-- Submitting is accountable: the one call that may change the set is the last one. -/
theorem accountable_execute (j : JobSetJob) : Accountable (execute j).key (execute j).program := by
  simp only [program, JobSetJob.execute]
  cases hdoc : j.compile with
  | error e => exact trivial
  | ok document =>
    rintro (e | credentials)
    · exact accountable_quiet rfl rfl trivial
    refine accountable_quiet rfl rfl ?_
    rintro (source | _ | resource)
    · exact accountable_quiet rfl rfl trivial
    · exact accountable_quiet rfl rfl trivial
    -- the object that is sent is the document
    simp only [JobSet.decodeObjectOfAnyKind_toJson]
    refine accountable_quiet rfl rfl ?_
    rintro (source | created)
    · exact accountable_quiet rfl rfl trivial
    refine ⟨rfl, fun _ => ?_, trivial⟩
    have hname : Scripted.nameOf (document.submit resource.apiVersion).toJson = j.config.name :=
      (nameOf_submit document _).trans (name_of_compile hdoc)
    simp only [Call.key?, hname, key]

/-- So is having a JobSet deleted. -/
theorem accountable_deleteRef (t : JobSetRef) :
    Accountable (deleteRef t).key (deleteRef t).program := by
  rintro (e | credentials)
  · exact accountable_quiet rfl rfl trivial
  refine accountable_quiet rfl rfl ?_
  rintro (source | _ | resource)
  · exact accountable_quiet rfl rfl trivial
  · exact accountable_quiet rfl rfl trivial
  refine accountable_quiet rfl rfl ?_
  rintro (source | ⟨⟩)
  · -- whether it was gone already or not, it was not this call that took it away
    cases hgone : source.isNotFound <;> simp only [hgone]
    · exact accountable_quiet rfl rfl trivial
    · exact accountable_quiet rfl rfl trivial
  · exact ⟨rfl, fun _ => rfl, trivial⟩

/-- Every errand is accountable for the JobSet that it is about. -/
theorem accountable (e : Errand) : Accountable e.key e.program := by
  cases e with
  | execute j => exact accountable_execute j
  | delete j => exact accountable_deleteRef (JobSetRef.ofConfig j.config)
  | deleteRef t => exact accountable_deleteRef t

end Errand

/-! ## The books -/

namespace Ledger

open Errand
open Program (Interleaved Turn)
open scoped BigOperators

variable {ι : Type} [Fintype ι] {keys : ι → JobSetKey}

/-- What the errands about a JobSet have said so far. -/
def account (keys : ι → JobSetKey) (ps : ι → Control Result) (key : JobSetKey) : Int :=
  ∑ i, if keys i = key then standing (ps i) else 0

/-- How many errands have submitted a JobSet. -/
def submissions (keys : ι → JobSetKey) (results : ι → Result) (key : JobSetKey) : Nat :=
  (Finset.univ.filter fun i => keys i = key ∧ (results i).isSubmitted).card

/-- How many errands have had a JobSet deleted. -/
def requests (keys : ι → JobSetKey) (results : ι → Result) (key : JobSetKey) : Nat :=
  (Finset.univ.filter fun i => keys i = key ∧ (results i).isRequested).card

/-- Once all errands are done, the account is their results counted up. -/
theorem account_done (results : ι → Result) (key : JobSetKey) :
    account keys (fun i => .done (results i)) key
      = submissions keys results key - requests keys results key := by
  unfold account submissions requests
  rw [Finset.natCast_card_filter, Finset.natCast_card_filter, ← Finset.sum_sub_distrib]
  refine Finset.sum_congr rfl fun i _ => ?_
  by_cases hkey : keys i = key
  · simp only [hkey, if_true, true_and, standing, Result.credit]
    cases (results i).isSubmitted <;> cases (results i).isRequested <;> rfl
  · simp [hkey]

variable [DecidableEq ι] {ps ps' : ι → Control Result} {live live' : Finset JobSetKey}
  {ts : List (Turn Call (Finset JobSetKey) ι)}

/-- When one errand goes on, the account changes by what that one says. -/
theorem account_update (i : ι) (p : Control Result) (key : JobSetKey) :
    account keys (Function.update ps i p) key
      = account keys ps key + if keys i = key then standing p - standing (ps i) else 0 := by
  have hi : i ∈ Finset.univ := Finset.mem_univ i
  have hothers : ∑ j ∈ Finset.univ.erase i,
        (if keys j = key then standing (Function.update ps i p j) else 0)
      = ∑ j ∈ Finset.univ.erase i, (if keys j = key then standing (ps j) else 0) := by
    refine Finset.sum_congr rfl fun j hj => ?_
    rw [Function.update_of_ne (Finset.ne_of_mem_erase hj)]
  -- the sum is split at the errand that goes on
  unfold account
  rw [← Finset.add_sum_erase _ _ hi, ← Finset.add_sum_erase _ _ hi, hothers, Function.update_self]
  split <;> omega

/-- One turn of an accountable errand: the account and the JobSet change alike, and every errand
stays accountable. -/
theorem account_turn (hps : ∀ i, Accountable (keys i) (ps i)) {i : ι} {call : Call}
    {next : call.Answer → Control Result} {answer : call.Answer} (hask : ps i = .ask call next)
    (hworld : Cluster.Permits call live answer live') :
    (∀ key, account keys (Function.update ps i (next answer)) key - account keys ps key
      = Cluster.liveness live' key - Cluster.liveness live key)
    ∧ ∀ j, Accountable (keys j) (Function.update ps i (next answer) j) := by
  have hi := hps i
  rw [hask] at hi
  obtain ⟨hsaid, hkey, hrest⟩ := hi answer
  refine ⟨fun key => ?_, fun j => ?_⟩
  · rw [account_update, hworld.liveness_eq key, hsaid, hask]
    -- a call that gains nothing is about any JobSet or none; one that gains is about that of the
    -- errand
    by_cases hgain : Cluster.gain call answer = 0
    · simp [hgain, standing]
    · simp [hkey hgain, standing]
  · by_cases hj : j = i
    · subst hj
      rw [Function.update_self]
      exact hrest
    · rw [Function.update_of_ne hj]
      exact hps j

/-- Any number of turns. -/
theorem account_run (h : Interleaved Cluster.Permits ps live ts ps' live')
    (hps : ∀ i, Accountable (keys i) (ps i)) (key : JobSetKey) :
    account keys ps' key - account keys ps key
      = Cluster.liveness live' key - Cluster.liveness live key := by
  induction h with
  | nil => omega
  | turn i op hask answer hworld _ ih =>
    obtain ⟨hturn, hnext⟩ := account_turn hps hask hworld
    have hrest := ih hnext
    have hfirst := hturn key
    omega

/-- Only an errand that is done has said something. -/
theorem done_of_standing {p : Control Result} (h : standing p ≠ 0) :
    ∃ r, p = .done r ∧ r.credit ≠ 0 := by
  cases p with
  | done r => exact ⟨r, rfl, h⟩
  | ask op next => exact absurd rfl h

/-- A turn that changes the set is the last one of an errand that says so. -/
theorem credit_of_change (h : Interleaved Cluster.Permits ps live ts ps' live')
    (hps : ∀ i, Accountable (keys i) (ps i)) {t : Turn Call (Finset JobSetKey) ι} (ht : t ∈ ts)
    (hchange : t.after ≠ t.before) : ∃ r, ps' t.who = .done r ∧ r.credit ≠ 0 := by
  induction h with
  | nil => cases ht
  | turn i op hask answer hworld rest ih =>
    rcases List.mem_cons.mp ht with rfl | ht
    · have hi := hps i
      rw [hask] at hi
      -- the set has changed, so the call gained, and an errand that gains is done and says so
      have hgain := fun hzero => hchange (hworld.eq_of_gain hzero)
      rw [← (hi answer).1] at hgain
      obtain ⟨r, hdone, hcredit⟩ := done_of_standing hgain
      exact ⟨r, rest.done_stays (by rw [Function.update_self]; exact hdone), hcredit⟩
    · exact ih (account_turn hps hask hworld).2 ht

/-- Whatever the order of the calls of any number of errands, and whatever the cluster answers: once
all are done, each JobSet was submitted as many times more than its deletion was requested as it has
become more live. So without a request at most one of those who submit the same JobSet succeeds, and
an errand that fails or finds nothing to delete has changed nothing. -/
theorem ledger_balances (errands : ι → Errand) (results : ι → Result)
    {start finish : Finset JobSetKey}
    (h : Interleaved Cluster.Permits (fun i => (errands i).program) start ts
      (fun i => .done (results i)) finish) :
    (∀ key, (submissions (fun i => (errands i).key) results key : Int)
        - requests (fun i => (errands i).key) results key
      = Cluster.liveness finish key - Cluster.liveness start key)
    ∧ (∀ key, requests (fun i => (errands i).key) results key = 0 →
        submissions (fun i => (errands i).key) results key ≤ 1)
    ∧ ∀ t ∈ ts, (∃ e, results t.who = .error e) ∨ results t.who = .ok (.deleted .notFound) →
        t.after = t.before := by
  have haccountable := fun i => (errands i).accountable
  have hbalance : ∀ key, (submissions (fun i => (errands i).key) results key : Int)
        - requests (fun i => (errands i).key) results key
      = Cluster.liveness finish key - Cluster.liveness start key := by
    intro key
    -- no errand has said anything before it was begun
    have hstart : account (fun i => (errands i).key) (fun i => (errands i).program) key = 0 :=
      Finset.sum_eq_zero fun i _ => by rw [standing_program, ite_self]
    have hrun := account_run h haccountable key
    rw [account_done, hstart] at hrun
    omega
  refine ⟨hbalance, fun key hnone => ?_, fun t ht hidle => ?_⟩
  · have hkey := hbalance key
    have hstart := Cluster.liveness_nonneg start key
    have hfinish := Cluster.liveness_le_one finish key
    omega
  · by_contra hchange
    obtain ⟨r, hdone, hcredit⟩ := credit_of_change h haccountable ht hchange
    cases hdone
    rcases hidle with ⟨e, he⟩ | hgone
    · exact hcredit (by rw [he]; rfl)
    · exact hcredit (by rw [hgone]; rfl)

/-- A job without pods. -/
def raceJob : JobSetJob where
  config := {
    name := "j", command := "", project := "p", zone := "z", envId := none, serviceAccount := none
    impersonateAccount := none, impersonateScopes := [], bundler := none, variant := none
    accelerator := none, envVars := Dict.empty, ns := "default", queue := none, maxTries := 1
    outputDir := none, preProvisioner := false }
  replicated := { kind := .tpu, jobs := [] }

/-- How the cluster of the race addresses JobSets. -/
def raceResource : Kube.Resource := .of Kube.fallbackApiVersion Kube.jobSetKind

/-- Two callers submit the job and a third one has an older one deleted. -/
def race : Fin 3 → Errand
  | 0 => .execute raceJob
  | 1 => .execute raceJob
  | 2 => .deleteRef ⟨"old", "default", none, []⟩

def exists409 : Kube.Failure := Scripted.refusal 409 "AlreadyExists" " exists" "default" "j"

/-- The second caller comes first. -/
def raceResults : Fin 3 → Result
  | 0 => .error (.submission "j" exists409)
  | 1 => .ok (.submitted .null)
  | 2 => .ok (.deleted .requested)

/-- The three get through, the second caller before the first. -/
theorem race_runs : ∃ ts, Interleaved Cluster.Permits (fun i => (race i).program)
    {("default", "old")} ts (fun i => .done (raceResults i)) {("default", "j")} := by
  -- both callers know how to address JobSets before either of them creates one
  refine Interleaved.exists_turn 0 (.credentials none []) rfl (.ok (.ambient {})) rfl ?_
  refine Interleaved.exists_turn 0 (.resolve _) rfl (.ok (some raceResource)) rfl ?_
  refine Interleaved.exists_turn 1 (.credentials none []) rfl (.ok (.ambient {})) rfl ?_
  refine Interleaved.exists_turn 1 (.resolve _) rfl (.ok (some raceResource)) rfl ?_
  refine Interleaved.exists_turn 1 (.create _ "default" _ _) rfl (.ok .null) ⟨by decide, rfl⟩ ?_
  refine Interleaved.exists_turn 2 (.credentials none []) rfl (.ok (.ambient {})) rfl ?_
  refine Interleaved.exists_turn 0 (.create _ "default" _ _) rfl (.error exists409) rfl ?_
  refine Interleaved.exists_turn 2 (.resolve _) rfl (.ok (some raceResource)) rfl ?_
  refine Interleaved.exists_turn 2 (.delete _ "default" _ "old") rfl (.ok ()) ⟨by decide, rfl⟩ ?_
  refine Interleaved.exists_nil (fun i => ?_) ?_
  · fin_cases i <;> rfl
  · decide

/-- The JobSet is submitted once, and the caller that comes late changes nothing. -/
theorem ledger_balances_race : ∃ ts,
    Interleaved Cluster.Permits (fun i => (race i).program) {("default", "old")} ts
      (fun i => .done (raceResults i)) {("default", "j")}
    ∧ (submissions (fun i => (race i).key) raceResults ("default", "old") : Int)
        - requests (fun i => (race i).key) raceResults ("default", "old") = 0 - 1
    ∧ submissions (fun i => (race i).key) raceResults ("default", "j") ≤ 1
    ∧ ∀ t ∈ ts, t.who = 0 → t.after = t.before := by
  obtain ⟨ts, h⟩ := race_runs
  obtain ⟨hbalance, hone, hidle⟩ := ledger_balances race raceResults h
  refine ⟨ts, h, hbalance ("default", "old"), hone ("default", "j") ?_, fun t ht hwho => ?_⟩
  · decide
  · exact hidle t ht (.inl ⟨.submission "j" exists409, by rw [hwho]; rfl⟩)

end Ledger

end JobLauncher
