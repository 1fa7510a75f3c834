import JobLauncher.Control.Job
import JobLauncher.Proofs.Control.Protocol
import JobLauncher.Proofs.Job.Compile

/-!
# Machines and clusters apart

A configuration with a variant is a job for the cluster, one without is a job for a machine, and the
two never meet. What is asked of a job is a list of operations, one after another, each whatever
came of those before it. `Program.InTurn` puts together what the operations go through one by one,
so it is enough to know the rounds and the reply of a single one (`VmJob.Serves`).

> `jobs_keep_apart`: a machine's job asks for nothing but lines to be run, one for each command, and
> what its operations come to is told by the answers alone; a job for the cluster has no line run.
-/

namespace JobLauncher

open Program (Round Course)

/-! ## Operations -/

namespace Job

/-- What can be asked of a job. On a machine, commands other than the job's own can be run too. -/
inductive Operation : Job → Type where
  | execute (j : Job) : Operation j
  | delete (j : Job) : Operation j
  | annotations (j : Job) : Operation j
  | command (v : VmJob) (cmd : String) (session : Option String) : Operation (.vm v)

/-- What an operation comes to. -/
inductive Reply where
  | executed (r : Except Error Outcome)
  | deleted (r : Except Error Deletion)
  | annotated (r : Except Error (Dict String))
  | ran (r : Except Error Remote.Output)

/-- The program of an operation. -/
def Operation.program {j : Job} : Operation j → Control Reply
  | .execute j => j.execute.bind fun r => .done (.executed r)
  | .delete j => j.delete.bind fun r => .done (.deleted r)
  | .annotations j => .done (.annotated j.annotations)
  | .command v cmd session => (v.runCommand cmd session).bind fun r => .done (.ran r)

/-- Operations one after another. -/
def serve {j : Job} (ops : List (Operation j)) : Control (List Reply) :=
  Program.inTurn (ops.map (·.program))

end Job

/-! ## Jobs for machines -/

namespace VmJob

variable {v : VmJob} {rs : List (Round Call Call.Answer)} {reply : Job.Reply}

/-- What a line that is run comes to: its output if it ended with the status zero, the whole output
as an error if it ended with another one or with none, and another error if it could not be run. -/
inductive ComesTo : Except String Remote.Output → Except Job.Error Remote.Output → Prop where
  | success {o : Remote.Output} (h : o.status = some 0) : ComesTo (.ok o) (.ok o)
  | failure {o : Remote.Output} (h : o.status ≠ some 0) :
      ComesTo (.ok o) (.error (.remoteExec o.status o.stdout o.stderr))
  | unavailable (text : String) : ComesTo (.error text) (.error (.io text))

/-- One line is run for a command, that of the SSH tool on the machine of the job. -/
theorem course_runCommand {cmd : String} {session : Option String}
    {result : Except Job.Error Remote.Output} :
    Course (v.runCommand cmd session) rs result ↔ ∃ answer, ComesTo answer result
      ∧ rs = [⟨.run (Remote.sshCommand
          ⟨v.tool, v.config.name, v.config.project, v.config.zone⟩ cmd session), answer⟩] := by
  have hsuccess {o : Remote.Output} (h : o.status = some 0) : o.success = true := beq_iff_eq.mpr h
  have hfailure {o : Remote.Output} (h : o.status ≠ some 0) : o.success = false :=
    beq_eq_false_iff_ne.mpr h
  unfold runCommand
  rw [Program.course_ask]
  constructor
  -- the tool could not be run, or it ended in some way
  · rintro ⟨text | o, rest, rfl, hend⟩
    · obtain ⟨rfl, rfl⟩ := Program.course_done.mp hend
      exact ⟨.error text, .unavailable text, rfl⟩
    by_cases hzero : o.status = some 0
    · simp only [hsuccess hzero, if_true] at hend
      obtain ⟨rfl, rfl⟩ := Program.course_done.mp hend
      exact ⟨.ok o, .success hzero, rfl⟩
    · simp only [hfailure hzero, Bool.false_eq_true, if_false] at hend
      obtain ⟨rfl, rfl⟩ := Program.course_done.mp hend
      exact ⟨.ok o, .failure hzero, rfl⟩
  · rintro ⟨answer, hcomes, rfl⟩
    refine ⟨answer, [], rfl, ?_⟩
    cases hcomes with
    | success h =>
      simp only [hsuccess h, if_true]
      exact .done _
    | failure h =>
      simp only [hfailure h, Bool.false_eq_true, if_false]
      exact .done _
    | unavailable text => exact .done _

/-- The rounds of each operation on a machine's job, and its reply. -/
inductive Serves (v : VmJob) :
    Job.Operation (.vm v) → List (Round Call Call.Answer) → Job.Reply → Prop where
  | execute {answer : Except String Remote.Output} {result : Except Job.Error Remote.Output}
      (h : ComesTo answer result) : Serves v (.execute _)
      [⟨.run (Remote.sshCommand ⟨v.tool, v.config.name, v.config.project, v.config.zone⟩
        v.config.command v.session), answer⟩] (.executed (result.map .ran))
  | command (cmd : String) (session : Option String) {answer : Except String Remote.Output}
      {result : Except Job.Error Remote.Output} (h : ComesTo answer result) :
      Serves v (.command v cmd session)
      [⟨.run (Remote.sshCommand ⟨v.tool, v.config.name, v.config.project, v.config.zone⟩
        cmd session), answer⟩] (.ran result)
  | delete : Serves v (.delete _) []
      (.deleted (.error (.config v.config.name "VM jobs have no cluster resources to delete")))
  | annotations : Serves v (.annotations _) [] (.annotated (.ok Dict.empty))

/-- An operation on a machine's job goes through these rounds, whatever the answers. -/
theorem course_program (op : Job.Operation (.vm v)) (rs : List (Round Call Call.Answer))
    (reply : Job.Reply) : Course op.program rs reply ↔ v.Serves op rs reply := by
  cases op with
  | execute =>
    constructor
    · intro h
      obtain ⟨outcome, hexecute, rfl⟩ := Program.course_map.mp h
      obtain ⟨result, hrun, rfl⟩ := Program.course_map.mp hexecute
      obtain ⟨answer, hcomes, rfl⟩ := course_runCommand.mp hrun
      exact .execute hcomes
    · rintro ⟨hcomes⟩
      refine Program.course_map.mpr ⟨_, Program.course_map.mpr ⟨_, ?_, rfl⟩, rfl⟩
      exact course_runCommand.mpr ⟨_, hcomes, rfl⟩
  | command _ cmd session =>
    constructor
    · intro h
      obtain ⟨result, hrun, rfl⟩ := Program.course_map.mp h
      obtain ⟨answer, hcomes, rfl⟩ := course_runCommand.mp hrun
      exact .command cmd session hcomes
    · intro h
      cases h with
      | command _ _ hcomes =>
        exact Program.course_map.mpr ⟨_, course_runCommand.mpr ⟨_, hcomes, rfl⟩, rfl⟩
  | delete =>
    constructor
    · intro h
      obtain ⟨rfl, rfl⟩ := Program.course_done.mp h
      exact .delete
    · rintro ⟨⟩
      exact .done _
  | annotations =>
    constructor
    · intro h
      obtain ⟨rfl, rfl⟩ := Program.course_done.mp h
      exact .annotations
    · rintro ⟨⟩
      exact .done _

/-- The lines that an operation runs: one for a command, and none otherwise. -/
def lines (v : VmJob) : Job.Operation (.vm v) → List String
  | .execute _ => [Remote.sshCommand v.target v.config.command v.session]
  | .command _ cmd session => [Remote.sshCommand v.target cmd session]
  | .delete _ => []
  | .annotations _ => []

theorem Serves.map_fst {op : Job.Operation (.vm v)} (h : v.Serves op rs reply) :
    rs.map (·.1) = (v.lines op).map .run := by
  cases h with
  | _ => rfl

end VmJob

/-! ## Jobs for the cluster -/

namespace JobSetJob

variable {j : JobSetJob} {rs : List (Round Call Call.Answer)} {reply : Job.Reply}

/-- No operation on a job for the cluster has a line run. -/
theorem ne_run_of_course {op : Job.Operation (.jobSet j)} (h : Course op.program rs reply) :
    ∀ r ∈ rs, ∀ line, r.1 ≠ .run line := by
  cases op with
  | execute =>
    obtain ⟨outcome, hexecute, rfl⟩ := Program.course_map.mp h
    obtain ⟨result, hsubmit, rfl⟩ := Program.course_map.mp hexecute
    cases submits_of_course hsubmit with
    | _ => simp [createCall]
  | delete =>
    obtain ⟨result, hdelete, rfl⟩ := Program.course_map.mp h
    cases JobSetRef.deletes_of_course hdelete with
    | _ => simp [JobSetRef.deleteCall]
  | annotations =>
    obtain ⟨rfl, rfl⟩ := Program.course_done.mp h
    exact List.forall_mem_nil _

end JobSetJob

/-! ## Both -/

namespace Job

/-- A configuration with a variant is never a job for a machine. -/
theorem exists_jobSetJob {c : Config} {j : Job} (hv : c.variant ≠ none) (h : ofConfig c = .ok j) :
    ∃ g, j = .jobSet g ∧ g.config = c := by
  have hcluster : c.isJobSet := Option.isSome_iff_ne_none.mpr hv
  rw [ofConfig, if_pos hcluster] at h
  obtain ⟨g, hg, rfl⟩ := Except.map_eq_ok.mp h
  obtain ⟨r, -, rfl⟩ := Except.map_eq_ok.mp hg
  exact ⟨⟨c, r⟩, rfl, rfl⟩

/-- Machines and clusters are kept apart. A configuration without a variant is a job for its
machine, and one with a variant a job for the cluster, always so if it has been built. Whatever is
asked of a machine's job, one operation after another, it goes through the rounds of
`VmJob.Serves`, whatever the answers, and through no others: for each command one line is run, and
nothing else is called. No line is ever run for a job for the cluster. -/
theorem jobs_keep_apart :
    (∀ c : Config, c.variant = none → ofConfig c = .ok (.vm { config := c }))
    ∧ (∀ c : Config, c.variant ≠ none →
      (∀ j, ofConfig c = .ok j → ∃ g, j = .jobSet g ∧ g.config = c)
      ∧ (c.Reachable → ∃ g, ofConfig c = .ok (.jobSet g)))
    ∧ (∀ (v : VmJob) (ops : List (Operation (.vm v))) rs replies,
      (Course (serve ops) rs replies ↔ Program.InTurn v.Serves ops rs replies)
      ∧ (Course (serve ops) rs replies → rs.map (·.1) = (ops.flatMap v.lines).map .run))
    ∧ ∀ (g : JobSetJob) (ops : List (Operation (.jobSet g))) rs replies,
      Course (serve ops) rs replies → ∀ r ∈ rs, ∀ line, r.1 ≠ .run line := by
  refine ⟨fun c hv => ?machine,
    fun c hv => ⟨fun j => exists_jobSetJob hv, fun hreachable => ?built⟩,
    fun v ops rs replies => ?machineServes, fun g ops rs replies h => ?clusterServes⟩
  case machine =>
    have hmachine : ¬c.isJobSet := by rw [Config.isJobSet, hv]; decide
    exact if_neg hmachine
  case built =>
    obtain ⟨variant, hvariant⟩ := Option.ne_none_iff_exists.mp hv
    obtain ⟨g, -, -, -, hjob, -⟩ := exists_jobSet_of_valid hreachable.valid hvariant.symm
    exact ⟨g, hjob⟩
  case machineServes =>
    have hserves : Course (serve ops) rs replies ↔ Program.InTurn v.Serves ops rs replies :=
      Program.course_inTurn VmJob.course_program
    refine ⟨hserves, fun h => ?_⟩
    rw [List.map_flatMap]
    exact (hserves.mp h).questions_eq fun op rs reply => VmJob.Serves.map_fst
  case clusterServes =>
    have hcourses := (Program.course_inTurn fun op rs reply => Iff.rfl).mp h
    exact hcourses.every (P := fun call => ∀ line, call ≠ .run line)
      fun op rs reply => JobSetJob.ne_run_of_course

/-- A job for a machine. -/
def greeting : Config :=
  (({ name := "vm-1" } : Draft).applyAll [.command "echo hi", .zone "us-central1-a"]).fill
    trainSettings "here" "us-central1-a"

/-- The line that a command comes to. -/
def greetingLine (far : String) : String :=
  "gcloud compute -q ssh vm-1 --project=here --zone=us-central1-a --command=\"" ++ far ++ "\""

/-- A machine's job, of which everything is asked: the first command is ended by a signal, the
second one succeeds and the third one cannot be run. And a job for the cluster that is asked for its
deletion without credentials. -/
theorem jobs_keep_apart_greeting :
    ofConfig greeting = .ok (.vm { config := greeting })
    ∧ Course (serve (j := .vm { config := greeting })
          [.execute _, .delete _, .command _ "ls" (some "s"), .annotations _, .execute _])
        [⟨.run (greetingLine "sudo -i bash -c 'pushd /root && echo hi'"),
            .ok ⟨none, "out", "err"⟩⟩,
          ⟨.run (greetingLine "sudo screen -dmS s sudo -i bash -c 'pushd /root && ls'"),
            .ok ⟨some 0, "", "err"⟩⟩,
          ⟨.run (greetingLine "sudo -i bash -c 'pushd /root && echo hi'"), .error "no bash"⟩]
        [.executed (.error (.remoteExec none "out" "err")),
          .deleted (.error (.config "vm-1" "VM jobs have no cluster resources to delete")),
          .ran (.ok ⟨some 0, "", "err"⟩), .annotated (.ok Dict.empty),
          .executed (.error (.io "no bash"))]
    ∧ ∃ g, ofConfig (trainDraft.fill trainSettings "here" "here") = .ok (.jobSet g)
      ∧ Course (serve (j := .jobSet g) [.delete _])
          [⟨.credentials none [], .error (.auth "me" "no")⟩] [.deleted (.error (.auth "me" "no"))]
      ∧ ∀ line, Call.credentials none [] ≠ .run line := by
  obtain ⟨hmachine, hcluster, hserves, hnoLine⟩ := jobs_keep_apart
  refine ⟨hmachine greeting rfl, ?machine, ?cluster⟩
  case machine =>
    -- the lines are computed once, so that the course can be stated with the texts themselves
    have hexecute : Remote.sshCommand ⟨"gcloud compute", "vm-1", "here", "us-central1-a"⟩
          "echo hi" none
        = greetingLine "sudo -i bash -c 'pushd /root && echo hi'" := by decide +kernel
    have hcommand : Remote.sshCommand ⟨"gcloud compute", "vm-1", "here", "us-central1-a"⟩
          "ls" (some "s")
        = greetingLine "sudo screen -dmS s sudo -i bash -c 'pushd /root && ls'" := by decide +kernel
    rw [← hexecute, ← hcommand]
    refine (hserves _ _ _ _).1.mpr ?_
    refine .cons (VmJob.Serves.execute (.failure (by decide))) ?_
    refine .cons VmJob.Serves.delete ?_
    refine .cons (VmJob.Serves.command "ls" (some "s") (.success rfl)) ?_
    refine .cons VmJob.Serves.annotations ?_
    exact .cons (VmJob.Serves.execute (.unavailable "no bash")) .nil
  case cluster =>
    have hbuild : trainDraft.build trainSettings
        = .ok (trainDraft.fill trainSettings "here" "here") := rfl
    obtain ⟨hjobSet, hbuilt⟩ := hcluster (trainDraft.fill trainSettings "here" "here") (by decide)
    obtain ⟨g, hg⟩ := hbuilt ⟨trainDraft, _, (Draft.Reachable.named "train").applyAll _, hbuild⟩
    obtain ⟨⟨c, r⟩, hsame, rfl⟩ := hjobSet _ hg
    cases hsame
    have hcourse : Course (serve (j := .jobSet ⟨trainDraft.fill trainSettings "here" "here", r⟩)
          [.delete _])
        [⟨.credentials none [], .error (.auth "me" "no")⟩]
        [.deleted (.error (.auth "me" "no"))] := by
      refine @Course.ask Call Call.Answer _ (.credentials none []) _ _ _
        (Except.error (.auth "me" "no")) ?_
      exact .done _
    exact ⟨_, hg, hcourse, hnoLine _ _ _ _ hcourse _ List.mem_cons_self⟩

end Job

end JobLauncher
