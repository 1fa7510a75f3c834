import JobLauncher.Control.Call
import JobLauncher.Job.Config

/-!
# Jobs on machines

A job without an accelerator runs on a machine that is there already, over SSH.
-/

namespace JobLauncher

/-- A job for a machine. -/
structure VmJob where
  config : Job.Config
  tool : String := Remote.defaultTool
  /-- The screen in which the job's own command runs. -/
  session : Option String := none

namespace VmJob

/-- The machine of the job. -/
def target (j : VmJob) : Remote.Target :=
  ⟨j.tool, j.config.name, j.config.project, j.config.zone⟩

/-- Runs a command on the machine. A status other than zero is an error. -/
def runCommand (j : VmJob) (cmd : String) (session : Option String) :
    Control (Except Job.Error Remote.Output) :=
  .ask (.run (Remote.sshCommand j.target cmd session)) fun
  | .error text => .done (.error (.io text))
  | .ok output =>
    if output.success then .done (.ok output)
    else .done (.error (.remoteExec output.status output.stdout output.stderr))

/-- Runs the command of the job. -/
def execute (j : VmJob) : Control (Except Job.Error Remote.Output) :=
  j.runCommand j.config.command j.session

end VmJob

end JobLauncher
