import JobLauncher.Control.JobSet
import JobLauncher.Control.Vm

/-!
# Jobs of either kind

A job runs in a cluster or on a machine, as its configuration says.
-/

namespace JobLauncher

/-- A job. -/
inductive Job where
  | jobSet (j : JobSetJob)
  | vm (j : VmJob)

/-- What running a job gives. -/
inductive Job.Outcome where
  /-- The object as the cluster has it. -/
  | submitted (created : Json)
  | ran (output : Remote.Output)

namespace Job

/-- The job of a configuration: for the cluster if it names a variant. -/
def ofConfig (c : Config) : Except Error Job :=
  if c.isJobSet then (JobSetJob.ofConfig c).map .jobSet else .ok (.vm { config := c })

def config : Job → Config
  | .jobSet j => j.config
  | .vm j => j.config

/-- Submits the job or runs its command. -/
def execute : Job → Control (Except Error Outcome)
  | .jobSet j => j.execute.bind fun r => .done (r.map .submitted)
  | .vm j => j.execute.bind fun r => .done (r.map .ran)

/-- Has the job deleted from the cluster. There is nothing of a machine's job to delete. -/
def delete : Job → Control (Except Error Deletion)
  | .jobSet j => j.delete
  | .vm j => .done (.error (.config j.config.name "VM jobs have no cluster resources to delete"))

/-- The annotations of the JobSet that the job would submit. -/
def annotations : Job → Except Error (Dict String)
  | .jobSet j => j.compile.map (·.annotations)
  | .vm _ => .ok Dict.empty

end Job

end JobLauncher
