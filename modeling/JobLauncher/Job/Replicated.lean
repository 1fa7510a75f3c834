import JobLauncher.Gpu.ReplicatedJob
import JobLauncher.Tpu.ReplicatedJob

/-!
# From a job to its JobSet

`Replicated.ofConfig` makes the replicated jobs of a configuration and `Config.compile` puts them
into a document. Both check for themselves what they need, also of configurations that are already
checked.
-/

namespace JobLauncher.Job

/-- The replicated jobs of a variant for an accelerator. -/
def Replicated.of (v : Variant) (a : Accelerator) (ctx : Context) :
    Except Accelerator.Fault Replicated :=
  match v with
  | .tpu options => (Tpu.ReplicatedJob.of ctx a options).map (·.replicated)
  | .gpu options => (Gpu.ReplicatedJob.of ctx a options).map (·.replicated)

/-- The replicated jobs of a job. -/
def Replicated.ofConfig (c : Config) : Except Error Replicated := do
  let some v := c.variant | throw (.config c.name "JobSet jobs require a replicated job builder")
  let some a := c.accelerator | throw (.config c.name "JobSet jobs require an accelerator")
  (v.check a).mapError fun f => .config c.name f.message
  let ctx ← Context.ofConfig c
  (Replicated.of v a ctx).mapError fun f => .config c.name f.message

/-- The document of a job with the given replicated jobs. -/
def Config.compile (c : Config) (r : Replicated) : Except Error JobSet.Document :=
  (JobSet.compile (c.plan r.annotations) r.jobs).mapError .ofCompile

end JobLauncher.Job
