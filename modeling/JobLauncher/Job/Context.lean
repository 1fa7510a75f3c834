import JobLauncher.Job.Config
import JobLauncher.Json.Basic

/-!
# What replicated jobs are made from

The part of a job that its pods depend on, and what an accelerator makes of it.
-/

namespace JobLauncher.Job

/-- What pods need to know of their job. -/
structure Context where
  name : String
  command : String
  image : String
  serviceAccount : String
  envVars : Dict String
  outputDir : Option String
  preProvisioner : Bool
  deriving DecidableEq

/-- The context of a job, which needs an image. -/
def Context.ofConfig (c : Config) : Except Error Context :=
  match c.image? with
  | none => .error (.config c.name "only docker bundler supported for JobSet jobs")
  | some image => .ok {
      name := c.name
      command := c.command
      image
      serviceAccount := c.serviceAccount.getD Kube.defaultServiceAccount
      envVars := c.envVars
      outputDir := c.outputDir
      preProvisioner := c.preProvisioner }

/-- What an accelerator makes of a job: the jobs that the cluster replicates and the annotations
that go with them. -/
structure Replicated where
  kind : Accelerator.Kind
  jobs : List Json
  annotations : Dict String := Dict.empty

end JobLauncher.Job
