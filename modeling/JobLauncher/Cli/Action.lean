import JobLauncher.Cli.Value
import JobLauncher.Control.Job
import JobLauncher.Docker
import JobLauncher.Kube.JobSets

/-!
# Actions

What a command line can ask for, with all that it says about it.
-/

namespace JobLauncher.Cli

/-- What a command line says about a job for the cluster. -/
structure JobArgs where
  name : String
  command : String
  project : Option String := none
  zone : Option String := none
  envId : Option String := none
  serviceAccount : Option String := none
  impersonateAccount : Option String := none
  impersonateScopes : List String := []
  image : Option String := none
  instanceType : String
  replicas : UInt32 := 1
  env : List (String × String) := []
  ns : String := Kube.defaultNamespace
  queue : Option String := none
  maxTries : UInt32 := 1
  outputDir : Option String := none
  preProvisioner : Bool := false
  deriving DecidableEq

namespace JobArgs

/-- The options of the job, in the order in which they are set. -/
def edits (a : JobArgs) (v : Variant) : List Job.Edit :=
  [.command a.command, .variant v, .accelerator ⟨a.instanceType, a.replicas⟩, .ns a.ns,
    .maxTries a.maxTries, .preProvisioner a.preProvisioner, .impersonateScopes a.impersonateScopes]
  ++ (a.project.map .project).toList
  ++ (a.zone.map .zone).toList
  ++ (a.envId.map .envId).toList
  ++ (a.serviceAccount.map .serviceAccount).toList
  ++ (a.impersonateAccount.map .impersonateAccount).toList
  ++ (a.image.map fun image => .bundler (.docker image)).toList
  ++ (a.queue.map .queue).toList
  ++ (a.outputDir.map .outputDir).toList
  ++ a.env.map fun p => .envVar p.1 p.2

/-- The job as it is described. -/
def draft (a : JobArgs) (v : Variant) : Job.Draft :=
  Job.Draft.applyAll { name := a.name } (a.edits v)

end JobArgs

/-- What a command line says about a command on a machine. -/
structure MachineArgs where
  name : String
  command : String
  project : Option String := none
  zone : Option String := none
  envId : Option String := none
  tool : String := Remote.defaultTool
  session : Option String := none
  deriving DecidableEq

/-- The job as it is described. -/
def MachineArgs.draft (a : MachineArgs) : Job.Draft :=
  Job.Draft.applyAll { name := a.name } (
    [.command a.command]
    ++ (a.project.map .project).toList
    ++ (a.zone.map .zone).toList
    ++ (a.envId.map .envId).toList)

/-- What a command line says about a command in a container. -/
structure ContainerArgs where
  command : String
  image : String
  session : Option String := none
  env : List String := []
  volumes : List (String × String) := []
  flags : List String := []
  deriving DecidableEq

/-- How to start the container. -/
def ContainerArgs.options (a : ContainerArgs) : Docker.RunOptions where
  image := a.image
  session := a.session
  env := a.env
  volumes := Dict.ofList a.volumes
  flags := a.flags

/-- Something to do. -/
inductive Action where
  /-- Submits a job to the cluster. -/
  | launch (args : JobArgs) (v : Variant)
  /-- Shows the document that a job would be submitted as. -/
  | build (args : JobArgs) (v : Variant) (format : Format) (apiVersion : String)
  /-- Has a job deleted from the cluster. -/
  | delete (target : JobSetRef)
  /-- Runs a command on a machine. -/
  | machine (args : MachineArgs)
  /-- Shows the line that runs a command in a container. -/
  | container (args : ContainerArgs)

/-- An action and the settings file to use for it, if one is named. -/
structure Invocation where
  settings : Option String
  action : Action

end JobLauncher.Cli
