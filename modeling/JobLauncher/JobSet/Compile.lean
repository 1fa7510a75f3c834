import JobLauncher.JobSet.Document

/-!
# Compiling JobSets

From what a job asks for and the replicated jobs of its accelerator to a document. The compiler
checks what has to hold of every JobSet and leaves the replicated jobs as they are.
-/

namespace JobLauncher.JobSet

/-- The annotation by which a queue admits a job. -/
def queueAnnotation : String := "kueue.x-k8s.io/queue-name"

/-- The annotation that keeps every replicated job within one domain. -/
def exclusiveTopologyAnnotation : String := "alpha.jobset.sigs.k8s.io/exclusive-topology"

/-- The domain made up of the nodes of one pool. -/
def nodePoolTopology : String := "cloud.google.com/gke-nodepool"

/-- What a job asks of its JobSet. -/
structure Plan where
  name : String
  /-- How often the job may be tried, the first time included. -/
  maxTries : UInt32
  queue : Option String
  /-- Annotations that the accelerator asks for. -/
  annotations : Dict String

/-- Why a plan and its replicated jobs make no JobSet. -/
inductive CompileError where
  | invalidMaxTries (job : String)
  | duplicateReplicatedJob (job name : String)
  | unnamedReplicatedJob (job : String) (index : Nat)
  deriving DecidableEq, Repr

namespace CompileError

/-- The job that does not compile. -/
def job : CompileError → String
  | .invalidMaxTries job => job
  | .duplicateReplicatedJob job _ => job
  | .unnamedReplicatedJob job _ => job

def message : CompileError → String
  | .invalidMaxTries job => "max_tries must be at least 1 for job '" ++ job ++ "'"
  | .duplicateReplicatedJob job name =>
    "replicated job '" ++ name ++ "' appears more than once in job '" ++ job ++ "'"
  | .unnamedReplicatedJob job index =>
    "replicated job " ++ toString index ++ " in job '" ++ job ++ "' has no name"

end CompileError

/-- Checks that every replicated job has a name and that no name comes twice. `index` counts the
jobs before these and `seen` holds their names. -/
def checkNames (job : String) (index : Nat) (seen : List String) :
    List Json → Except CompileError Unit
  | [] => .ok ()
  | r :: rest =>
    match replicatedJobName? r with
    | none => .error (.unnamedReplicatedJob job index)
    | some name =>
      if name ∈ seen then .error (.duplicateReplicatedJob job name)
      else checkNames job (index + 1) (name :: seen) rest

/-- The annotations of the document: the queue, if there is one, and what the accelerator asks for.
An accelerator does not replace the queue. -/
def compileAnnotations (plan : Plan) : Dict String :=
  let base := match plan.queue with
    | none => Dict.empty
    | some queue => Dict.empty.insert queueAnnotation queue
  plan.annotations.toList.foldl (fun d e => d.insertNew e.1 e.2) base

/-- The document of a plan. The first try is not a restart. -/
def compile (plan : Plan) (replicatedJobs : List Json) : Except CompileError Document :=
  if plan.maxTries = 0 then .error (.invalidMaxTries plan.name)
  else do
    checkNames plan.name 0 [] replicatedJobs
    return {
      name := plan.name
      annotations := compileAnnotations plan
      maxRestarts := plan.maxTries - 1
      replicatedJobs }

end JobLauncher.JobSet
