import JobLauncher.Error
import JobLauncher.JobSet.Compile

/-!
# Errors of jobs

What can go wrong with one job: when it is configured, when it is submitted or deleted, and when its
command runs on a machine.
-/

namespace JobLauncher.Job

/-- An error of a job. -/
inductive Error where
  /-- The job is not allowed as it is configured. -/
  | config (job message : String)
  | auth (account message : String)
  /-- The cluster did not take the job. -/
  | submission (job : String) (source : Kube.Failure)
  /-- The cluster does not know JobSets. -/
  | crdMissing (job : String)
  | deletion (job : String) (source : Kube.Failure)
  /-- A command ended with a status other than zero; no status means that a signal ended it. -/
  | remoteExec (status : Option Int) (stdout stderr : String)
  | common (source : JobLauncher.Error)
  | serialization (text : String)
  /-- A command could not be run at all. -/
  | io (text : String)
  deriving DecidableEq, Repr

namespace Error

def message : Error → String
  | .config job message => "invalid configuration for job '" ++ job ++ "': " ++ message
  | .auth account message => "auth error for " ++ account ++ ": " ++ message
  | .submission job source => "failed to submit JobSet '" ++ job ++ "': " ++ source.message
  | .crdMissing job =>
    "JobSet CRD (jobset.x-k8s.io/JobSet) not available, cannot submit '" ++ job ++ "'"
  | .deletion job source => "failed to delete JobSet '" ++ job ++ "': " ++ source.message
  | .remoteExec status _ stderr =>
    "remote command failed with status "
      ++ (match status with | none => "signal" | some code => toString code) ++ ": " ++ stderr
  | .common source => source.message
  | .serialization text => "serialization error: " ++ text
  | .io text => "io error: " ++ text

/-- Whether the error is one of submitting a job to the cluster. -/
def isSubmission : Error → Bool
  | .submission _ _ | .crdMissing _ => true
  | _ => false

/-- An error of the shared parts, seen as one of the job at hand. -/
def ofError : JobLauncher.Error → Error
  | .auth account message => .auth account message
  | .validation job message _ => .config job message
  | other => .common other

/-- A job that does not compile is one that is not allowed. -/
def ofCompile (e : JobSet.CompileError) : Error := .config e.job e.message

end Error

end JobLauncher.Job
