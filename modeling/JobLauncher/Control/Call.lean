import JobLauncher.Kube.JobSets
import JobLauncher.Remote

/-!
# Calls

Whatever the control of jobs asks of the world outside. A `Control` program makes these calls and
nothing else happens; who runs it says what the calls do.
-/

namespace JobLauncher

/-- A call to the world outside. -/
inductive Call where
  /-- Credentials, for an account to act as if there is one. -/
  | credentials (account : Option String) (scopes : List String)
  /-- How the cluster addresses JobSets; nothing if it does not know them. -/
  | resolve (c : Kube.Credentials)
  | create (c : Kube.Credentials) (ns : String) (r : Kube.Resource) (body : Json)
  | delete (c : Kube.Credentials) (ns : String) (r : Kube.Resource) (name : String)
  /-- Runs a line in the shell. -/
  | run (line : String)

/-- What a call gives back: a value, or why there is none. -/
abbrev Call.Answer : Call → Type
  | .credentials _ _ => Except Error Kube.Credentials
  | .resolve _ => Except Kube.Failure (Option Kube.Resource)
  | .create _ _ _ _ => Except Kube.Failure Json
  | .delete _ _ _ _ => Except Kube.Failure Unit
  | .run _ => Except String Remote.Output

/-- A program that makes calls. -/
abbrev Control (α : Type) := Program Call Call.Answer α

end JobLauncher
