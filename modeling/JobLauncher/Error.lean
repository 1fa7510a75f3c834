import JobLauncher.Kube.Failure

/-!
# Errors

What can go wrong in the parts that every command shares: the cluster interface, credentials and
settings. Each cause names what it concerns, as far as that is known.
-/

namespace JobLauncher

/-- An error of the shared parts. -/
inductive Error where
  | kube (source : Kube.Failure)
  /-- A value that is not allowed; `field` says where, if known. -/
  | validation (job message : String) (field : Option String)
  /-- The identity `account` is missing or may not be used. -/
  | auth (account message : String)
  /-- The settings file at `path` cannot be used. -/
  | settings (path message : String)
  | serialization (message : String)
  | internal (context message : String)
  deriving DecidableEq, Repr

namespace Error

/-- Stands for a job that is not known. -/
def unknownJob : String := "unknown"

/-- An error about the identity that was asked for, or about the ambient one. -/
def authFor (account : Option String) (message : String) : Error :=
  .auth (account.getD "ambient") message

def message : Error → String
  | .kube source => "kubernetes error: " ++ source.message
  | .validation job message _ => "validation error for " ++ job ++ ": " ++ message
  | .auth account message => "auth error for " ++ account ++ ": " ++ message
  | .settings path message => "settings error [" ++ path ++ "]: " ++ message
  | .serialization message => "serialization error: " ++ message
  | .internal context message => "internal error [" ++ context ++ "]: " ++ message

/-- The job an error is about, if that is known. -/
def job? : Error → Option String
  | .validation job _ _ => if job = unknownJob then none else some job
  | _ => none

/-- Whether the error is about who asked rather than what was asked. -/
def isAuth : Error → Bool
  | .auth _ _ => true
  | .kube source => source.isAuth
  | _ => false

end Error

end JobLauncher
