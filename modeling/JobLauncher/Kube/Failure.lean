import JobLauncher.Text.Quoted

/-!
# Failures of the cluster interface

Why a call to the cluster gave no result.
-/

namespace JobLauncher.Kube

/-- What the cluster says about a request that it refuses. -/
structure Status where
  status : String
  message : String
  reason : String
  code : Nat
  deriving DecidableEq, Repr

/-- The status with its fields named, for messages. -/
def Status.describe (s : Status) : String :=
  "ErrorResponse \x7b status: " ++ Text.quoted s.status ++ ", message: " ++ Text.quoted s.message
    ++ ", reason: " ++ Text.quoted s.reason ++ ", code: " ++ toString s.code ++ " \x7d"

/-- A call that failed. -/
inductive Failure where
  /-- The cluster refused the request. -/
  | api (status : Status)
  /-- The request did not reach the cluster or the reply did not come back. -/
  | service (text : String)
  /-- A name to act under cannot be sent in a header. -/
  | header
  /-- The reply is not what was asked for. -/
  | undecodable (text : String)
  /-- The request cannot be written down. -/
  | request (text : String)
  deriving DecidableEq, Repr

namespace Failure

def message : Failure → String
  | .api s => "ApiError: " ++ s.message ++ ": " ++ s.reason ++ " (" ++ s.describe ++ ")"
  | .service text => "ServiceError: " ++ text
  | .header => "HttpError: failed to parse header value"
  | .undecodable text => "Error deserializing response: " ++ text
  | .request text => "Failed to build request: " ++ text

/-- The status code of a refusal by the cluster. -/
def code? : Failure → Option Nat
  | .api s => some s.code
  | _ => none

/-- The cluster refused because there is no such object. -/
def isNotFound (f : Failure) : Bool := f.code? == some 404

/-- The cluster refused because of who asked. -/
def isAuth (f : Failure) : Bool := f.code? == some 401 || f.code? == some 403

end Failure

end JobLauncher.Kube
