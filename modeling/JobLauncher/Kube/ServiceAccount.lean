import JobLauncher.Error
import JobLauncher.Kube.Resource

/-!
# Service accounts

A service account is named by itself, with its namespace, or by the user name under which the
cluster knows it. `ServiceAccount.parse` reads all three; `username` writes the last.
-/

namespace JobLauncher.Kube

/-- A service account in a namespace. -/
structure ServiceAccount where
  ns : String
  name : String
  deriving DecidableEq, Repr

namespace ServiceAccount

/-- What the user name of every service account begins with. -/
def userPrefix : String := "system:serviceaccount:"

/-- The forms of a reference, for messages. -/
def expected : String :=
  "expected <name>, <namespace>:<name> or system:serviceaccount:<namespace>:<name>"

/-- Reads a reference to a service account. Without a namespace the default one is meant. -/
def parse (account : String) : Except Error ServiceAccount :=
  let ref := (Text.dropStart? userPrefix account).getD account
  let (ns, name) := (Text.cut? ':' ref).getD (defaultNamespace, ref)
  if ns = "" ∨ name = "" ∨ Text.has ':' name then .error (.auth account expected)
  else .ok ⟨ns, name⟩

/-- The user name of the account in the cluster. -/
def username (a : ServiceAccount) : String := userPrefix ++ a.ns ++ ":" ++ a.name

end ServiceAccount

end JobLauncher.Kube
