import JobLauncher.Control.Call

/-!
# A scripted world

A world to try jobs in. It knows which JobSets are there and keeps to what has been written down for
it: who gets no credentials, what the cluster says about JobSets, which calls fail, and what
commands leave behind. A failure that is due comes before anything is changed.
-/

namespace JobLauncher

/-- What is written down for a world, and the JobSets that are there. -/
structure Scripted where
  /-- Accounts that get an error in place of credentials. -/
  authErrors : List (Option String × Error) := []
  resource : Except Kube.Failure (Option Kube.Resource) :=
    .ok (some (Kube.Resource.of Kube.fallbackApiVersion Kube.jobSetKind))
  /-- What the next calls to create or to delete fail with, if they do. -/
  createErrors : List (Option Kube.Failure) := []
  deleteErrors : List (Option Kube.Failure) := []
  /-- What the next commands leave. -/
  runs : List (Except String Remote.Output) := []
  /-- The JobSets that are there, by namespace and name. -/
  live : List (String × String) := []

namespace Scripted

/-- The answer to a request for credentials. -/
def credentials (w : Scripted) (account : Option String) (scopes : List String) :
    Except Error Kube.Credentials :=
  match w.authErrors.lookup account with
  | some e => .error e
  | none => .ok ⟨{}, account, scopes⟩

/-- The name in the metadata of an object. -/
def nameOf (body : Json) : String :=
  (((body.field? "metadata").bind (Json.field? "name")).bind Json.text?).getD ""

/-- The refusal of a call about one JobSet. -/
def refusal (code : Nat) (reason what : String) (ns name : String) : Kube.Failure :=
  .api ⟨"Failure", ns ++ "/" ++ name ++ what, reason, code⟩

/-- Creates a JobSet unless it is there already. -/
def create (w : Scripted) (ns name : String) (body : Json) :
    Except Kube.Failure Json × Scripted :=
  let due := w.createErrors.head?.join
  let w := { w with createErrors := w.createErrors.tail }
  match due with
  | some f => (.error f, w)
  | none =>
    if (ns, name) ∈ w.live then (.error (refusal 409 "AlreadyExists" " exists" ns name), w)
    else (.ok body, { w with live := (ns, name) :: w.live })

/-- Deletes a JobSet that is there. -/
def delete (w : Scripted) (ns name : String) : Except Kube.Failure Unit × Scripted :=
  let due := w.deleteErrors.head?.join
  let w := { w with deleteErrors := w.deleteErrors.tail }
  match due with
  | some f => (.error f, w)
  | none =>
    if (ns, name) ∈ w.live then (.ok (), { w with live := w.live.filter (· ≠ (ns, name)) })
    else (.error (refusal 404 "NotFound" " not found" ns name), w)

/-- Runs a command; when nothing is written down any more, it succeeds and says nothing. -/
def run (w : Scripted) : Except String Remote.Output × Scripted :=
  (w.runs.head?.getD (.ok {}), { w with runs := w.runs.tail })

/-- The answer of the world to a call, and the world after it. -/
def answer (call : Call) (w : Scripted) : call.Answer × Scripted :=
  match call with
  | .credentials account scopes => (w.credentials account scopes, w)
  | .resolve _ => (w.resource, w)
  | .create _ ns _ body => w.create ns (nameOf body) body
  | .delete _ ns _ name => w.delete ns name
  | .run _ => w.run

end Scripted

end JobLauncher
