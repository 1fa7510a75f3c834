import JobLauncher.Control.Call
import JobLauncher.Kube.JobSets
import JobLauncher.Settings.Location

/-!
# Calls on a machine

A machine can read files, send requests over the network and run lines in its shell. Every call of
the control of jobs comes down to the last two.
-/

namespace JobLauncher

/-- What is done on a machine. -/
inductive Deed where
  | read (path : String)
  | send (request : Kube.Http.Request)
  | runLine (line : String)

/-- What a deed gives. -/
abbrev Deed.Answer : Deed → Type
  | .read _ => Settings.Reading
  | .send _ => Except String Kube.Http.Reply
  | .runLine _ => Except String Remote.Output

/-- A program whose questions are deeds. -/
abbrev Deeds (α : Type) := Program Deed Deed.Answer α

/-- An exchange of requests, each sent by the machine. -/
def Kube.onMachine (p : Kube.Exchange α) : Deeds α :=
  p.refine fun request => Program.question (Deed.send request)

/-- A call as it is made on a machine, under the identity that the machine has, if it has one. -/
def Call.onMachine (ambient : Except String Kube.ClientConfig) : (call : Call) → Deeds call.Answer
  | .credentials account scopes => Kube.onMachine (Kube.getCredentials ambient account scopes)
  | .resolve c => Kube.onMachine c.resolve
  | .create c ns r body => Kube.onMachine (c.create ns r body)
  | .delete c ns r name => Kube.onMachine (c.delete ns r name)
  | .run line => Program.question (Deed.runLine line)

/-- The control of jobs on a machine. -/
def Control.onMachine (ambient : Except String Kube.ClientConfig) (p : Control α) : Deeds α :=
  p.refine (Call.onMachine ambient)

end JobLauncher
