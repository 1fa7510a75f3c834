import JobLauncher.Control.Host
import JobLauncher.Job.Error
import JobLauncher.Settings.Location

/-!
# Sessions

A command reads settings and controls jobs. A `Session` does both step by step, and on a machine
each step becomes what the machine does.
-/

namespace JobLauncher.Cli

/-- A step of a command. -/
inductive Step where
  | readFile (path : String)
  | call (c : Call)

/-- What a step gives. -/
abbrev Step.Answer : Step → Type
  | .readFile _ => Settings.Reading
  | .call c => c.Answer

/-- A program that takes steps. -/
abbrev Session (α : Type) := Program Step Step.Answer α

/-- The control of jobs as part of a session. -/
def Session.control (p : Control α) : Session α := p.refine fun c => Program.question (Step.call c)

/-- A step as it is taken on a machine. -/
def Step.onMachine (ambient : Except String Kube.ClientConfig) : (s : Step) → Deeds s.Answer
  | .readFile path => Program.question (Deed.read path)
  | .call c => c.onMachine ambient

/-- A session on a machine. -/
def Session.onMachine (ambient : Except String Kube.ClientConfig) (p : Session α) : Deeds α :=
  p.refine (Step.onMachine ambient)

/-- Why a command fails. -/
inductive Error where
  | job (e : Job.Error)
  | settings (e : Settings.LoadError)
  deriving DecidableEq, Repr

def Error.message : Error → String
  | .job e => e.message
  | .settings e => e.message

end JobLauncher.Cli
