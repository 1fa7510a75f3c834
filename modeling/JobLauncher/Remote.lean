import JobLauncher.Shell.Quote

/-!
# Commands on virtual machines

A command reaches a machine through two shells: the near one reads the line of the SSH tool, in
which the command stands between double quotes, and the far one runs it. Whatever the caller gives
is quoted for the shells it passes through, so it arrives as it was given.
-/

namespace JobLauncher.Remote

/-- The SSH tool used unless another is named. -/
def defaultTool : String := "gcloud compute"

/-- The directory in which commands start, on machines and in containers. -/
def workDir : String := "/root"

/-- A machine and the tool that reaches it. The tool may be several words. -/
structure Target where
  tool : String := defaultTool
  name : String
  project : String
  zone : String
  deriving DecidableEq, Repr

/-- What a finished command leaves. -/
structure Output where
  /-- The exit status; none if a signal ended the command. -/
  status : Option Int := some 0
  stdout : String := ""
  stderr : String := ""
  deriving DecidableEq, Repr

def Output.success (o : Output) : Bool := o.status == some 0

/-- The command with a change to the working directory in front. -/
def inWorkDir (cmd : String) : String := "pushd " ++ workDir ++ " && " ++ cmd

/-- The far shell's line that runs `cmd` in a login shell of the superuser, written for the near
shell's double quotes. With a session name the shell runs in a detached screen of that name, and a
lost connection does not stop it. -/
def shellCommand (cmd : String) (session : Option String) : String :=
  let login := "sudo -i bash -c " ++ Shell.quoteForRemote (inWorkDir cmd)
  match session with
  | none => login
  | some s => "sudo screen -dmS " ++ Shell.quoteForRemote s ++ " " ++ login

/-- The near shell's line that runs `cmd` on the machine. -/
def sshCommand (target : Target) (cmd : String) (session : Option String) : String :=
  target.tool ++ " -q ssh " ++ Shell.quote target.name
    ++ " --project=" ++ Shell.quote target.project
    ++ " --zone=" ++ Shell.quote target.zone
    ++ " --command=\"" ++ shellCommand cmd session ++ "\""

end JobLauncher.Remote
