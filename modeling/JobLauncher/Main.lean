import JobLauncher.Cli.Run
import JobLauncher.Shell.Run

/-!
# The command

Carries out a command line with the settings files of the machine. Lines run in the shell of
`JobLauncher.Shell.Run`; no cluster is known, so no request is ever answered.
-/

namespace JobLauncher.Main

/-- The variables that a shell starts with. -/
def shellVariables : IO (List (String × String)) := do
  let given ← ["HOME", "LC_ALL"].mapM fun name => return (name, ← IO.getEnv name)
  return given.filterMap fun (name, value?) => value?.map (name, ·)

/-- Reads a file. -/
def readFile (path : String) : IO Settings.Reading := do
  try
    let bytes ← IO.FS.readBinFile path
    match String.fromUTF8? bytes with
    | some text => return .text text
    | none => return .unreadable "stream did not contain valid UTF-8"
  catch e =>
    match e with
    | .noFileOrDirectory .. => return .missing (toString e)
    | _ => return .unreadable (toString e)

/-- Does what a command asks of the machine. -/
def perform : (d : Deed) → IO d.Answer
  | .read path => readFile path
  | .send _ => return .error "client error (Connect)"
  | .runLine line => return .ok (Shell.runLine (← shellVariables) line)

/-- Carries out a command line and gives the status to end with. -/
def execute (args : List String) : IO UInt32 := do
  match Cli.Invocation.parse args with
  | .error usage =>
    if usage.isAnswer then
      IO.println usage.message
      return 0
    IO.eprintln usage.message
    return 2
  | .ok invocation =>
    let env : Settings.Environment :=
      { file := ← IO.getEnv "LAUNCHPAD_SETTINGS", home := ← IO.getEnv "HOME" }
    match ← ((invocation.run env).onMachine (.error "no configuration")).runIn perform with
    | .ok text =>
      IO.print text
      return 0
    | .error e =>
      IO.eprintln ("Error: " ++ e.message)
      return 1

end JobLauncher.Main

/-- The command. -/
def main (args : List String) : IO UInt32 := JobLauncher.Main.execute args
