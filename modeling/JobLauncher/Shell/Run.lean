import JobLauncher.Remote
import JobLauncher.Shell.Execute
import JobLauncher.Text.Utf8

/-!
# Running a line

`runLine` runs a line in a shell of its own and gives what it leaves: its status, its output and its
errors. The shell finds the variables that it is given, files of its own that only it sees, and an
empty input.
-/

namespace JobLauncher.Shell

/-- How deep scripts, functions and words may be inside each other. -/
def maxDepth : Nat := 3000

/-- The bytes of a text. -/
def Bytes.ofText (s : String) : Bytes := s.toUTF8.toList.map fun b => Char.ofNat b.toNat

/-- The text of bytes. -/
def Bytes.text (bs : Bytes) : String := Text.decodeUtf8 (bs.map fun c => UInt8.ofNat c.toNat)

/-- A shell that has just been started with an environment. -/
def Machine.start (environment : List (Bytes × Bytes)) (line : Bytes) : Machine :=
  let m : Machine := { name := bytes "bash", files := Files.fresh Tool.programs }
  let given := [(bytes "PATH", usualPath)] ++ environment
  let text : Variable := { value := .text line }
  { m with
    scopes := [(bytes "BASH_EXECUTION_STRING", text)
      :: Environment.initial .full m.process m.directoryText given]
    lastWord := m.name, last := true }

/-- Runs a line in a shell whose environment is given. -/
def runLine (bindings : List (String × String)) (line : String) : Remote.Output :=
  let text := Bytes.ofText line
  let go := perform maxDepth
  let m := Machine.start (bindings.map fun v => (Bytes.ofText v.1, Bytes.ofText v.2)) text
  let reading : Reading :=
    { label := m.name ++ bytes ": -c", first := 1, text, outermost := true, last := true }
  let (r, m) := (wholeShell go (fatalStatus .full) (runText go reading)).runFrom m
  let m := m.showDelayed fun _ => true
  { status := match r with
      | .error (.killed _) => none
      | _ => some m.status
    stdout := Bytes.text (m.written 1)
    stderr := Bytes.text (m.written 2) }

end JobLauncher.Shell
