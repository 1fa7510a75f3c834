import JobLauncher.Settings.Reader
import JobLauncher.Text.Cut

/-!
# Where settings are

The settings file is the one asked for, else the one that the environment names, else the one in the
home directory. A file that was asked for or named has to be there; the one in the home directory
does not.
-/

namespace JobLauncher.Settings

/-- What the surroundings say about settings. -/
structure Environment where
  /-- The file that the environment names. -/
  file : Option String := none
  home : Option String := none
  deriving DecidableEq, Repr

/-- Where the settings are. -/
inductive Location where
  /-- In a file that has to be there. -/
  | explicit (path : String)
  /-- In the file of the home directory, if it is there. -/
  | home (path : String)
  | nowhere
  deriving DecidableEq, Repr

/-- What becomes of reading a file. -/
inductive Reading where
  | text (s : String)
  /-- There is nothing under the path. -/
  | missing (reason : String)
  /-- There is something, but it cannot be read as text. -/
  | unreadable (reason : String)
  deriving DecidableEq, Repr

/-- Why there are no settings. -/
inductive LoadError where
  /-- A file that has to be there is not. -/
  | notFound (path : String)
  | unusable (e : Error)
  deriving DecidableEq, Repr

def LoadError.message : LoadError → String
  | .notFound path => "settings file not found: " ++ path
  | .unusable e => e.message

/-- The path of a name within a directory. -/
def within (dir name : String) : String :=
  if dir = "" ∨ Text.endsWith "/" dir then dir ++ name else dir ++ "/" ++ name

/-- The settings file of a home directory. -/
def homeFile (home : String) : String := within (within home ".launchpad") "settings.yaml"

namespace Location

/-- Where the settings are, given the path asked for, if one was. A path that the environment leaves
empty is no path. -/
def of (env : Environment) : Option String → Location
  | some path => .explicit path
  | none =>
    match env.file.filter (· ≠ "") with
    | some path => .explicit path
    | none =>
      match env.home with
      | some dir => .home (homeFile dir)
      | none => .nowhere

/-- The file to read. -/
def path? : Location → Option String
  | .explicit path | .home path => some path
  | .nowhere => none

end Location

/-- The settings in a file, whatever reading it gave. -/
def File.ofReading (path : String) : Reading → Except Error File
  | .text s => File.parse path s
  | .missing reason | .unreadable reason => .error (.settings path ("failed to read: " ++ reason))

/-- The settings at a location, given what reading its file gave. -/
def Location.load : Location → Reading → Except LoadError File
  | .explicit path, .missing _ => .error (.notFound path)
  | .home _, .missing _ => .ok File.empty
  | .explicit path, r | .home path, r => (File.ofReading path r).mapError .unusable
  | .nowhere, _ => .ok File.empty

end JobLauncher.Settings
