import JobLauncher.Shell.Environment

/-!
# Programs

Where programs are found, and what they find in their environment.
-/

namespace JobLauncher.Shell.Machine

/-! ## Environments -/

/-- The variables that programs find, in the order in which the shell keeps them. -/
def exports (m : Machine) : List (Bytes × Bytes) :=
  let found := m.names.filterMap fun name =>
    match m.kept? name with
    | some { exported := true, value := .text t, .. } => some (name, t)
    | _ => none
  match m.dialect with
  | .plain => found
  | .full => found.mergeSort fun a b => Table.drawer a.1 ≤ Table.drawer b.1

/-- What a program finds in its environment that the shell starts: its own path too. A program that
takes the place of the shell is as deep as the one around it. -/
def programEnvironment (m : Machine) (path : Bytes) : List (Bytes × Bytes) :=
  match m.dialect with
  | .plain => m.exports
  | .full =>
    let depth := bytes "SHLVL"
    let shallower (t : Bytes) : Bytes := ((natural? t).map fun n => decimal (n - 1)).getD t
    (m.exports.map fun e => if m.last ∧ e.1 = depth then (depth, shallower e.2) else e)
      ++ [(['_'], path)]

/-- What a program finds in its environment, or passes on. -/
def environment (m : Machine) : List (Bytes × Bytes) := m.given.getD m.exports

/-! ## Paths -/

/-- Whether a file may be run. -/
def isRunnable (m : Machine) (path : Bytes) : Bool :=
  match m.files.entry? m.directory path with
  | some { node := .directory, .. } | none => false
  | some e => e.mode &&& 0o111 ≠ 0

/-- Where programs are looked for. A shell that is not told looks nowhere. -/
def searchPath (m : Machine) : Bytes :=
  match m.given with
  | some e => (e.lookup (bytes "PATH")).getD usualPath
  | none => (m.textNamed? "PATH").getD []

/-- Whether programs are only found by their paths. -/
def searchesNowhere (m : Machine) : Bool := m.searchPath = []

/-- The paths of all programs of a name. -/
def programs (m : Machine) (name : Bytes) : List Bytes :=
  if name.contains '/' then if m.isRunnable name then [name] else []
  else
    let directories := splitAt ':' m.searchPath
    let paths := directories.map fun d => if d = [] then bytes "./" ++ name else d ++ ['/'] ++ name
    paths.filter m.isRunnable

/-- The path of the program of a name. -/
def program? (m : Machine) (name : Bytes) : Option Bytes := (m.programs name).head?

end JobLauncher.Shell.Machine
