import JobLauncher.Shell.Bytes

/-!
# Files

The files that a script finds and makes: directories, files with bytes in them, links, a few devices
and the programs that can be run. A place is the list of names on the way to it from the root.
Whoever looks may do everything, so permissions matter only where a file is to be run.
-/

namespace JobLauncher.Shell

/-- The names on the way from the root. -/
abbrev Path := List Bytes

/-- Why something cannot be done with a file. -/
inductive FileFault where
  | missing
  | noDirectory
  | isDirectory
  | exists
  | notEmpty
  | denied
  | badStream
  | full
  | looping
  | invalid
  | crossing
  /-- Nobody reads what is written. -/
  | broken
  deriving DecidableEq, Repr

def FileFault.message : FileFault → String
  | missing => "No such file or directory"
  | noDirectory => "Not a directory"
  | isDirectory => "Is a directory"
  | .exists => "File exists"
  | notEmpty => "Directory not empty"
  | denied => "Permission denied"
  | badStream => "Bad file descriptor"
  | full => "No space left on device"
  | looping => "Too many levels of symbolic links"
  | invalid => "Invalid argument"
  | crossing => "Invalid cross-device link"
  | broken => "Broken pipe"

/-- Files that are no stores of bytes. -/
inductive Device where
  | null
  | zero
  | full
  | random
  /-- A stream of the one who opens it. -/
  | stream (n : Nat)
  deriving DecidableEq, Repr

/-- What is at a place. -/
inductive Node where
  | directory
  | file (content : Bytes)
  | device (d : Device)
  | link (target : Bytes)
  | program (name : String)
  deriving DecidableEq, Repr

/-- What is at a place, who may run it, and when it was last changed. -/
structure Entry where
  node : Node
  mode : Nat
  changed : Nat := 0
  deriving DecidableEq, Repr

/-- All files. -/
structure Files where
  entries : List (Path × Entry)

namespace Files

/-- The names in a path. -/
def names (path : Bytes) : List Bytes := (splitAt '/' path).filter (· ≠ [])

/-- The path of a place. -/
def text (p : Path) : Bytes :=
  if p = [] then ['/'] else p.flatMap fun name => '/' :: name

def isAbsolute (path : Bytes) : Bool := path.head? == some '/'

def at? (fs : Files) (p : Path) : Option Entry :=
  if p = [] then some { node := .directory, mode := 0o755 } else fs.entries.lookup p

/-- Puts an entry at a place. -/
def put (fs : Files) (p : Path) (e : Entry) : Files :=
  { entries := (p, e) :: fs.entries.filter (·.1 ≠ p) }

def remove (fs : Files) (p : Path) : Files :=
  { entries := fs.entries.filter (·.1 ≠ p) }

/-- All places at or below a place. -/
def below (fs : Files) (p : Path) : List (Path × Entry) :=
  fs.entries.filter fun e => p.isPrefixOf e.1

/-- Walks along names. A link is followed where more names come after it, and at the end if
`follow`. What is missing may be missing only at the end. -/
def walk (fs : Files) (follow : Bool) : Nat → Path → List Bytes → Except FileFault Path
  | 0, _, _ => .error .looping
  | _, here, [] => .ok here
  | fuel + 1, here, name :: rest =>
    match fs.at? here with
    | some { node := .directory, .. } =>
      if name = ['.'] then walk fs follow fuel here rest
      else if name = ['.', '.'] then walk fs follow fuel here.dropLast rest
      else
        let there := here ++ [name]
        match fs.at? there with
        | some { node := .link target, .. } =>
          if rest = [] ∧ !follow then .ok there
          else
            walk fs follow fuel (if isAbsolute target then [] else here) (names target ++ rest)
        | some _ => walk fs follow fuel there rest
        | none => if rest = [] then .ok there else .error .missing
    | some _ => .error .noDirectory
    | none => .error .missing

/-- How many steps a walk may take. -/
def maxSteps : Nat := 4096

/-- The place that a path means, seen from a directory. -/
def locate (fs : Files) (follow : Bool) (directory : Path) (path : Bytes) :
    Except FileFault Path := do
  if path = [] then throw .missing
  let p ← fs.walk follow maxSteps (if isAbsolute path then [] else directory) (names path)
  -- what a path with a slash at its end means has to be a directory
  if path.getLast? = some '/' then
    match fs.at? p with
    | some { node := .directory, .. } => return p
    | some _ => throw .noDirectory
    | none => return p
  else return p

/-- What is at a path. -/
def find (fs : Files) (follow : Bool) (directory : Path) (path : Bytes) :
    Except FileFault (Path × Entry) := do
  let p ← fs.locate follow directory path
  match fs.at? p with
  | some e => return (p, e)
  | none => throw .missing

/-- The entry at a path, if there is one. -/
def entry? (fs : Files) (directory : Path) (path : Bytes) : Option Entry :=
  ((fs.find true directory path).toOption).map (·.2)

def isDirectory (fs : Files) (directory : Path) (path : Bytes) : Bool :=
  match fs.entry? directory path with
  | some { node := .directory, .. } => true
  | _ => false

/-- The order of names. -/
def before (a b : Bytes) : Bool := !decide (b < a)

/-- The names in a directory, in order. -/
def children (fs : Files) (p : Path) : List Bytes :=
  let found := fs.entries.filterMap fun e =>
    if e.1.length = p.length + 1 ∧ p.isPrefixOf e.1 then e.1.getLast? else none
  found.mergeSort before

/-- Makes a file or changes what is in it. -/
def write (fs : Files) (now umask : Nat) (p : Path) (content : Bytes) : Files :=
  match fs.at? p with
  | some e => fs.put p { e with node := .file content, changed := now }
  | none => fs.put p { node := .file content, mode := 0o666 - (0o666 &&& umask), changed := now }

/-- The last name of a path, and the path before it. -/
def baseName (path : Bytes) : Bytes :=
  match (names path).getLast? with
  | some name => name
  | none => if path = [] then [] else ['/']

/-- The path without its last name. -/
def directoryName (path : Bytes) : Bytes :=
  let stripped := (path.reverse.dropWhile (· = '/')).reverse
  if stripped = [] then (if path = [] then ['.'] else ['/'])
  else
    let head := (stripped.reverse.dropWhile (· ≠ '/')).reverse
    if head = [] then ['.']
    else
      let head := (head.reverse.dropWhile (· = '/')).reverse
      if head = [] then ['/'] else head

/-- The path of a place in steps without points: names only, counted from the root. -/
def normal (directory : Path) (path : Bytes) : Path :=
  (names path).foldl (fun p name =>
    if name = ['.'] then p else if name = ['.', '.'] then p.dropLast else p ++ [name])
    (if isAbsolute path then [] else directory)

/-- The files of a machine on which nothing has been done yet. -/
def fresh (programs : List String) : Files :=
  let directory (p : String) : Path × Entry :=
    (names p.toList, { node := .directory, mode := 0o755 })
  let device (p : String) (d : Device) : Path × Entry :=
    (names p.toList, { node := .device d, mode := 0o666 })
  let file (p content : String) : Path × Entry :=
    (names p.toList, { node := .file content.toList, mode := 0o644 })
  let link (p target : String) : Path × Entry :=
    (names p.toList, { node := .link target.toList, mode := 0o777 })
  { entries :=
      ["/boot", "/dev", "/dev/fd", "/dev/shm", "/etc", "/home", "/media", "/mnt", "/opt", "/proc",
        "/root", "/run", "/srv", "/sys", "/usr", "/usr/bin", "/usr/lib", "/usr/lib64",
        "/usr/local", "/usr/local/bin", "/usr/local/lib", "/usr/sbin", "/usr/share", "/var",
        "/var/log", "/var/tmp", "/work"].map directory
      ++ [(["tmp".toList], { node := .directory, mode := 0o1777 })]
      ++ [link "/bin" "usr/bin", link "/sbin" "usr/sbin", link "/lib" "usr/lib",
        link "/lib64" "usr/lib64"]
      ++ [device "/dev/null" .null, device "/dev/zero" .zero, device "/dev/full" .full,
        device "/dev/random" .random, device "/dev/urandom" .random,
        device "/dev/stdin" (.stream 0), device "/dev/stdout" (.stream 1),
        device "/dev/stderr" (.stream 2)]
      ++ (List.range 10).map (fun n => device ("/dev/fd/" ++ toString n) (.stream n))
      ++ [file "/etc/passwd" "root:x:0:0:root:/root:/bin/bash\n",
        file "/etc/group" "root:x:0:\n", file "/etc/hosts" "127.0.0.1\tlocalhost\n"]
      ++ programs.map fun name =>
        (["usr".toList, "bin".toList, name.toList], { node := .program name, mode := 0o755 }) }

end Files

end JobLauncher.Shell
