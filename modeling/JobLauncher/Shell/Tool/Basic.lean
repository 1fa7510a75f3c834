import JobLauncher.Shell.Printf
import JobLauncher.Shell.Opening
import JobLauncher.Shell.Task

/-!
# Tools

Programs that read, change and write text. What they are asked comes as arguments: options, which may
stand among the operands, and operands.
-/

namespace JobLauncher.Shell.Tool

/-- How a tool is run: by what carries out tasks, and its arguments. -/
abbrev Program := Perform → List Bytes → Act Unit

/-- The name of a tool as it was called, perhaps with a path. -/
def calledName (name : String) : Act Bytes := do
  let called := (← get).called
  return if Files.baseName called = bytes name then called else bytes name

/-- Writes about an error in the name of a tool. -/
def say (name : String) (text : Bytes) : Act Unit := do
  warn ((← calledName name) ++ bytes ": " ++ text ++ ['\n'])

/-- Says that a tool fails. -/
def refuse (status : Nat) (name : String) (text : Bytes) : Act Unit := do
  say name text
  setStatus status

/-- Says where help on a tool is. -/
def hint (name : String) : Act Unit := do
  warn (bytes "Try '" ++ (← calledName name) ++ bytes " --help' for more information.\n")

/-- Says that a tool needs something else, and where help is. -/
def misuse (status : Nat) (name : String) (text : Bytes) : Act Unit := do
  refuse status name text
  hint name

/-- A text between apostrophes, as errors show names. -/
def quoted (t : Bytes) : Bytes := [apostrophe] ++ t ++ [apostrophe]

/-- Writes output in the name of a tool. -/
def output (name : String) (bs : Bytes) : Act Unit := do
  match ← tryPut bs with
  | none => return
  | some e => refuse 1 name (bytes "write error: " ++ bytes e.message)

/-! ## Options -/

/-- The options that a tool has. -/
structure Options where
  letters : String := ""
  /-- Letters that go with a text. -/
  valued : String := ""
  /-- Letters whose long names may have a text. -/
  optional : String := ""
  /-- Long names, with the letter that each stands for. -/
  long : List (String × Char) := []
  /-- Options may follow operands. -/
  anywhere : Bool := true

/-- Options that were given, each with its text, and operands. -/
structure Given where
  options : List (Char × Bytes) := []
  operands : List Bytes := []

namespace Given

def has (g : Given) (c : Char) : Bool := (g.options.lookup c).isSome

/-- The text of the last option of a letter. -/
def value? (g : Given) (c : Char) : Option Bytes := g.options.reverse.lookup c

/-- The texts of all options of a letter. -/
def values (g : Given) (c : Char) : List Bytes :=
  (g.options.filter (·.1 = c)).map (·.2)

/-- The last of some letters that was given. -/
def last? (g : Given) (cs : String) : Option Char :=
  (g.options.reverse.find? fun o => cs.toList.contains o.1).map (·.1)

end Given

/-- Why options are refused. -/
inductive BadOption where
  | letter (c : Char)
  | long (t : Bytes)
  | valueMissing (c : Char)
  | longValueMissing (t : Bytes)
  | longValueRefused (t : Bytes)
  | ambiguous (t : Bytes) (choices : List String)
  deriving DecidableEq, Repr

def BadOption.message : BadOption → Bytes
  | letter c => bytes "invalid option -- '" ++ [c] ++ bytes "'"
  | long t => bytes "unrecognized option '" ++ t ++ bytes "'"
  | valueMissing c => bytes "option requires an argument -- '" ++ [c] ++ bytes "'"
  | longValueMissing t => bytes "option '" ++ t ++ bytes "' requires an argument"
  | longValueRefused t => bytes "option '" ++ t ++ bytes "' doesn't allow an argument"
  | ambiguous t choices =>
    bytes "option '" ++ t ++ bytes "' is ambiguous; possibilities:"
      ++ choices.flatMap fun c => bytes " '--" ++ bytes c ++ bytes "'"

namespace Options

/-- The long name that a name means, and its letter. It may be cut short as long as only one letter
can be meant; otherwise all names that can be meant are given. -/
def longName (o : Options) (name : Bytes) : Except (List String) (String × Char) :=
  match o.long.find? fun l => l.1.toList = name with
  | some l => .ok l
  | none =>
    match o.long.filter fun l => name.isPrefixOf l.1.toList with
    | [] => .error []
    | l :: ls => if ls.all (·.2 = l.2) then .ok l else .error ((l :: ls).map (·.1))

/-- Reads the options among arguments; what has been found is given last first. -/
def read (o : Options) : Nat → List (Char × Bytes) → List Bytes → List Bytes →
    Except BadOption Given
  | 0, found, operands, args => .ok ⟨found.reverse, operands.reverse ++ args⟩
  | _, found, operands, [] => .ok ⟨found.reverse, operands.reverse⟩
  | fuel + 1, found, operands, a :: rest =>
    match a with
    | ['-', '-'] => .ok ⟨found.reverse, operands.reverse ++ rest⟩
    | '-' :: '-' :: name =>
      let key := name.takeWhile (· ≠ '=')
      let given := key.length < name.length
      let value := name.drop (key.length + 1)
      match o.longName key with
      | .error [] => .error (.long a)
      | .error choices => .error (.ambiguous a choices)
      | .ok (long, c) =>
        if o.optional.toList.contains c then read o fuel ((c, value) :: found) operands rest
        else if !o.valued.toList.contains c then
          if given then .error (.longValueRefused (bytes "--" ++ bytes long))
          else read o fuel ((c, []) :: found) operands rest
        else if given then read o fuel ((c, value) :: found) operands rest
        else
          match rest with
          | v :: rest => read o fuel ((c, v) :: found) operands rest
          | [] => .error (.longValueMissing (bytes "--" ++ bytes long))
    | '-' :: c :: cs => cluster fuel found operands rest (c :: cs)
    | a =>
      if o.anywhere then read o fuel found (a :: operands) rest
      else .ok ⟨found.reverse, operands.reverse ++ a :: rest⟩
where
  /-- Reads the letters of one argument. -/
  cluster (fuel : Nat) (found : List (Char × Bytes)) (operands rest : List Bytes) :
      Bytes → Except BadOption Given
    | [] => read o fuel found operands rest
    | c :: cs =>
      if o.letters.toList.contains c then cluster fuel ((c, []) :: found) operands rest cs
      else if o.valued.toList.contains c then
        match cs, rest with
        | [], [] => .error (.valueMissing c)
        | [], v :: rest => read o fuel ((c, v) :: found) operands rest
        | cs, rest => read o fuel ((c, cs) :: found) operands rest
      else .error (.letter c)

/-- What arguments come to. -/
def given (o : Options) (args : List Bytes) : Except BadOption Given :=
  o.read (args.length + 1) [] [] args

end Options

/-- Carries a tool out with its options and operands; an option that it has not is refused with a
status. -/
def withGiven (name : String) (o : Options) (status : Nat) (args : List Bytes)
    (run : Given → Act Unit) : Act Unit :=
  match o.given args with
  | .ok g => run g
  | .error e => misuse status name e.message

/-! ## Files -/

/-- All of a file, or of the input if the path is a dash. -/
def contentOf (path : Bytes) : Act (Except FileFault Bytes) := do
  if path = ['-'] then readAll 0
  else
    let m ← get
    match m.openInput path with
    | .error e => return .error e
    | .ok (.shared n) =>
      match m.rest n with
      | .error e => return .error e
      | .ok text =>
        set (m.pass n text.length)
        return .ok text
    | .ok (.fresh c) =>
      let (n, opened) := m.openChannel c
      return opened.rest n

/-- Does something with each of several files, or with the input if there are none; what cannot be
read is said with a status. -/
def eachFile (name : String) (paths : List Bytes) (status : Nat) (use : Bytes → Bytes → Act Unit) :
    Act Unit := do
  setStatus 0
  for path in if paths = [] then [['-']] else paths do
    match ← contentOf path with
    | .ok text => use path text
    | .error e =>
      refuse status name (path ++ bytes ": " ++ bytes e.message)

/-- The texts of several files, or of the input if there are none, one after another. -/
def allText (name : String) (paths : List Bytes) (status : Nat) : Act Bytes := do
  setStatus 0
  let mut pieces : List Bytes := []
  for path in if paths = [] then [['-']] else paths do
    match ← contentOf path with
    | .ok text => pieces := text :: pieces
    | .error e => refuse status name (path ++ bytes ": " ++ bytes e.message)
  return pieces.reverse.flatten

/-- Writes all of a file. -/
def writeFile (path text : Bytes) (appends : Bool) : Act (Option FileFault) := do
  let m ← get
  match m.openOutput { appends } path with
  | .error e => return some e
  | .ok (opened, files) =>
    let m := { m with files }
    let (n, m) := match opened with
      | .shared n => (n, m)
      | .fresh c => m.openChannel c
    let (m, e) := m.writeChannel n text
    set m
    return e

end JobLauncher.Shell.Tool
