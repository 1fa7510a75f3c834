import JobLauncher.Cli.Grammar
import JobLauncher.Text.Cut

/-!
# Reading command lines

`Command.read` goes through the words of a command line, level by level, and gives the command that
is named and the values of its flags, or the first thing that is wrong.

A value that stands apart from its flag is taken in only when the next flag, or the end, shows that
it is complete. So a flag that does not exist is reported before a bad value right in front of it,
and a bad value before everything that comes later.
-/

namespace JobLauncher.Cli

/-- The flag that every command has. -/
def helpFlag : Flag := { name := "help", letter := some 'h', role := .shows .help }

/-- The word that asks for help in place of a command. -/
def helpWord : String := "help"

/-- A flag with the values of one occurrence. -/
abbrev Given := String × List String

/-- How far the words of one level have been read. -/
structure State where
  given : List Given := []
  /-- A flag that is not taken in yet, and its value unless it still waits for one. -/
  pending : Option (Flag × Option String) := none
  /-- Whether every further word is no flag. -/
  plain : Bool := false
  /-- Whether the one word has been read. -/
  worded : Bool := false

namespace State

/-- The flag that waits for a value. -/
def waiting? (s : State) : Option Flag :=
  match s.pending with
  | some (f, none) => some f
  | _ => none

/-- The waiting flag would take a word that looks like a flag. -/
def takesDashes (s : State) : Bool := s.waiting?.any (·.dashes)

/-- The parts of the values of a flag. -/
def parts (f : Flag) (values : List String) : List String :=
  match f.separator with
  | none => values
  | some c => values.flatMap (Text.split c)

/-- Takes in an occurrence of a flag. -/
def add (s : State) (f : Flag) (values : List String) : Except Usage State :=
  if let .shows what := f.role then .error what
  else if f.role = .value ∧ values = [] then .error .invalidValue
  else if !f.repeatable && s.given.any (·.1 == f.name) then .error .conflict
  else
    match (parts f values).findSome? f.check with
    | some fault => .error fault
    | none => .ok { s with given := s.given ++ [(f.name, parts f values)] }

/-- Takes in what is pending. -/
def settle (s : State) : Except Usage State :=
  match s.pending with
  | none => .ok s
  | some (f, value) => { s with pending := none }.add f value.toList

/-- Gives the waiting flag its value. -/
def supply (s : State) (value : String) : State :=
  match s.pending with
  | some (f, none) => { s with pending := some (f, some value) }
  | _ => s

/-- Takes in a flag after what was pending. -/
def next (s : State) (f : Flag) (values : List String) : Except Usage State :=
  s.settle >>= fun s => s.add f values

/-- Reads a flag that takes a value, attached or not. -/
def value (s : State) (f : Flag) : Option String → Except Usage State
  | some attached => s.next f [attached]
  | none => s.settle.map fun s => { s with pending := some (f, none) }

/-- Reads a flag by its name, with what follows an equals sign. -/
def long (s : State) (flags : List Flag) (name : String) (attached : Option String) :
    Except Usage State :=
  match flags.find? (·.name == name) with
  | none => .error .unknownFlag
  | some f =>
    match f.role, attached with
    | .value, attached => s.value f attached
    | _, some _ => .error .needlessValue
    | _, none => s.next f []

/-- What is attached to a letter, with or without an equals sign. -/
def attached? : List Char → Option String
  | [] => none
  | '=' :: rest => some (String.ofList rest)
  | rest => some (String.ofList rest)

/-- Reads flags by their letters; the first that takes a value takes all that follows it. -/
def letters (s : State) (flags : List Flag) : List Char → Except Usage State
  | [] => .ok s
  | c :: rest =>
    match flags.find? (·.letter == some c) with
    | none => .error .unknownFlag
    | some f =>
      if f.role = .value then s.value f (attached? rest)
      else s.next f [] >>= fun s => s.letters flags rest

/-- Reads a word that is no flag. -/
def word (s : State) (c : Command) (w : String) : Except Usage State :=
  match c.level.word with
  | some f =>
    if s.worded then .error .unknownFlag
    else s.settle.map fun s => { s with pending := some (f, some w), worded := true }
  | none =>
    if s.plain && (w == helpWord && c.isGroup || (c.find? w).isSome) then .error .unknownFlag
    else if c.isGroup then .error .unknownCommand
    else .error .unknownFlag

/-- Reads one word that names no command. -/
def read (s : State) (c : Command) (flags : List Flag) (w : String) : Except Usage State :=
  let other : Except Usage State :=
    if s.waiting?.isSome then .ok (s.supply w) else s.word c w
  if s.plain then s.word c w
  else if s.takesDashes then other
  else match w.toList with
    | ['-', '-'] => .ok { s with plain := true }
    | '-' :: '-' :: rest =>
      match Text.cutList '=' rest with
      | none => s.long flags (String.ofList rest) none
      | some (name, value) => s.long flags (String.ofList name) (some (String.ofList value))
    | ['-'] => other
    | '-' :: rest => s.letters flags rest
    | _ => other

/-- Two flags that cannot go together are both there. -/
def hasConflict (s : State) (flags : List Flag) : Bool :=
  flags.any fun f => f.excludes.any fun other =>
    s.given.any (·.1 == f.name) && s.given.any (·.1 == other)

/-- A flag that has to be there is not. -/
def isMissing (s : State) (flags : List Flag) : Bool :=
  flags.any fun f => f.required && !s.given.any (·.1 == f.name)

/-- Checks a level after its last word; `named` says whether a command within it was named. -/
def finish (s : State) (c : Command) (flags : List Flag) (named : Bool) :
    Except Usage (List Given) := do
  let s ← s.settle
  -- a level on which nothing was said explains itself
  if c.isGroup && !named then
    throw (if s.given.isEmpty then .helpInstead else .missingCommand)
  if s.hasConflict flags then throw .conflict
  if s.isMissing (flags ++ c.level.word.toList) then throw .missingFlag
  return s.given

end State

/-- What a command line says: the commands named, outermost first, and the values given, those of
inner levels first. -/
structure Parsed where
  path : List String
  given : List Given
  deriving DecidableEq, Repr

namespace Parsed

/-- All values given for a flag. -/
def values (r : Parsed) (name : String) : List String :=
  r.given.flatMap fun g => if g.1 = name then g.2 else []

/-- The value given for a flag, at the innermost level that has one. -/
def value? (r : Parsed) (name : String) : Option String := (r.values name).head?

/-- A flag is given. -/
def has (r : Parsed) (name : String) : Bool := r.given.any (·.1 == name)

end Parsed

namespace Command

/-- What asking for help on a command shows. -/
def helpOn (c : Command) : List String → Usage
  | [] => .help
  | w :: rest =>
    match c.find? w with
    | some sub => sub.helpOn rest
    | none => if w = helpWord ∧ c.isGroup ∧ rest = [] then .help else .unknownCommand

/-- Reads words at the level of a command. `shared` are flags that may be given at every level,
`own` those of this one. -/
def readFrom (shared own : List Flag) (c : Command) (s : State) : List String →
    Except Usage Parsed
  | [] => (s.finish c own false).map fun given => ⟨[], given⟩
  | w :: rest =>
    if s.plain || s.waiting?.isSome then
      s.read c own w >>= fun s => readFrom shared own c s rest
    else match c.find? w with
      | some sub => do
        -- faults within a command come before those in front of it
        let inner ← readFrom shared (sub.level.flags ++ shared) sub {} rest
        let given ← s.finish c own true
        return ⟨w :: inner.path, inner.given ++ given⟩
      | none =>
        if w = helpWord ∧ c.isGroup then .error (c.helpOn rest)
        else s.read c own w >>= fun s => readFrom shared own c s rest

/-- Reads a command line. `shared` may be given at every level, `top` only before the first
command. -/
def read (c : Command) (shared top : List Flag) (words : List String) : Except Usage Parsed :=
  let shared := shared ++ [helpFlag]
  readFrom shared (c.level.flags ++ shared ++ top) c {} words

end Command

end JobLauncher.Cli
