import JobLauncher.Shell.Files
import JobLauncher.Shell.Script
import JobLauncher.Shell.Signal
import JobLauncher.Shell.Variable

/-!
# The state of a shell

What a shell knows while it runs a script, and what all shells and tools that it starts share with
it: the files, the open streams and what has been written to them.

An `Act` changes the state and may leave the script before its end; what it has changed until then
stays.
-/

namespace JobLauncher.Shell

/-- How a shell words its errors. -/
inductive Dialect where
  | full
  /-- The plain shell. -/
  | plain
  deriving DecidableEq, Repr

/-- How control leaves a command before its end. -/
inductive Flow where
  /-- Out of a loop and as many loops around it. -/
  | leave (outer : Nat)
  /-- To the next round of a loop, out of as many loops inside it. -/
  | again (outer : Nat)
  /-- Out of a function. -/
  | back
  /-- The rest of the line is given up. -/
  | abandon
  /-- The shell ends because it cannot go on. -/
  | fatal
  | exit
  /-- A signal ends the process. -/
  | killed (signal : Nat)
  deriving DecidableEq, Repr

/-- What a stream is connected to. -/
inductive Channel where
  | null
  | zero
  | full
  /-- Takes what is written; the last piece comes first. What reads it may stop reading after so many
  bytes that `room` is zero. -/
  | sink (pieces : List Bytes) (room : Option Nat)
  /-- Gives what is left of its text. -/
  | source (rest : Bytes)
  /-- A file, and how far it has been read or written. -/
  | file (path : Path) (offset : Nat) (appends readable writable : Bool)
  deriving DecidableEq, Repr

/-- A function that is running. -/
structure Call where
  name : Bytes
  /-- The line from which it was called. -/
  line : Nat
  deriving DecidableEq, Repr

/-- A process in the background. -/
structure Job where
  process : Nat
  status : Nat
  /-- It takes its time, so a signal still reaches it. -/
  lasting : Bool
  text : Bytes
  deriving DecidableEq, Repr

/-- What a shell does on a signal or another event. -/
structure Trap where
  event : Nat
  script : Bytes
  deriving DecidableEq, Repr

/-- The state of a shell. -/
structure Machine where
  dialect : Dialect := .full
  /-- The name of the script, which errors begin with. -/
  name : Bytes
  /-- What errors begin with in a script that was read from elsewhere. -/
  origin : Option Bytes := none
  args : List Bytes := []
  /-- The variables, those of the innermost function first. -/
  scopes : List (List (Bytes × Variable)) := [[]]
  functions : List (Bytes × Script) := []
  calls : List Call := []
  /-- How many files are being read as scripts. -/
  sourcing : Nat := 0
  /-- The options of the shell that are on. -/
  options : List String := ["braceexpand", "hashall", "interactive-comments"]
  /-- Further options that are on. -/
  extras : List String := ["checkwinsize", "cmdhist", "complete_fullquote", "extquote",
    "force_fignore", "globasciiranges", "globskipdots", "hostcomplete", "interactive_comments",
    "patsub_replacement", "progcomp", "promptvars", "sourcepath"]
  traps : List Trap := []
  /-- Processes in the background, the last one first. -/
  jobs : List Job := []
  /-- Places of programs that have been run, and how often. -/
  hashed : List (Bytes × Bytes × Nat) := []
  /-- Commands of the shell that are turned off. -/
  disabled : List Bytes := []
  /-- The environment that a program passes on instead of that of the shell. -/
  given : Option (List (Bytes × Bytes)) := none
  /-- The name by which the program at hand was called. -/
  called : Bytes := []
  /-- The last word of the last command. -/
  lastWord : Bytes := []
  /-- How much time had passed when the shell began. -/
  born : Nat := 0
  /-- A trap is running. -/
  trapping : Bool := false
  /-- The shell does what it is to do at its end. -/
  ending : Bool := false
  aliases : List (Bytes × Bytes) := []
  directory : Path := ["work".toList]
  /-- The directories to which one can go back. -/
  stack : List Path := []
  /-- Which open streams the numbers mean. -/
  streams : List (Nat × Nat) := [(0, 0), (1, 1), (2, 2)]
  status : Nat := 0
  /-- The status of each stage of the last pipe. -/
  statuses : List Nat := [0]
  line : Nat := 1
  /-- How many loops are around the command at hand. -/
  loops : Nat := 0
  /-- Commands may fail, because their status is asked for. -/
  lenient : Bool := false
  /-- How deep scripts that are shown while they run are inside others. -/
  depth : Nat := 0
  /-- How many shells are around this one. -/
  level : Nat := 0
  /-- The number of the process of the outermost one. -/
  process : Nat := 4242
  /-- The command at hand. -/
  command : Bytes := []
  /-- The number of the last process in the background. -/
  lastJob : Option Nat := none
  /-- How many arguments options have been taken from, and how many letters of the next one. -/
  optionIndex : Nat := 1
  optionLetter : Nat := 0
  umask : Nat := 0o022
  seed : Nat := 1
  /-- The status of the last output of a script that a word contained. -/
  outputStatus : Option Nat := none
  /-- Whether the command at hand is the last one, so that a program takes the place of the
  shell. -/
  last : Bool := false
  -- from here on everything is shared
  files : Files
  /-- What the open streams are connected to. -/
  channels : List (Nat × Channel) := [(0, .null), (1, .sink [] none), (2, .sink [] none)]
  nextChannel : Nat := 3
  nextProcess : Nat := 4243
  /-- What they have written and nobody has seen yet. -/
  delayed : List (Nat × Bytes) := []
  /-- Scripts that read what was written to a channel. -/
  consumers : List (Nat × Bytes) := []
  /-- Signals that have come to the outermost shell and not been dealt with. -/
  signals : List Nat := []
  clock : Nat := 1
  /-- How much time has passed, in thousandths of a second. -/
  elapsed : Nat := 0
  /-- When everything is ended by somebody else. -/
  deadline : Option Nat := none

/-- A part of a script that changes the state and may leave the script. -/
abbrev Act := ExceptT Flow (StateM Machine)

/-- Runs an act: how it left the script, if it did, and the state after it. -/
def Act.runFrom (m : Machine) (a : Act α) : Except Flow α × Machine := a.run.run m

/-- Whether a condition ends a script's loop or goes on is decided on the outcome of an act. -/
def Act.outcome (a : Act α) : Act (Except Flow α) :=
  ExceptT.mk fun m => let (r, m) := a.run.run m; (.ok r, m)

/-- Leaves the script the way an act did. -/
def Act.resume : Except Flow α → Act α
  | .ok a => pure a
  | .error f => throw f

namespace Machine

/-- Whether everything has been ended by somebody else. -/
def isOver (m : Machine) : Bool := m.deadline.any (· ≤ m.elapsed)

/-! ## Options -/

def has (m : Machine) (option : String) : Bool := m.options.contains option

def hasExtra (m : Machine) (option : String) : Bool := m.extras.contains option

def setOption (m : Machine) (option : String) (on : Bool) : Machine :=
  { m with options := if on then option :: m.options.filter (· ≠ option)
    else m.options.filter (· ≠ option) }

/-! ## Streams -/

def channel? (m : Machine) (stream : Nat) : Option Channel :=
  (m.streams.lookup stream).bind fun n => m.channels.lookup n

def setChannel (m : Machine) (n : Nat) (c : Channel) : Machine :=
  { m with channels := m.channels.map fun e => if e.1 = n then (n, c) else e }

/-- Opens a channel and gives its number. -/
def openChannel (m : Machine) (c : Channel) : Nat × Machine :=
  let n := m.nextChannel
  (n, { m with channels := (n, c) :: m.channels, nextChannel := n + 1 })

/-- Connects a stream to a channel. -/
def connect (m : Machine) (stream n : Nat) : Machine :=
  { m with streams := (stream, n) :: m.streams.filter (·.1 ≠ stream) }

def disconnect (m : Machine) (stream : Nat) : Machine :=
  { m with streams := m.streams.filter (·.1 ≠ stream) }

/-- Writes to a channel, unless that is not possible. -/
def writeChannel (m : Machine) (n : Nat) (bs : Bytes) : Machine × Option FileFault :=
  match m.channels.lookup n with
  | some .null | some .zero => (m, none)
  | some .full => (m, if bs = [] then none else some .full)
  | some (.sink _ (some 0)) => (m, some .broken)
  | some (.sink pieces room) =>
    (if bs = [] then m
      else m.setChannel n (.sink (bs :: pieces) (room.map fun r => r - bs.length)), none)
  | some (.file path offset appends readable true) =>
    let old := match m.files.at? path with
      | some { node := .file content, .. } => content
      | _ => []
    let start := if appends then old.length else offset
    let head := padRight (Char.ofNat 0) start (old.take start)
    let content := head ++ bs ++ old.drop (start + bs.length)
    let files := m.files.write m.clock m.umask path content
    let finish := start + bs.length
    ({ m with files, clock := m.clock + 1 }.setChannel n (.file path finish appends readable true),
      none)
  | _ => (m, some .badStream)

/-- Writes to a stream, unless that is not possible. -/
def write (m : Machine) (stream : Nat) (bs : Bytes) : Machine × Option FileFault :=
  match m.streams.lookup stream with
  | some n => m.writeChannel n bs
  | none => (m, some .badStream)

/-- How much of an endless channel is read unless more is asked for. -/
def endless : Nat := 65536

/-- Everything that can still be read from a channel; of an endless one, as much as is asked for. -/
def rest (m : Machine) (n : Nat) (asked : Nat := endless) : Except FileFault Bytes :=
  match m.channels.lookup n with
  | some .null => .ok []
  | some .zero | some .full => .ok (List.replicate asked (Char.ofNat 0))
  | some (.source rest) => .ok rest
  | some (.file path offset _ true _) =>
    match m.files.at? path with
    | some { node := .file content, .. } => .ok (content.drop offset)
    | _ => .error .isDirectory
  | _ => .error .badStream

/-- Passes over bytes of a channel. -/
def pass (m : Machine) (n count : Nat) : Machine :=
  match m.channels.lookup n with
  | some (.source rest) => m.setChannel n (.source (rest.drop count))
  | some (.file path offset a r w) => m.setChannel n (.file path (offset + count) a r w)
  | _ => m

/-- All that was written to a channel. -/
def written (m : Machine) (n : Nat) : Bytes :=
  match m.channels.lookup n with
  | some (.sink pieces _) => pieces.reverse.flatten
  | _ => []

/-- Forgets a channel. -/
def closeChannel (m : Machine) (n : Nat) : Machine :=
  { m with channels := m.channels.filter (·.1 ≠ n) }

/-- Shows what processes in the background have written to some channels. -/
def showDelayed (m : Machine) (which : Nat → Bool) : Machine :=
  (m.delayed.filter (which ·.1)).foldl (fun m d => (m.writeChannel d.1 d.2).1)
    { m with delayed := m.delayed.filter fun d => !which d.1 }

/-! ## Shells in shells -/

/-- What a shell knows again after another one, which began as a copy of it, has ended. -/
def join (m : Machine) (inner : Machine) : Machine :=
  { m with
    files := inner.files, channels := inner.channels, nextChannel := inner.nextChannel
    nextProcess := inner.nextProcess, delayed := inner.delayed, consumers := inner.consumers
    signals := inner.signals, clock := inner.clock, elapsed := inner.elapsed }

/-- A copy for a shell of its own. -/
def fork (m : Machine) : Machine :=
  { m with
    level := m.level + 1, loops := 0, last := false, nextProcess := m.nextProcess + 1
    traps := m.traps.filter fun t => t.script = [] || (t.event = Signal.errorEvent && m.has "errtrace") }

/-- What errors begin with. -/
def label (m : Machine) : Bytes :=
  match m.dialect with
  | .full =>
    let source := if m.calls = [] then m.origin.getD m.name else m.origin.getD (bytes "environment")
    source ++ bytes ": line " ++ decimal m.line ++ bytes ": "
  | .plain => m.name ++ bytes ": " ++ decimal m.line ++ bytes ": "

end Machine

/-! ## Acts on streams -/

/-- Sets the status of the last command. -/
def setStatus (n : Nat) : Act Unit := modify fun m => { m with status := n }

/-- The signal that ends a process whose output nobody reads any more. -/
def brokenPipe : Nat := 13

/-- Writes output, and gives the fault if that is not possible. -/
def tryPut (bs : Bytes) : Act (Option FileFault) := do
  let (m, e) := (← get).write 1 bs
  set m
  match e with
  | some .broken => throw (.killed brokenPipe)
  | e => return e

/-- Writes output; what cannot be written is lost. -/
def put (bs : Bytes) : Act Unit := do
  let _ ← tryPut bs

/-- Writes about an error. -/
def warn (bs : Bytes) : Act Unit := modify fun m => (m.write 2 bs).1

/-- Says something about an error in the name of the shell. -/
def complain (text : Bytes) : Act Unit := do
  let m ← get
  warn (m.label ++ text ++ ['\n'])

/-- Says something about an error, and that a command has failed. -/
def fail (status : Nat) (text : Bytes) : Act Unit := do
  complain text
  setStatus status

/-- Reads everything that is left of a stream. -/
def readAll (stream : Nat) : Act (Except FileFault Bytes) := do
  let m ← get
  match m.streams.lookup stream with
  | none => return .error .badStream
  | some n =>
    match m.rest n with
    | .error e => return .error e
    | .ok bs =>
      set (m.pass n bs.length)
      return .ok bs

/-- Reads what is left of the input. -/
def readInput : Act Bytes := return (← readAll 0).toOption.getD []

end JobLauncher.Shell
