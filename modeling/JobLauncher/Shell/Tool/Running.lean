import JobLauncher.Shell.Programs
import JobLauncher.Shell.Signal
import JobLauncher.Shell.Tool.Basic

/-!
# Running programs

Tools that run programs with another environment, for a limited time, or with arguments that they
read; and those that only take time.
-/

namespace JobLauncher.Shell.Tool.Running

/-! ## Other circumstances -/

/-- Runs a program in place of a tool, in circumstances that are changed for it alone. -/
def runAs (go : Perform) (change : Machine → Machine) (words : List Bytes) : Act Unit := do
  let outer ← get
  set { change outer with last := true }
  let r ← (go (.program words)).outcome
  modify fun m =>
    { m with last := outer.last, given := outer.given, directory := outer.directory
             deadline := outer.deadline }
  Act.resume r

/-- Why a program cannot be run, if it cannot. -/
def programFault? (m : Machine) (name : Bytes) : Option FileFault :=
  if (m.program? name).isSome then none
  else
    match m.files.find true m.directory name with
    | .ok _ => if name.contains '/' then some .denied else some .missing
    | .error e => if name.contains '/' then some e else some .missing

/-- Runs a program; `failing` is what comes before the reason if that is not possible. -/
def runOr (go : Perform) (name : String) (failing : Bytes → Bytes) (change : Machine → Machine)
    (words : List Bytes) : Act Unit := do
  let m := change (← get)
  let program := words.headD []
  match programFault? m program with
  | none => runAs go change words
  | some e =>
    refuse (if e = .missing then 127 else 126) name (failing program ++ bytes ": " ++ bytes e.message)

/-- An environment with a variable set in it, at its end if it is new. -/
def bind (name value : Bytes) (e : List (Bytes × Bytes)) : List (Bytes × Bytes) :=
  if (e.lookup name).isSome then e.map fun b => if b.1 = name then (name, value) else b
  else e ++ [(name, value)]

/-- The name and the value that an argument binds. -/
def binding? (t : Bytes) : Option (Bytes × Bytes) :=
  if t.contains '=' then
    let name := t.takeWhile (· ≠ '=')
    some (name, t.drop (name.length + 1))
  else none

/-- Shows an environment. -/
def showEnvironment (finish : Char) (e : List (Bytes × Bytes)) : Act Unit := do
  setStatus 0
  output "env" (e.flatMap fun b => b.1 ++ ['='] ++ b.2 ++ [finish])

/-- Runs a program in another environment, or shows one. -/
def env : Program := fun go args => do
  let options : Options :=
    { letters := "i0v", valued := "uCS", anywhere := false
      long := [("ignore-environment", 'i'), ("null", '0'), ("unset", 'u'), ("chdir", 'C'),
        ("split-string", 'S'), ("debug", 'v')] }
  -- a text that is split stands for its words
  let args := match args with
    | ['-', 'S'] :: t :: rest => (t.splitOnP isBlank).filter (· ≠ []) ++ rest
    | args => args
  withGiven "env" options 125 args fun g => do
    let m ← get
    let (empty, operands) := match g.operands with
      | ['-'] :: rest => (true, rest)
      | operands => (g.has 'i', operands)
    let start := if empty then [] else m.environment
    let start := start.filter fun b => !(g.values 'u').contains b.1
    let settings := (operands.takeWhile fun t => (binding? t).isSome).filterMap binding?
    let words := operands.drop settings.length
    let all := settings.foldl (fun e b => bind b.1 b.2 e) start
    if words = [] then showEnvironment (if g.has '0' then Char.ofNat 0 else '\n') all
    else if g.has '0' then misuse 125 "env" (bytes "cannot specify --null (-0) with command")
    else
      let moved : Except FileFault Path := match g.value? 'C' with
        | none => .ok m.directory
        | some d =>
          if m.files.isDirectory m.directory d then m.files.locate true m.directory d
          else .error .missing
      match moved with
      | .error e =>
        refuse 125 "env" (bytes "cannot change directory to " ++ quoted ((g.value? 'C').getD [])
          ++ bytes ": " ++ bytes e.message)
      | .ok directory =>
        runOr go "env" quoted (fun m => { m with given := some all, directory }) words

/-- Shows variables of the environment. -/
def printenv : Program := fun _ args =>
  withGiven "printenv" { letters := "0", anywhere := false, long := [("null", '0')] } 2 args fun g => do
    let e := (← get).environment
    let finish := if g.has '0' then Char.ofNat 0 else '\n'
    if g.operands = [] then showEnvironment finish e
    else
      let found := g.operands.filterMap fun name => e.lookup name
      output "printenv" (found.flatMap (· ++ [finish]))
      setStatus (if found.length = g.operands.length then 0 else 1)

/-- Runs a program that goes on when its terminal is gone. -/
def nohup : Program := fun go args =>
  withGiven "nohup" { anywhere := false } 125 args fun g =>
    if g.operands = [] then misuse 125 "nohup" (bytes "missing operand")
    else
      runOr go "nohup" (fun p => bytes "failed to run command " ++ quoted p) id g.operands

/-- Runs a program in a session of its own. -/
def setsid : Program := fun go args =>
  withGiven "setsid" { letters := "cfw", anywhere := false } 1 args fun g =>
    if g.operands = [] then
      misuse 1 "setsid" (bytes "no command specified")
    else
      runOr go "setsid" (fun p => bytes "failed to execute " ++ p) id g.operands

/-- Runs a program that gives way to others, or shows how much it would. -/
def nice : Program := fun go args =>
  let args := match args with
    | ('-' :: c :: cs) :: rest =>
      if (c :: cs).all Char.isDigit then bytes "-n" :: (c :: cs) :: rest else args
    | args => args
  withGiven "nice" { valued := "n", anywhere := false, long := [("adjustment", 'n')] } 125 args
    fun g => do
      let wrong := (g.value? 'n').filter fun t =>
        (natural? (if t.head? = some '-' ∨ t.head? = some '+' then t.tail else t)).isNone
      match wrong with
      | some t => refuse 125 "nice" (bytes "invalid adjustment " ++ quoted t)
      | none =>
        if g.operands = [] then
          setStatus 0
          output "nice" (bytes "0\n")
        else runOr go "nice" quoted id g.operands

/-! ## Time -/

/-- The time that a text with a unit means, in thousandths of a second. -/
def duration? (t : Bytes) : Option Nat := do
  let (digits, factor) := match t.getLast? with
    | some 's' => (t.dropLast, 1)
    | some 'm' => (t.dropLast, 60)
    | some 'h' => (t.dropLast, 3600)
    | some 'd' => (t.dropLast, 86400)
    | _ => (t, 1)
  let endless := (10 : Nat) * 365 * 86400 * 1000
  if ["inf", "infinity"].any fun w => bytes w = digits.map Char.toLower then return endless
  let whole := digits.takeWhile Char.isDigit
  let rest := digits.drop whole.length
  let fraction := match rest with
    | '.' :: ds => ds
    | _ => []
  guard (rest = [] ∨ rest.head? = some '.')
  guard (fraction.all Char.isDigit)
  guard (whole ≠ [] ∨ fraction ≠ [])
  let n := (natural? whole).getD 0
  let parts := (natural? (padRight '0' 3 (fraction.take 3))).getD 0
  return factor * (1000 * n + parts)

/-- Lets time pass, until everything is ended by somebody else. -/
def pass (time : Nat) : Act Unit := do
  let m ← get
  match m.deadline with
  | some d =>
    if d ≤ m.elapsed + time then
      set { m with elapsed := max d m.elapsed }
      throw (.killed 15)
    else set { m with elapsed := m.elapsed + time }
  | none => set { m with elapsed := m.elapsed + time }

/-- Waits. What others have written in the meantime can be seen then. -/
def sleep : Program := fun _ args =>
  withGiven "sleep" {} 1 args fun g => do
    match g.operands with
    | [] => misuse 1 "sleep" (bytes "missing operand")
    | times =>
      let bad := times.filter fun t => (duration? t).isNone
      for t in bad do say "sleep" (bytes "invalid time interval " ++ quoted t)
      if bad ≠ [] then
        hint "sleep"
        setStatus 1
      else
        let time := (times.filterMap duration?).foldl (· + ·) 0
        setStatus 0
        if 0 < time then
          modify fun m => m.showDelayed fun _ => true
          pass time

/-- Runs a program for a limited time. -/
def timeout : Program := fun go args =>
  let options : Options :=
    { letters := "fpv", valued := "ks", anywhere := false
      long := [("foreground", 'f'), ("preserve-status", 'p'), ("kill-after", 'k'), ("signal", 's'),
        ("verbose", 'v')] }
  withGiven "timeout" options 125 args fun g => do
    match g.operands with
    | limit :: words =>
      if words = [] then
        hint "timeout"
        setStatus 125
      else
        match duration? limit, ((g.value? 's').map Signal.ofText?).getD (some 15) with
        | none, _ => misuse 125 "timeout" (bytes "invalid time interval " ++ quoted limit)
        | _, none =>
          misuse 125 "timeout" (quoted ((g.value? 's').getD []) ++ bytes ": invalid signal")
        | some time, some signal =>
          let m ← get
          let mine := m.elapsed + time
          let deadline := if time = 0 then m.deadline else some ((m.deadline.map (min mine)).getD mine)
          let fail (p : Bytes) : Bytes := bytes "failed to run command " ++ quoted p
          let r ← (runOr go "timeout" fail (fun m => { m with deadline }) words).outcome
          let after ← get
          let ended : Bool := time ≠ 0 && mine ≤ after.elapsed
          match r with
          | .error (.killed n) =>
            if m.deadline.any (· ≤ after.elapsed) ∨ !ended then throw (.killed n)
            else if signal = 9 then throw (.killed 9)
            else setStatus (if g.has 'p' then signalStatus signal else 124)
          | r => Act.resume r
    | [] =>
      hint "timeout"
      setStatus 125

/-- How many lines are written at once, and how many times at most. -/
def manyLines : Nat := 1024
def manyTimes : Nat := 4096

/-- Writes a line again and again, until nobody reads any more. -/
def yes : Program := fun _ args =>
  withGiven "yes" { anywhere := false } 1 args fun g => do
    let line := (if g.operands = [] then ['y'] else spaced g.operands) ++ ['\n']
    let block := (List.replicate manyLines line).flatten
    setStatus 0
    for _ in List.range manyTimes do put block

/-! ## Arguments that are read -/

/-- Items of a text in which blanks part them, and quotes and backslashes keep characters. The rest
of a line is kept together if `byLine`. The items of each line; or what is wrong, with the lines
before that. -/
def items (byLine : Bool) : Nat → Bool → Bytes → List Bytes → List (List Bytes) → Bytes →
    List (List Bytes) × Option String
  | 0, _, _, _, lines, _ => (lines.reverse, none)
  | fuel + 1, begun, item, line, lines, text =>
    let closed := if begun then item.reverse :: line else line
    let withLine := if closed = [] then lines else closed.reverse :: lines
    match text with
    | [] => (withLine.reverse, none)
    | c :: rest =>
      if c = '\n' then items byLine fuel false [] [] withLine rest
      else if isBlank c && !(byLine && begun) then
        items byLine fuel false [] closed lines rest
      else if c = '"' ∨ c = '\x27' then
        let inside := rest.takeWhile fun d => d ≠ c ∧ d ≠ '\n'
        match rest.drop inside.length with
        | d :: rest =>
          if d = c then items byLine fuel true (inside.reverse ++ item) line lines rest
          else (withLine.reverse, some (unmatched c))
        | [] => (withLine.reverse, some (unmatched c))
      else if c = '\\' then
        match rest with
        | d :: rest => items byLine fuel true (d :: item) line lines rest
        | [] => items byLine fuel begun item line lines []
      else items byLine fuel true (c :: item) line lines rest
where
  unmatched (c : Char) : String :=
    "unmatched " ++ (if c = '"' then "double" else "single")
      ++ " quote; by default quotes are special to xargs unless you use the -0 option"

/-- A list in pieces of a size. -/
def inPieces (n : Nat) : Nat → List α → List (List α)
  | 0, _ => []
  | fuel + 1, xs => if xs.isEmpty then [] else xs.take n :: inPieces n fuel (xs.drop n)

/-- A text with another one in place of each mark. -/
def replaced (mark value : Bytes) : Nat → Bytes → Bytes
  | 0, t => t
  | _, [] => []
  | fuel + 1, c :: rest =>
    if mark ≠ [] ∧ mark.isPrefixOf (c :: rest) then
      value ++ replaced mark value fuel ((c :: rest).drop mark.length)
    else c :: replaced mark value fuel rest

/-- Runs commands and gives the status of all: what is said of one that ends otherwise. -/
def runEach (go : Perform) (shows : Bool) : Nat → List (List Bytes) → Act Nat
  | status, [] => return status
  | status, words :: rest => do
    if shows then warn (spaced words ++ ['\n'])
    let m ← get
    let program := words.headD []
    match programFault? m program with
    | some e =>
      say "xargs" (program ++ bytes ": " ++ bytes e.message)
      return if e = .missing then 127 else 126
    | none =>
      let (n, opened) := m.openChannel .null
      set { opened.connect 0 n with last := true }
      let r ← (go (.program words)).outcome
      modify fun after => { after with streams := m.streams, last := m.last }
      match r with
      | .error (.killed n) =>
        if (← get).isOver then throw (.killed n)
        say "xargs" (program ++ bytes ": terminated by signal " ++ decimal n)
        return 125
      | .error f => throw f
      | .ok _ =>
        let own := (← get).status
        if own = 255 then
          say "xargs" (program ++ bytes ": exited with status 255; aborting")
          return 124
        else runEach go shows (if own = 0 then status else 123) rest

/-- Runs a program with arguments that are read. -/
def xargs : Program := fun go args =>
  let options : Options :=
    { letters := "0oprtx", valued := "adEIiLlnPs", anywhere := false
      long := [("null", '0'), ("arg-file", 'a'), ("delimiter", 'd'), ("replace", 'I'),
        ("max-lines", 'L'), ("max-args", 'n'), ("max-procs", 'P'), ("no-run-if-empty", 'r'),
        ("verbose", 't'), ("exit", 'x')] }
  -- letters whose text may be missing
  let args := args.map fun a =>
    if a = bytes "-i" then bytes "-I\x7b\x7d" else if a = bytes "-l" then bytes "-L1" else a
  withGiven "xargs" options 1 args fun g => do
    let wrong := "nLPs".toList.find? fun c =>
      match g.value? c with
      | some t => (natural? t).isNone
      | none => false
    match wrong with
    | some c =>
      misuse 1 "xargs" (bytes "invalid number \"" ++ (g.value? c).getD [] ++ bytes "\" for -" ++ [c]
        ++ bytes " option")
    | none =>
      match "nL".toList.find? fun c => (g.value? c).bind natural? = some 0 with
      | some c =>
        misuse 1 "xargs" (bytes "value 0 for -" ++ [c] ++ bytes " option should be >= 1")
      | none =>
        let text ← match g.value? 'a' with
          | some path => contentOf path
          | none => readAll 0
        match text with
        | .error e =>
          refuse 1 "xargs" (bytes "Cannot open input file " ++ quoted ((g.value? 'a').getD []) ++ bytes ": "
            ++ bytes e.message)
        | .ok text => use go g text
where
  use (go : Perform) (g : Given) (text : Bytes) : Act Unit := do
    let words := if g.operands = [] then [bytes "echo"] else g.operands
    let mark := g.value? 'I'
    let single := if g.has '0' then some (Char.ofNat 0)
      else (g.value? 'd').map fun t => ((unescapeBytes .format t.length t).1).headD '\n'
    let (lines, fault) := match single with
      | some c =>
        let parts := splitAt c text
        let parts := if parts.getLast? = some [] then parts.dropLast else parts
        (parts.map fun t => [t], none)
      | none => items mark.isSome (text.length + 2) false [] [] [] text
    let lines := match g.value? 'E' with
      | some t => lines.takeWhile fun line => !line.contains t
      | none => lines
    let groups : List (List Bytes) := match mark, (g.value? 'L').bind natural? with
      | some _, _ => lines
      | none, some n => (inPieces n (lines.length + 1) lines).map List.flatten
      | none, none =>
        let all := lines.flatten
        match (g.value? 'n').bind natural? with
        | some n => inPieces n (all.length + 1) all
        | none => if all = [] then [] else [all]
    let commands := match mark with
      | some mark => groups.map fun group =>
          words.map fun w => replaced mark (spaced group) (w.length + 1) w
      | none =>
        if groups = [] ∧ !g.has 'r' ∧ fault.isNone then [words] else groups.map fun group => words ++ group
    let status ← runEach go (g.has 't') 0 commands
    match fault with
    | some e => refuse 1 "xargs" (bytes e)
    | none => setStatus status

end JobLauncher.Shell.Tool.Running
