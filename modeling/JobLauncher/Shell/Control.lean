import JobLauncher.Shell.Builtin.Directory
import JobLauncher.Shell.Builtin.Names
import JobLauncher.Shell.Builtin.Options
import JobLauncher.Shell.Builtin.Process
import JobLauncher.Shell.Condition
import JobLauncher.Shell.Lines
import JobLauncher.Shell.Printf
import JobLauncher.Shell.Redirect

/-!
# Commands that the shell carries out itself

Commands that leave loops, functions and the shell, those that run other commands, and the list of
all of them.
-/

namespace JobLauncher.Shell.Builtin

/-! ## Leaving -/

/-- Ends the shell. -/
def exit (args : List Bytes) : Act Unit := do
  let m ← get
  match args with
  | [] => throw .exit
  | t :: rest =>
    match (integer? t).filter fun n => m.dialect = .full || 0 ≤ n with
    | none =>
      match m.dialect with
      | .full => complain (said "exit" (t ++ bytes ": numeric argument required"))
      | .plain => complain (said "exit" (bytes "Illegal number: " ++ t))
      setStatus 2
      throw .exit
    | some n =>
      if rest ≠ [] ∧ m.dialect = .full then
        fail 1 (said "exit" (bytes "too many arguments"))
        throw .abandon
      else
        setStatus (statusOf n)
        throw .exit

/-- Leaves a function or a script that another one reads. -/
def leaveFunction (args : List Bytes) : Act Unit := do
  let m ← get
  if m.calls = [] ∧ m.sourcing = 0 then
    match m.dialect with
    | .plain =>
      match args.head?.bind integer? with
      | some n => setStatus (statusOf n)
      | none => pure ()
      throw .exit
    | .full =>
      match args.head? with
      | some t =>
        if (integer? t).isNone then
          complain (said "return" (t ++ bytes ": numeric argument required"))
      | none => pure ()
      fail 2 (said "return" (bytes "can only \x60return' from a function or sourced script"))
  else
    match args with
    | [] => throw .back
    | [t] =>
      match integer? t with
      | some n => setStatus (statusOf n)
      | none => fail 2 (said "return" (t ++ bytes ": numeric argument required"))
      throw .back
    | _ =>
      fail 1 (said "return" (bytes "too many arguments"))
      throw .abandon

/-- Leaves loops, or goes on with their next round. -/
def leave (again : Bool) (args : List Bytes) : Act Unit := do
  let m ← get
  let name := if again then "continue" else "break"
  if m.loops = 0 then
    if m.dialect = .full then
      complain (said name (bytes "only meaningful in a \x60for', \x60while', or \x60until' loop"))
    setStatus 0
  else
    match args with
    | [] =>
      setStatus 0
      throw (if again then .again 0 else .leave 0)
    | [t] =>
      match integer? t with
      | none =>
        fail 128 (said name (t ++ bytes ": numeric argument required"))
        throw .exit
      | some n =>
        if n < 1 then
          fail 1 (said name (t ++ bytes ": loop count out of range"))
          throw (.leave (m.loops - 1))
        else
          setStatus 0
          let outer := min n.toNat m.loops - 1
          throw (if again then .again outer else .leave outer)
    | _ =>
      fail 1 (said name (bytes "too many arguments"))
      throw .abandon

/-! ## Output -/

/-- Writes output in the name of a command; a fault is said. -/
def write (name : String) (bs : Bytes) : Act Unit := do
  setStatus 0
  match ← tryPut bs with
  | none => return
  | some e => fail 1 (said name (bytes "write error: " ++ bytes e.message))

/-- Writes its arguments. -/
def echo (args : List Bytes) : Act Unit := do
  let m ← get
  match m.dialect with
  | .full => write "echo" (Printf.echo (m.hasExtra "xpg_echo") true args)
  | .plain => write "echo" (Printf.plainEcho args)

/-- Writes its arguments in a format, or gives the text to a variable. -/
def printf (go : Perform) (args : List Bytes) : Act Unit :=
  withGiven "printf" "" "v" args fun g => do
    let voice : Printf.Voice := match (← get).dialect with
      | .full => .full
      | .plain => .plain
    match g.operands, g.value? 'v' with
    | [], _ =>
      match voice with
      | .plain => fail 2 (said "printf" (bytes "usage: printf format [arg ...]"))
      | _ => usage "printf"
    | f :: rest, some name =>
      if !isPlaceText name then fail 2 (said "printf" (notName name))
      else
        let s := Printf.format voice f rest
        for t in s.faults.reverse do complain (said "printf" (t.message voice))
        let ok ← setVariable go name s.output
        setStatus (if s.failed ∨ !ok then 1 else 0)
    | f :: rest, none =>
      let s := Printf.format voice f rest
      for t in s.faults.reverse do complain (said "printf" (t.message voice))
      write "printf" s.output
      for (name, n) in s.counted.reverse do
        let _ ← setVariable go name (decimal n)
      if s.failed then setStatus (if s.isBroken ∧ voice = .plain then 2 else 1)

/-! ## Scripts -/

/-- Runs a script that arguments make up. -/
def eval (go : Perform) (args : List Bytes) : Act Unit :=
  withGiven "eval" "" "" args fun g => do
    let m ← get
    go (.text (m.name ++ bytes ": eval") (spaced g.operands))

/-- The path of a script to be read: one that is named, or one where programs are. -/
def scriptPath (m : Machine) (name : Bytes) : Bytes :=
  if name.contains '/' then name
  else
    let paths := (splitAt ':' ((m.textNamed? "PATH").getD usualPath)).map fun d => d ++ ['/'] ++ name
    (paths.find? fun p =>
      match m.files.entry? m.directory p with
      | some { node := .file _, .. } => true
      | _ => false).getD name

/-- Reads a file as part of the script. -/
def source (go : Perform) (name : String) (args : List Bytes) : Act Unit :=
  withGiven name "" "" args fun g => do
    match g.operands with
    | [] =>
      complain (said name (bytes "filename argument required"))
      usage name
    | file :: rest =>
      let m ← get
      let path := scriptPath m file
      match m.textAt path with
      | .error e =>
        match m.dialect with
        | .full => fail 1 (file ++ bytes ": " ++ bytes e.message)
        | .plain =>
          complain (said name (if file.contains '/' then
            bytes "cannot open " ++ file ++ bytes ": No such file"
          else file ++ bytes ": not found"))
          throw .fatal
      | .ok text =>
        set { m with
          args := if rest = [] then m.args else rest, origin := some path, line := 1
          sourcing := m.sourcing + 1, status := 0 }
        let r ← (go (.text path text)).outcome
        modify fun after =>
          { after with
            args := if rest = [] then after.args else m.args, origin := m.origin, line := m.line
            sourcing := m.sourcing }
        match r with
        | .error .back => runTrap go Signal.returnEvent
        | r => Act.resume r

/-- Shows where a function was called. -/
def caller (args : List Bytes) : Act Unit := do
  let m ← get
  match args with
  | [] =>
    match m.calls with
    | c :: _ =>
      put (decimal c.line ++ [' '] ++ (if m.calls.length = 1 then m.name else bytes "environment") ++ ['\n'])
      setStatus 0
    | [] => setStatus 1
  | t :: _ =>
    match (integer? t).map Int.toNat with
    | none => fail 1 (said "caller" (t ++ bytes ": invalid number"))
    | some n =>
      match m.calls[n]?, m.calls[n + 1]? with
      | some c, some outer =>
        put (decimal c.line ++ [' '] ++ outer.name ++ bytes " environment\n")
        setStatus 0
      | _, _ => setStatus 1

/-- Runs a command of the shell whatever else has its name. -/
def builtin (run : Bytes → Option (List Bytes → Act Unit)) (args : List Bytes) : Act Unit :=
  withGiven "builtin" "" "" args fun g => do
    match g.operands with
    | [] => setStatus 0
    | name :: rest =>
      match run name with
      | some command => command rest
      | none => fail 1 (said "builtin" (name ++ bytes ": not a shell builtin"))

/-- Runs a command that is no function, or says what names mean. -/
def command (go : Perform) (run : Bytes → Option (List Bytes → Act Unit)) (args : List Bytes) :
    Act Unit :=
  withGiven "command" "pvV" "" args fun g => do
    if g.has 'v' ∨ g.has 'V' then
      let all : Bool := (← get).dialect = .full
      which (g.has 'V') (if all then g.operands else g.operands.take 1)
    else
      match g.operands with
      | [] => setStatus 0
      | name :: rest =>
        match run name with
        | some c => c rest
        | none => go (.program (name :: rest))

/-- Puts a program in place of the shell. -/
def exec (go : Perform) (args : List Bytes) : Act Unit :=
  withGiven "exec" "cl" "a" args fun g => do
    match g.operands with
    | [] => setStatus 0
    | name :: _ =>
      let m ← get
      if (m.program? name).isNone then
        let text := if name.contains '/' then
            if (m.files.entry? m.directory name).isSome then ": Permission denied"
            else ": No such file or directory"
          else ": not found"
        fail (if text = ": Permission denied" then 126 else 127)
          ((if name.contains '/' then name else said "exec" name) ++ bytes text)
        throw .exit
      else
        set { m with traps := [], last := true }
        go (.program g.operands)
        modify fun m => { m with traps := [] }
        throw .exit

/-- The words that begin like a text. -/
def compgen (args : List Bytes) : Act Unit :=
  withGiven "compgen" "abcdefgjksuv" "oAGWFCXPS" args fun g => do
    let m ← get
    let start := g.operands.headD []
    let words := ((g.value? 'W').map fun t => (t.splitOnP isBlankOrEnd).filter (· ≠ [])).getD []
    let more := (if g.has 'v' then m.names else [])
      ++ (if g.has 'b' then usages.map fun u => bytes u.1 else [])
      ++ (if g.has 'k' then keywords.map bytes else [])
      ++ (if g.value? 'A' = some (bytes "function") then (functionsInOrder m).map (·.1) else [])
    let found := (words ++ more).filter start.isPrefixOf
    put (unlines found)
    setStatus (if found = [] then 1 else 0)

/-! ## All of them -/

/-- The command of the shell that has a name. -/
def find? (go : Perform) (m : Machine) : Bytes → Option (List Bytes → Act Unit)
  | name =>
    if !m.hasBuiltin name then none
    else
      let outer := simple go (textOfBytes name)
      match textOfBytes name with
      | "builtin" => some (builtin (inner m go))
      | "command" => some (command go (inner m go))
      | _ => outer
where
  /-- A command that another one runs. -/
  inner (m : Machine) (go : Perform) (name : Bytes) : Option (List Bytes → Act Unit) :=
    if !m.hasBuiltin name then none
    else
      match textOfBytes name with
      | "builtin" => some (builtin fun name => simple go (textOfBytes name))
      | "command" => some (command go fun name => simple go (textOfBytes name))
      | name => simple go name
  /-- A command that runs no other one by its name. -/
  simple (go : Perform) (name : String) : Option (List Bytes → Act Unit) :=
    match name with
    | ":" | "true" => some fun _ => setStatus 0
    | "false" => some fun _ => setStatus 1
    | "echo" => some echo
    | "printf" => some (printf go)
    | "test" | "[" => some (test (bytes name))
    | "exit" | "logout" => some exit
    | "return" => some leaveFunction
    | "break" => some (leave false)
    | "continue" => some (leave true)
    | "eval" => some (eval go)
    | "exec" => some (exec go)
    | "source" | "." => some (source go name)
    | "caller" => some caller
    | "declare" | "typeset" | "local" | "export" | "readonly" =>
      some fun args => declare go name (args.map .inl)
    | "unset" => some (unset go)
    | "let" => some evaluate
    | "shift" => some shift
    | "getopts" => some (getopts go)
    | "read" => some (read go)
    | "mapfile" | "readarray" => some (mapfile go name)
    | "set" => some setCommand
    | "shopt" => some shopt
    | "cd" | "chdir" => some cd
    | "pwd" => some pwd
    | "dirs" => some dirs
    | "pushd" => some pushd
    | "popd" => some popd
    | "trap" => some trap
    | "kill" => some kill
    | "wait" => some wait
    | "jobs" => some jobs
    | "disown" | "fg" | "bg" => some (refuseJobs name)
    | "suspend" => some fun _ => fail 1 (said name (bytes "cannot suspend: no job control"))
    | "umask" => some umask
    | "ulimit" => some ulimit
    | "times" => some fun _ => times
    | "type" => some type
    | "hash" => some hash
    | "alias" => some nameTexts
    | "unalias" => some unalias
    | "enable" => some enable
    | "compgen" => some compgen
    | "bind" => some fun _ => complain (said name (bytes "warning: line editing not enabled"))
    | "complete" | "compopt" | "fc" | "history" | "help" => some fun _ => setStatus 0
    | _ => none

end JobLauncher.Shell.Builtin
