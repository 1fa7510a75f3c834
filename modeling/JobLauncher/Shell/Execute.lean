import JobLauncher.Shell.Control
import JobLauncher.Shell.Tool.Table

/-!
# Running scripts

What every part of a script does. A part is run in a state and changes it; it ends the way it does
by what it leaves there as a status, or leaves the script around it by a `Flow`.
-/

namespace JobLauncher.Shell

/-! ## Programs -/

/-- Ends a program that a signal may have ended; the shell goes on unless the program has taken its
place. -/
def asProcess (a : Act Unit) : Act Unit := do
  let last := (← get).last
  match ← a.outcome with
  | .error (.killed n) =>
    if last || (← get).isOver then throw (.killed n) else setStatus (signalStatus n)
  | r => Act.resume r

/-- The signal that asks a process to end, and what is said of one that it has ended. -/
def terminate : Nat := 15

/-- Says that a signal has ended a process. -/
def sayTerminated (signal : Option Nat) : Act Unit := do
  if signal = some terminate then warn (bytes "Terminated\n")

/-- The options of a shell that is started, by their letters, and the names after them. -/
def shellOptions : Nat → List Char → List String → List Bytes →
    Except Bytes (List Char × List String × List Bytes)
  | 0, letters, named, args => .ok (letters, named, args)
  | fuel + 1, letters, named, args =>
    match args with
    | ['-', '-'] :: rest | ['-'] :: rest => .ok (letters, named, rest)
    | ['-', 'o'] :: name :: rest => shellOptions fuel letters (textOfBytes name :: named) rest
    | ['+', 'o'] :: _ :: rest | ['-', 'O'] :: _ :: rest | ['+', 'O'] :: _ :: rest =>
      shellOptions fuel letters named rest
    | ('-' :: '-' :: name) :: rest =>
      if ["login", "norc", "noprofile", "posix", "noediting", "restricted"].contains
          (textOfBytes name) then
        shellOptions fuel letters named rest
      else .error (bytes "--" ++ name)
    | ('-' :: c :: cs) :: rest =>
      let cluster := c :: cs
      if cluster.contains 'o' then
        match rest with
        | name :: rest =>
          shellOptions fuel (letters ++ cluster.filter (· ≠ 'o')) (textOfBytes name :: named) rest
        | [] => .ok (letters ++ cluster, named, [])
      else shellOptions fuel (letters ++ cluster) named rest
    | ('+' :: _ :: _) :: rest => shellOptions fuel letters named rest
    | args => .ok (letters, named, args)

/-- The letters of the options that the plain shell has. -/
def plainLetters : List Char := "abcefilmnpsuvxEIV".toList

/-- A shell that another one starts: what is exported is all that it knows. -/
def freshShell (m : Machine) (dialect : Dialect) (name : Bytes) (args : List Bytes) : Machine :=
  let process := m.nextProcess
  let given := match dialect with
    | .full => m.environment.filter fun e => e.1 ≠ ['_']
    | .plain => m.environment
  { dialect, name, args
    scopes := [Environment.initial dialect process m.directoryText given]
    traps := m.traps.filter fun t => t.script = []
    options := if dialect = .full then ({ name, files := m.files } : Machine).options else []
    directory := m.directory, streams := m.streams
    process, umask := m.umask, last := m.last
    lastWord := (m.environment.lookup ['_']).getD name
    files := m.files, channels := m.channels, nextChannel := m.nextChannel
    nextProcess := process + 1, delayed := m.delayed, clock := m.clock
    elapsed := m.elapsed, deadline := m.deadline, born := m.elapsed }

/-- What is shared after another shell has ended. -/
def joinShell (m inner : Machine) : Machine :=
  { m with
    files := inner.files, channels := inner.channels, nextChannel := inner.nextChannel
    nextProcess := inner.nextProcess, delayed := inner.delayed, clock := inner.clock
    elapsed := inner.elapsed }

/-- The status of a shell that cannot go on. -/
def fatalStatus (d : Dialect) : Nat := match d with
  | .full => 127
  | .plain => 2

/-- Runs a text in a shell of its own that another one starts. `label` is what an error in the text
begins with. -/
def runShell (go : Perform) (own : Machine) (label text : Bytes) : Act Unit := do
  let m ← get
  let all : Act Unit := do
    runText go { label, first := 1, text, outermost := true, last := own.last }
  let (r, inner) := (wholeShell go (fatalStatus own.dialect) all).runFrom own
  set { joinShell m inner with status := inner.status }
  match r with
  | .error (.killed n) =>
    if n = terminate ∧ !m.last ∧ !inner.isOver then warn (bytes "Terminated\n")
    throw (.killed n)
  | _ => return

/-- Starts a shell by its name and its arguments. -/
def startShell (go : Perform) (dialect : Dialect) (name : Bytes) (args : List Bytes) : Act Unit := do
  let m ← get
  let refuse (status : Nat) (text : Bytes) : Act Unit := do
    warn (name ++ bytes ": " ++ text ++ ['\n'])
    setStatus status
  match shellOptions (args.length + 1) [] [] args with
  | .error shown => refuse 2 (shown ++ bytes ": invalid option")
  | .ok (letters, named, operands) =>
    let bad := letters.find? fun c => dialect = .plain && !plainLetters.contains c
    match bad with
    | some c => refuse 2 (bytes "0: Illegal option -" ++ [c])
    | none =>
      let on := named ++ (Machine.optionLetters.filter fun o => letters.contains o.2).map (·.1)
      let start (name : Bytes) (args : List Bytes) : Machine :=
        let own := freshShell m dialect name args
        { own with options := on ++ own.options }
      if letters.contains 'c' then
        match operands with
        | [] =>
          refuse 2 (match dialect with
            | .plain => bytes "0: -c requires an argument"
            | .full => bytes "-c: option requires an argument")
        | script :: rest =>
          let own := start (rest.headD name) rest.tail
          runShell go own (own.name ++ bytes ": -c") script
      else if letters.contains 's' ∨ operands = [] then
        let text ← readInput
        runShell go { start name operands with last := false } name text
      else
        match operands with
        | [] => return
        | file :: rest =>
          match m.textAt file with
          | .ok text => runShell go { start file rest with last := false } file text
          | .error e =>
            match dialect with
            | .full => refuse 127 (file ++ bytes ": " ++ bytes e.message)
            | .plain => refuse 2 (bytes "0: cannot open " ++ file ++ bytes ": No such file")

/-- The interpreter that a script names in its first line, and its argument. -/
def interpreter? (text : Bytes) : Option (List Bytes) :=
  if (bytes "#!").isPrefixOf text then
    let line := (text.drop 2).takeWhile (· ≠ '\n')
    some ((line.splitOnP isBlank).filter (· ≠ []))
  else none

/-- Runs what is at a path that may be run. -/
def runFile (go : Perform) (path : Bytes) (args : List Bytes) : Act Unit := do
  let m ← get
  match m.files.entry? m.directory path with
  | some { node := .program name, .. } =>
    match name with
    | "bash" => asProcess (startShell go .full (bytes "bash") args)
    | "sh" | "dash" => asProcess (startShell go .plain (bytes name) args)
    | name =>
      match Tool.find? name with
      | some tool => asProcess (tool go args)
      | none => setStatus 0
  | some { node := .file text, .. } =>
    match interpreter? text with
    | none => asProcess (runShell go (freshShell m .full path args) path text)
    | some words =>
      let words := match words with
        | first :: rest => if Files.baseName first = bytes "env" then rest else first :: rest
        | [] => []
      match words with
      | [] => asProcess (runShell go (freshShell m .full path args) path text)
      | first :: more =>
        match textOfBytes (Files.baseName first) with
        | "bash" => asProcess (startShell go .full path (more ++ path :: args))
        | "sh" | "dash" => asProcess (startShell go .plain path (more ++ path :: args))
        | other =>
          if (m.program? first).isSome ∨ (m.program? (bytes other)).isSome then
            go (.program (first :: more ++ path :: args))
          else
            fail 126 (path ++ bytes ": " ++ first ++ bytes ": bad interpreter: No such file or directory")
  | _ => setStatus 126

/-- Says why a program cannot be run. -/
def refuseProgram (name : Bytes) : Act Unit := do
  let m ← get
  match m.dialect with
  | .plain =>
    if name.contains '/' ∧ (m.files.entry? m.directory name).isSome then
      fail 126 (name ++ bytes ": Permission denied")
    else fail 127 (name ++ bytes ": not found")
  | .full =>
    if name.contains '/' then
      match m.files.find true m.directory name with
      | .error e => fail (if e = .missing then 127 else 126) (name ++ bytes ": " ++ bytes e.message)
      | .ok (_, { node := .directory, .. }) => fail 126 (name ++ bytes ": Is a directory")
      | .ok _ => fail 126 (name ++ bytes ": Permission denied")
    else if m.searchesNowhere then fail 127 (name ++ bytes ": No such file or directory")
    else fail 127 (name ++ bytes ": command not found")

/-- Notes that a program has been found at a path. -/
def noteProgram (name path : Bytes) : Act Unit := modify fun m =>
  if name.contains '/' then m
  else
    let n := ((m.hashed.lookup name).map (·.2)).getD 0
    { m with hashed := m.hashed.filter (·.1 ≠ name) ++ [(name, path, n + 1)] }

/-- Runs a program. -/
def runProgram (go : Perform) : List Bytes → Act Unit
  | [] => setStatus 0
  | name :: args => do
    let m ← get
    match m.program? name with
    | some path =>
      noteProgram name path
      if m.given.isNone then modify fun m => { m with given := some (m.programEnvironment path) }
      modify fun m => { m with called := name }
      let r ← (runFile go path args).outcome
      modify fun after => { after with given := m.given, called := m.called }
      Act.resume r
    | none =>
      match m.functions.lookup (bytes "command_not_found_handle") with
      | some _ =>
        let _ ← inSubshell go (go (.command (bytes "command_not_found_handle" :: name :: args)))
      | none => refuseProgram name

/-! ## Commands -/

/-- Runs a function with arguments. -/
def callFunction (go : Perform) (name : Bytes) (args : List Bytes) (body : Script) : Act Unit := do
  let m ← get
  let hidden := m.traps.filter fun t =>
    (t.event = Signal.errorEvent && !m.has "errtrace")
      || ((t.event = Signal.debugEvent || t.event = Signal.returnEvent) && !m.has "functrace")
  set { m with
    scopes := [] :: m.scopes, args, calls := { name, line := m.line } :: m.calls
    loops := 0, last := false, traps := m.traps.filter fun t => !hidden.contains t }
  let r ← (go (.script body)).outcome
  let ended : Bool := match r with
    | .ok _ | .error .back => true
    | _ => false
  if ended then runTrap go Signal.returnEvent
  modify fun after =>
    let kept := hidden.filter fun t => !after.traps.any (·.event = t.event)
    { after with
      scopes := after.scopes.drop 1, args := m.args, calls := m.calls, loops := m.loops
      line := m.line, traps := after.traps ++ kept }
  if !ended then Act.resume r

/-- Runs a command by its words. -/
def runCommand (go : Perform) : List Bytes → Act Unit
  | [] => setStatus 0
  | name :: args => do
    let m ← get
    match m.functions.lookup name with
    | some body => callFunction go name args body
    | none =>
      match Builtin.find? go m name with
      | some command => command args
      | none => runProgram go (name :: args)

/-- Runs the scripts that read what has been written for them. -/
def runConsumers (go : Perform) : Act Unit := do
  let m ← get
  if m.consumers ≠ [] then
    set { m with consumers := [] }
    for (channel, script) in m.consumers.reverse do
      let m' ← get
      let (n, opened) := m'.openChannel (.source (m'.written channel))
      set opened
      let _ ← inSubshell go do
        modify (·.connect 0 n)
        go (.text (m.name ++ bytes ": process substitution") script)
      modify fun after => { after with status := m.status }

/-- What the words of a command come to: texts, and what a command that declares declares. -/
def commandWords (go : Perform) : List Word → Act (List (Bytes ⊕ Builtin.Declaration))
  | [] => return []
  | w :: rest => do
    let m ← get
    let declares : Bool := w.bare?.any fun name =>
      declarators.contains (String.ofList name) && m.hasBuiltin name
    let first ← fieldsOf go w
    if declares then
      let more ← rest.mapM fun w => do
        match w.setting? with
        | some s =>
          let value ← settingValue go s
          let index := match value with
            | .text i _ => i
            | .list _ => none
          return [Sum.inr { source := w.source, name := s.name, index, adds := s.adds
                            value := some value }]
        | none => return (← fieldsOf go w).map Sum.inl
      return first.map Sum.inl ++ more.flatten
    else return (first ++ (← allFields go rest)).map Sum.inl

/-- The text of a word of a command in a trace. -/
def tracedArgument : Bytes ⊕ Builtin.Declaration → Act Bytes
  | .inl t => shownWord t
  | .inr d => do
    match d.value with
    | some (.text index t) =>
      let shown ← if t = [] then pure [] else shownWord t
      return shownPlace d.name index ++ (if d.adds then bytes "+=" else ['=']) ++ shown
    | _ => return d.source

/-- Sets the variables that stand before a command, showing each. -/
def assignSettings (go : Perform) (settings : List Setting) : Act Unit := do
  for s in settings do
    let value ← settingValue go s
    let sign := if s.adds then bytes "+=" else ['=']
    match value with
    | .text index t =>
      let shown ← if t = [] then pure [] else shownWord t
      trace go (shownPlace s.name index ++ sign ++ shown)
    | .list _ => trace go s.value.source
    assign go [] s.name s.adds value

/-- Does something with variables set for it; afterwards they are what they were. One that must not
change is left out, which is said. -/
def withSettings (go : Perform) (settings : List Setting) (a : Act Unit) : Act Unit := do
  if settings = [] then a
  else
    let m ← get
    let (fixed, settings) := settings.partition fun s => (m.kept? (m.target s.name)).any (·.readOnly)
    for s in fixed do complain (s.name ++ bytes ": readonly variable")
    if fixed ≠ [] ∧ m.has "errexit" then
      setStatus 1
      throw .exit
    let saved := settings.map fun s => (s.name, m.kept? s.name)
    assignSettings go settings
    modify fun m => settings.foldl (fun m s => m.change s.name fun v => { v with exported := true }) m
    let r ← a.outcome
    modify fun m => saved.foldl (fun m e =>
      match e.2 with
      | some v => m.change e.1 fun _ => v
      | none => m.unset e.1) m
    Act.resume r

/-- Notes the last word of a command and its status. -/
def noteCommand (words : List Bytes) : Act Unit := modify fun m =>
  { m with statuses := [m.status], lastWord := (words.getLast?).getD m.lastWord }

/-- Runs the words of a command. -/
def execute (go : Perform) (words : List (Bytes ⊕ Builtin.Declaration)) : Act Unit := do
  match words with
  | .inl name :: args =>
    if args.any (·.isRight) then Builtin.declare go (textOfBytes name) args
    else runCommand go (name :: args.filterMap Sum.getLeft?)
  | _ => return

/-- Whether a command is one that changes the streams of the shell. -/
def changesStreams (words : List (Bytes ⊕ Builtin.Declaration)) : Bool :=
  match words with
  | [.inl name] => name = bytes "exec"
  | _ => false

/-- The text that a command is if its first word stands for other text. -/
def aliased? (m : Machine) (c : Simple) : Option Bytes := do
  guard (m.hasExtra "expand_aliases" || m.dialect = .plain)
  let first ← c.words.head?
  let name ← first.bare?
  let t ← m.aliases.lookup name
  return spaced (c.settings.map (·.value.source) ++ t :: c.words.tail.map (·.source)
    ++ c.redirections.map Layout.redirection)

/-- Runs a simple command. -/
def runSimple (go : Perform) (c : Simple) : Act Unit := do
  modify fun m => { m with line := c.line }
  noteText (Layout.simple c)
  runTrap go Signal.debugEvent
  match aliased? (← get) c with
  | some text =>
    let m ← get
    let kept := m.aliases
    -- a name does not stand for itself again
    set { m with aliases := kept.filter fun a => some a.1 ≠ c.words.head?.bind (·.bare?) }
    go (.text m.name text)
    modify fun m => { m with aliases := if m.aliases.length < kept.length then kept else m.aliases }
  | none =>
    modify fun m => { m with outputStatus := none, line := c.line }
    let streams := (← get).streams
    let words ← commandWords go c.words
    match words with
    | [] =>
      assignSettings go c.settings
      setStatus ((← get).outputStatus.getD 0)
      withRedirections go c.redirections (pure ())
    | words =>
      let run : Act Unit := do
        trace go (spaced (← words.mapM tracedArgument))
        withSettings go c.settings (execute go words)
      if changesStreams words then
        unless ← redirectAll go c.redirections do setStatus 1
        run
      -- a trace goes where errors went before
      else withRedirections go c.redirections run
      noteCommand (words.filterMap Sum.getLeft?)
    forgetWordStreams streams
    runConsumers go
  afterCommand go

/-! ## Compound commands -/

/-- Runs a script whose failure is asked for. -/
def leniently (a : Act Unit) : Act Unit := do
  let m ← get
  set { m with lenient := true, last := false }
  let r ← a.outcome
  modify fun after => { after with lenient := m.lenient, last := m.last }
  Act.resume r

/-- Runs a script that something follows. -/
def notLast (a : Act Unit) : Act Unit := do
  modify fun m => { m with last := false }
  a

/-- Whether a loop goes on after a round. -/
def goesOn (body : Act Unit) : Act Bool := do
  match ← body.outcome with
  | .ok _ | .error (.again 0) => return true
  | .error (.leave 0) => return false
  | .error (.leave (n + 1)) => throw (.leave n)
  | .error (.again (n + 1)) => throw (.again n)
  | .error f => throw f

/-- Runs a loop. -/
def inLoop (a : Act Unit) : Act Unit := do
  let m ← get
  set { m with loops := m.loops + 1, last := false }
  let r ← a.outcome
  modify fun after => { after with loops := m.loops }
  Act.resume r

/-- How many rounds a loop may have. -/
def maxRounds : Nat := 1000000000

/-- Runs a body as long as a condition says so; `status` is that of the last round. -/
def repeatWhile (opposite : Bool) (condition body : Act Unit) : Nat → Nat → Act Unit
  | 0, _ => return
  | rounds + 1, status => do
    leniently condition
    if ((← get).status = 0) = opposite then setStatus status
    else
      if ← goesOn body then repeatWhile opposite condition body rounds (← get).status

/-- Runs a body for each of several texts. -/
def repeatEach (body : Bytes → Act Unit) : List Bytes → Act Unit
  | [] => return
  | t :: rest => do if ← goesOn (body t) then repeatEach body rest

/-- The value of an arithmetic command, which is none if it fails; that is said. -/
def commandNumber? (go : Perform) (text : Bytes) : Act (Option Int) := do
  let text ← expressionText go maxNesting text
  trace go (bytes "(( " ++ ((text.dropWhile isBlank).reverse.dropWhile isBlank).reverse ++ bytes " ))")
  match ← Arithmetic.value text with
  | .ok n => return some n
  | .error e =>
    fail 1 (bytes "((: " ++ e.message .full)
    return none

/-- Runs a body as long as an expression is not zero. -/
def repeatCounting (condition next : Act (Option Int)) (body : Act Unit) : Nat → Act Unit
  | 0 => return
  | rounds + 1 => do
    match ← condition with
    | none => return
    | some n =>
      if n ≠ 0 then
        if ← goesOn body then
          if (← next).isSome then repeatCounting condition next body rounds

/-- The branch that runs first: the first one with a pattern that matches. -/
def matchingBranch (go : Perform) (folded : Bool) (subject : Bytes) : Script → Act Script
  | .branch ps body ending next => do
    let choices := (← get).choices
    let rec anyMatches : List Word → Act Bool
      | [] => return false
      | w :: rest => do
        let p ← patternOf go maxNesting w
        let p := if folded then p.map fun (c, g) => (c.toLower, g) else p
        if Glob.holds (Glob.ofText choices p) subject then return true else anyMatches rest
    if ← anyMatches ps then return .branch ps body ending next
    else matchingBranch go folded subject next
  | s => return s

/-- Runs a branch and those that it goes on to. -/
def runBranches (go : Perform) (folded : Bool) (subject : Bytes) : Nat → Script → Act Unit
  | 0, _ => return
  | fuel + 1, s => do
    match s with
    | .branch _ body ending next =>
      match body with
      | .skip => setStatus 0
      | body => go (.script body)
      match ending with
      | .stop => return
      | .fall => runBranches go folded subject fuel next
      | .retry => do
        match ← matchingBranch go folded subject next with
        | .skip => return
        | found => runBranches go folded subject fuel found
    | _ => return

/-! ## Pipes -/

/-- How much a command may write that nobody reads. -/
def pipeRoom : Nat := 1048576

/-- Runs one stage of a pipe in a shell of its own. -/
def runStage (go : Perform) (s : Script) (input output : Option Nat) : Act Unit := do
  let fatal := match s with
    | .simple _ => 127
    | _ => 1
  let _ ← inSubshell go (do
    modify fun m =>
      let m := (input.map (m.connect 0)).getD m
      { (output.map (m.connect 1)).getD m with last := false }
    go (.script s)) fatal

/-- Runs the stages of a pipe one after another and gives their statuses. -/
def runStages (go : Perform) (input : Option Nat) : List Script → Act (List Nat)
  | [] => return []
  | [s] => do
    if (← get).hasExtra "lastpipe" then
      keepingStreams do
        modify fun m => (input.map (m.connect 0)).getD m
        go (.script s)
    else runStage go s input none
    return [(← get).status]
  | s :: rest => do
    let (n, m) := (← get).openChannel (.sink [] (some pipeRoom))
    set m
    let status := m.status
    runStage go s input (some n)
    let m ← get
    let ended := m.status
    let m := m.showDelayed (· = n)
    let (source, m) := m.openChannel (.source (m.written n))
    set { m.closeChannel n with status }
    return ended :: (← runStages go (some source) rest)

/-- The status of a pipe by those of its stages. -/
def pipeStatus (all : Bool) (statuses : List Nat) : Nat :=
  if all then (statuses.reverse.find? (· ≠ 0)).getD 0 else statuses.getLast?.getD 0

/-- Runs a pipe. -/
def runPipe (go : Perform) (stages : List Script) : Act Unit := do
  let statuses ← runStages go none stages
  if let some (.simple c) := stages.getLast? then noteText (Layout.simple c)
  modify fun m => { m with statuses, status := pipeStatus (m.has "pipefail") statuses }
  afterCommand go

/-! ## Background -/

/-- Runs a command in the background. What it writes is kept until somebody waits. -/
def runBackground (go : Perform) (s : Script) : Act Unit := do
  let m ← get
  let channels := (m.streams.map (·.2)).eraseDups.filter fun n =>
    match m.channels.lookup n with
    | some (.sink ..) => true
    | _ => false
  -- every channel gets a stand-in
  let (pairs, m') := channels.foldl (fun (pairs, m) n =>
    let (k, m) := Machine.openChannel m (.sink [] none)
    ((n, k) :: pairs, m)) (([] : List (Nat × Nat)), m)
  let process := m.nextProcess
  let (null, m') := m'.openChannel .null
  set m'
  let _ ← inSubshell go do
    modify fun m =>
      { (m.connect 0 null) with
        streams := (m.connect 0 null).streams.map fun e => (e.1, (pairs.lookup e.2).getD e.2)
        last := false, lenient := false }
    go (.script s)
  modify fun after =>
    let written := pairs.reverse.map fun p => (p.1, after.written p.2)
    let job : Job :=
      { process, status := after.status, lasting := m.elapsed < after.elapsed, text := Layout.script 0 s }
    { pairs.foldl (fun m p => m.closeChannel p.2) after with
      delayed := after.delayed ++ written, jobs := job :: m.jobs, lastJob := some process
      nextProcess := after.nextProcess + 1, status := 0, elapsed := m.elapsed }

/-! ## Menus -/

/-- How wide a screen is. -/
def screenWidth (m : Machine) : Nat := ((m.textNamed? "COLUMNS").bind natural?).getD 80

/-- Room between two columns, with tabs. -/
def indentTo (upTo : Nat) : Nat → Nat → Bytes
  | 0, _ => []
  | fuel + 1, from_ =>
    if upTo ≤ from_ then []
    else if from_ / 8 < upTo / 8 then '\t' :: indentTo upTo fuel (from_ + 8 - from_ % 8)
    else ' ' :: indentTo upTo fuel (from_ + 1)

/-- The lines of a menu. -/
def menuText (width : Nat) (items : List Bytes) : Bytes :=
  let count := items.length
  if count = 0 then ['\n']
  else
    let digits := (decimal count).length
    let widest := (items.map List.length).foldl max 0 + digits + 2
    let columns := max 1 (width / widest)
    let rows := count / columns + if count % columns = 0 then 0 else 1
    let columns := count / rows + if count % rows = 0 then 0 else 1
    let (rows, columns) := if rows = 1 then (columns, 1) else (rows, columns)
    let firstDigits := (decimal rows).length
    (List.range rows).flatMap fun row =>
      (List.range columns).flatMap (fun column =>
        let i := row + column * rows
        match items[i]? with
        | none => []
        | some item =>
          let w := if column = 0 then firstDigits else digits
          let cell := padLeft ' ' w (decimal (i + 1)) ++ bytes ") " ++ item
          cell ++ if i + rows < count then
            indentTo ((column + 1) * widest) widest (column * widest + cell.length) else [])
      ++ ['\n']

/-- Shows a menu and reads what is chosen, until the body leaves it. -/
def repeatMenu (go : Perform) (name : Bytes) (items : List Bytes) (body : Act Unit) :
    Nat → Bool → Act Unit
  | 0, _ => return
  | rounds + 1, shows => do
    let m ← get
    if shows then warn (menuText (screenWidth m) items)
    warn ((m.textNamed? "PS3").getD (bytes "#? "))
    go (.command [bytes "builtin", bytes "read", bytes "-r", bytes "REPLY"])
    let m ← get
    let reply := (m.textNamed? "REPLY").getD []
    if m.status ≠ 0 ∧ reply = [] then
      warn ['\n']
      setStatus 1
    else if reply = [] then repeatMenu go name items body rounds true
    else
      let chosen := match natural? reply with
        | some n => if n = 0 then [] else items.getD (n - 1) []
        | none => []
      modify (·.setText name chosen)
      if ← goesOn body then
        repeatMenu go name items body rounds (((← get).textNamed? "REPLY") = some [])

/-! ## Scripts -/

/-- The commands of a script one after another. -/
def commandsOf : Script → List Script
  | .seq a b => a :: commandsOf b
  | s => [s]

/-- Runs commands one after another; only the last one is the last one. -/
def runAll (go : Perform) (last : Bool) : List Script → Act Unit
  | [] => return
  | [s] => do
    modify fun m => { m with last }
    go (.script s)
  | s :: rest => do
    modify fun m => { m with last := false }
    go (.script s)
    runAll go last rest

/-- The name of the variable of a loop; nothing if it is none, which is said. -/
def loopName (name : Bytes) : Act Bool := do
  if isName name then return true
  else
    fail 1 (Builtin.notName name)
    return false

/-- Runs a script. -/
def runScript (go : Perform) (s : Script) : Act Unit := do
  let before ← get
  if before.has "noexec" then return
  match s with
  | .skip => return
  | .simple c => runSimple go c
  | .redirected s rs =>
    withRedirections go rs (notLast (go (.script s))) (afterCommand go)
    forgetWordStreams before.streams
    runConsumers go
  | .seq a b => runAll go before.last (commandsOf (.seq a b))
  | .both a b =>
    leniently (go (.script a))
    if (← get).status = 0 then go (.script b)
  | .either a b =>
    leniently (go (.script a))
    if (← get).status ≠ 0 then go (.script b)
  | .pipe a b => runPipe go (Script.pipe a b).stages
  | .negated s =>
    leniently (go (.script s))
    modify fun m => { m with status := if m.status = 0 then 1 else 0 }
  | .timed bare s =>
    notLast (go (.script s))
    warn (bytes (if bare then "real 0.00\nuser 0.00\nsys 0.00\n"
      else "\nreal\t0m0.000s\nuser\t0m0.000s\nsys\t0m0.000s\n"))
  | .background s => runBackground go s
  | .subshell s =>
    noteText (Layout.script 0 (.subshell s))
    let signal ← inSubshell go (go (.script s))
    sayTerminated signal
    noteCommand []
    afterCommand go
  | .group s => notLast (go (.script s))
  | .loop opposite condition body =>
    inLoop (repeatWhile opposite (go (.script condition)) (go (.script body)) maxRounds 0)
  | .choice condition yes no =>
    leniently (go (.script condition))
    modify fun m => { m with last := false }
    if (← get).status = 0 then go (.script yes)
    else
      match no with
      | .skip => setStatus 0
      | no => go (.script no)
  | .each line name ws body =>
    modify fun m => { m with line }
    if ← loopName name then
      let items ← allFields go ws
      setStatus 0
      let shown := bytes "for " ++ name ++ bytes " in " ++ spaced (ws.map (·.source))
      inLoop (repeatEach (fun t => do
        modify fun m => { m with line }
        noteText shown
        runTrap go Signal.debugEvent
        if before.dialect = .full then trace go shown
        let _ ← store { name } t
        go (.script body)) items)
  | .menu line name ws body =>
    modify fun m => { m with line }
    if ← loopName name then
      let items ← allFields go ws
      setStatus 0
      if items ≠ [] then inLoop (repeatMenu go name items (go (.script body)) maxRounds true)
  | .count line first condition next body =>
    modify fun m => { m with line }
    setStatus 0
    let number (t : Bytes) (usual : Int) : Act (Option Int) := do
      if t.all isBlankOrEnd then return some usual
      else
        modify fun m => { m with line }
        commandNumber? go t
    if (← number first 1).isSome then
      inLoop (repeatCounting (number condition 1) (number next 1) (go (.script body)) maxRounds)
  | .select line subject branches =>
    modify fun m => { m with line }
    let text ← textOfWord go subject
    if before.dialect = .full then trace go (bytes "case " ++ subject.source ++ bytes " in")
    let folded := (← get).hasExtra "nocasematch"
    let text := if folded then text.map Char.toLower else text
    match ← matchingBranch go folded text branches with
    | .skip => setStatus 0
    | found => notLast (runBranches go folded text 100000 found)
  | .branch .. => return
  | .arithmetic line expression =>
    modify fun m => { m with line }
    noteText (bytes "((" ++ expression ++ bytes "))")
    runTrap go Signal.debugEvent
    match ← commandNumber? go expression with
    | some n => setStatus (if n = 0 then 1 else 0)
    | none => pure ()
    noteCommand []
    afterCommand go
  | .test line t =>
    modify fun m => { m with line }
    noteText (Layout.script 0 (.test line t))
    runTrap go Signal.debugEvent
    match ← testHolds go false t with
    | some b => setTruth b
    | none => setStatus 2
    noteCommand []
    afterCommand go
  | .define name body =>
    modify fun m => { m with functions := (name, body) :: m.functions.filter (·.1 ≠ name) }
    setStatus 0

/-- Carries out tasks. The fuel bounds how deep scripts, functions and words are inside each
other. -/
def perform : Nat → Perform
  | 0, _ => throw (.killed Signal.fault)
  | fuel + 1, task =>
    let go := perform fuel
    match task with
    | .script s => runScript go s
    | .text label t relaid => runInner go label t relaid
    | .command words => runCommand go words
    | .program words => runProgram go words

end JobLauncher.Shell
