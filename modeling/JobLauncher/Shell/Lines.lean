import JobLauncher.Shell.Grammar.Command
import JobLauncher.Shell.Relaid
import JobLauncher.Shell.Task

/-!
# Running lines

A text is read as a script line by line, and each line is run before the next one is read. What a
trap is set for happens between commands.
-/

namespace JobLauncher.Shell

/-! ## Traps -/

/-- Runs what is to be done on an event. The status stays. -/
def runTrap (go : Perform) (event : Nat) : Act Unit := do
  let m ← get
  match m.traps.find? (·.event = event) with
  | none => return
  | some t =>
    if t.script ≠ [] ∧ !m.trapping then
      set { m with trapping := true }
      let r ← (go (.text (m.name ++ bytes ": trap") t.script)).outcome
      modify fun after => { after with trapping := false }
      if let .ok _ := r then
        modify fun after =>
          { after with status := m.status, statuses := m.statuses, line := m.line }
      Act.resume r

/-- Deals with the signals that have come to the shell. -/
def takeSignals (go : Perform) : Act Unit := do
  let m ← get
  if m.level = 0 ∧ m.signals ≠ [] then
    set { m with signals := [] }
    for signal in m.signals do
      match m.traps.find? (·.event = signal) with
      | some _ => runTrap go signal
      | none => if Signal.ends signal then throw (.killed signal)

/-- What follows a command: a failure that nothing has asked for is one. -/
def afterCommand (go : Perform) : Act Unit := do
  takeSignals go
  let m ← get
  if m.status ≠ 0 ∧ !m.lenient then
    runTrap go Signal.errorEvent
    if (← get).has "errexit" then throw .exit

/-! ## Texts -/

/-- Says why a text is no script. `label` is what an error in it begins with; `first` is the number
of its first line. -/
def refuseScript (label : Bytes) (first : Nat) (text : Bytes) (f : SyntaxFault) : Act Unit := do
  let m ← get
  match m.dialect with
  | .full =>
    let line (n : Nat) : Bytes := label ++ bytes ": line " ++ decimal n ++ bytes ": "
    for (n, said) in f.said do warn (line n ++ bytes said ++ ['\n'])
    match f.shown with
    | some n =>
      let source := ((bareLines text)[n - first]?).getD []
      warn (line n ++ bytes "\x60" ++ source ++ bytes "'\n")
    | none => pure ()
  | .plain =>
    let line := if f.atEnd then first + text.count '\n' else (f.said.head?.map (·.1)).getD first
    let expecting := match f.expected with
      | some word => " (expecting \"" ++ word ++ "\")"
      | none => ""
    let command := if label = m.name ++ bytes ": eval" then bytes "eval: " else []
    warn (m.name ++ bytes ": " ++ decimal line ++ bytes ": " ++ command ++ bytes "Syntax error: "
      ++ bytes (f.plain ++ expecting) ++ ['\n'])
  if !(f.keeps ∧ m.status ≠ 0) ∨ m.dialect = .plain then setStatus f.status

/-- Says which documents end only with the text. -/
def warnDocuments (ts : List Placed) : Act Unit := do
  for (t, _) in ts do
    match t with
    | .document d =>
      if let some n := d.cut then
        modify fun m => { m with line := n }
        complain (bytes "warning: here-document at line " ++ decimal d.line
          ++ bytes " delimited by end-of-file (wanted \x60" ++ d.delimiter ++ bytes "')")
    | _ => pure ()

/-- How a text is run. -/
structure Reading where
  label : Bytes
  first : Nat
  text : Bytes
  /-- A line that is given up does not end the text. -/
  outermost : Bool := false
  /-- Nothing follows the text. -/
  last : Bool := false
  /-- The lines are numbered as if the text had been laid out. -/
  relaid : Bool := false

/-- The lines of a text from one number on up to another. -/
def Reading.lines (r : Reading) (a b : Nat) : Bytes :=
  unlines (((bareLines r.text).drop (a - r.first)).take (b - a))

/-- How the shell reads scripts. -/
def Machine.flavour (m : Machine) : Flavour :=
  { extended := m.hasExtra "extglob", plain := m.dialect = .plain }

/-- What is left of a text after some tokens, read anew if patterns may have choices now and might
not before, or the other way round. -/
def reread (r : Reading) (before after : Flavour) (used : List Placed) (state : Grammar.State) :
    Grammar.State :=
  match used.getLast? with
  | some (.newline, n) =>
    if before = after then state
    else .ofText after (n + 1) (((linesOf r.text).drop (n + 1 - r.first)).flatten)
  | _ => state

/-- Whether a line ends with the sign after a command. -/
def endsOpen (used : List Placed) : Bool :=
  match (used.filter fun t => t.1 != .newline).getLast? with
  | some (.operator op, _) => op == ";" || op == "&"
  | _ => false

/-- A script on the next line of a text, and the number of the line after it. -/
def Reading.numbered (r : Reading) (line next : Nat) (used : List Placed) (s : Script) :
    Script × Nat :=
  if r.relaid then
    let (s, n) := s.relaid false line
    (s, if endsOpen used = true then n else n + 1)
  else (s, next)

/-- Runs line after line of a text; `passed` is the first line that has not been shown. -/
def runLines (go : Perform) (r : Reading) : Nat → Nat → Grammar.State → Act Unit
  | 0, _, _ => return
  | fuel + 1, passed, state => do
    match Grammar.nextLine.run state with
    | .error f =>
      refuseScript r.label r.first r.text { f with keeps := f.keeps && r.outermost }
      if r.outermost ∨ (← get).dialect = .plain then throw .exit
    | .ok (none, _) => return
    | .ok (some s, state') => do
      let next := (state'.rest.head?.map (·.2)).getD (state'.endLine)
      if (← get).has "verbose" then warn (r.lines passed next)
      let used := state.rest.take (state.rest.length - state'.rest.length)
      warnDocuments used
      let flavour := (← get).flavour
      let isLast : Bool := r.last && state'.rest.all fun t => t.1 == .newline
      modify fun m => { m with last := isLast }
      let (s, next) := r.numbered passed next used s
      match ← (go (.script s)).outcome with
      | .ok _ => pure ()
      | .error .abandon => if !r.outermost then throw .abandon
      | .error f => throw f
      runLines go r fuel next (reread r flavour (← get).flavour used state')

/-- Runs a text. -/
def runText (go : Perform) (r : Reading) : Act Unit := do
  let m ← get
  let state := Grammar.State.ofText m.flavour r.first r.text
  if r.text.all isBlankOrEnd then setStatus 0
  runLines go r (state.rest.length + 1) r.first state

/-- Runs a text as part of a script, one level deeper. -/
def runInner (go : Perform) (label text : Bytes) (relaid : Bool) : Act Unit := do
  let m ← get
  set { m with depth := m.depth + 1, last := false }
  let r ← (runText go { label, first := m.line, text, relaid }).outcome
  modify fun after => { after with depth := m.depth }
  Act.resume r

end JobLauncher.Shell
