import JobLauncher.Shell.Builtin.Basic
import JobLauncher.Shell.Mode
import JobLauncher.Shell.Signal
import JobLauncher.Shell.Spelling
import JobLauncher.Shell.Task

/-!
# Commands on processes

Signals, traps, processes in the background, and limits.
-/

namespace JobLauncher.Shell.Builtin

/-! ## Traps -/

/-- Shows what is to be done on some events. -/
def showTraps (m : Machine) (which : Nat → Bool) : Act Unit := do
  for t in (m.traps.filter fun t => which t.event).mergeSort fun a b => a.event ≤ b.event do
    put (bytes "trap -- " ++ Spelling.quoted t.script ++ [' '] ++ bytes (Signal.eventName t.event)
      ++ ['\n'])

/-- Sets what is to be done on events; nothing means what is usual. -/
def setTraps (script : Option Bytes) : List Bytes → Act Unit
  | [] => return
  | e :: rest => do
    match Signal.eventOfText? e with
    | none =>
      match (← get).dialect with
      | .full => fail 1 (said "trap" (e ++ bytes ": invalid signal specification"))
      | .plain =>
        warn (said "trap" (e ++ bytes ": bad trap\n"))
        setStatus 1
    | some event =>
      modify fun m =>
        let others := m.traps.filter (·.event ≠ event)
        { m with traps := match script with
          | some script => { event, script } :: others
          | none => others }
    setTraps script rest

/-- Sets or shows what is to be done on events. -/
def trap (args : List Bytes) : Act Unit := do
  if args.head? = some ['-'] then
    setStatus 0
    setTraps none args.tail
  else
    withGiven "trap" "lp" "" args fun g => do
      let m ← get
      setStatus 0
      if g.has 'l' then put Signal.listing
      else if g.has 'p' ∨ g.operands = [] then
        match g.operands with
        | [] => showTraps m fun _ => true
        | events =>
          for e in events do
            match Signal.eventOfText? e with
            | some n => showTraps m (· = n)
            | none => fail 1 (said "trap" (e ++ bytes ": invalid signal specification"))
      else
        match g.operands with
        | [one] => if (Signal.eventOfText? one).isSome then setTraps none [one] else usage "trap"
        | first :: events =>
          if first = ['-'] then setTraps none events
          else if (natural? first).isSome then setTraps none (first :: events)
          else setTraps (some first) events
        | [] => return

/-! ## Signals -/

/-- Sends a signal to a process by its number. -/
def sendTo (signal : Nat) (process : Nat) : Act Bool := do
  let m ← get
  let own := m.process + m.level
  if process = m.process ∨ process = 0 then
    if signal ≠ 0 then set { m with signals := m.signals ++ [signal] }
    return true
  else if process = own then
    match m.traps.find? (·.event = signal) with
    | some { script := [], .. } => return true
    | _ =>
      if Signal.ends signal then throw (.killed signal)
      return true
  else
    match m.jobs.find? (·.process = process) with
    | some { lasting := true, .. } =>
      if signal ≠ 0 then
        let ended (j : Job) : Job :=
          if j.process = process then { j with status := signalStatus signal, lasting := false } else j
        set { m with jobs := m.jobs.map ended }
      return true
    | _ => return false

/-- The process that a text means: a number, or a percent sign and the place in the list of those in
the background. -/
def processOf? (m : Machine) (t : Bytes) : Option (Option Nat) :=
  match t with
  | '%' :: cs =>
    match natural? cs, cs with
    | some n, _ => some ((m.jobs.reverse[n - 1]?).map (·.process))
    | none, [] | none, ['%'] | none, ['+'] => some (m.jobs.head?.map (·.process))
    | none, _ => some ((m.jobs.find? fun j => cs.isPrefixOf j.text).map (·.process))
  | '-' :: cs => (natural? cs).map some
  | cs => (natural? cs).map some

/-- Sends a signal to processes. -/
def sendAll (signal : Nat) (processes : List Bytes) : Act Unit := do
  setStatus 0
  for t in processes do
    match processOf? (← get) t with
    | none => fail 1 (said "kill" (t ++ bytes ": arguments must be process or job IDs"))
    | some none => fail 1 (said "kill" (t ++ bytes ": no such job"))
    | some (some p) =>
      unless ← sendTo signal p do fail 1 (said "kill" (bytes "(" ++ t ++ bytes ") - No such process"))

/-- Shows names or numbers of signals. -/
def listSignals (args : List Bytes) : Act Unit := do
  setStatus 0
  if args = [] then put Signal.listing
  for t in args do
    let refuse : Act Unit := fail 1 (said "kill" (t ++ bytes ": invalid signal specification"))
    match natural? t with
    | some n =>
      let n := if 128 < n then n - 128 else n
      match if n = 0 then some "EXIT" else Signal.name? n with
      | some name => put (bytes name ++ ['\n'])
      | none => refuse
    | none =>
      match Signal.ofText? t with
      | some n => put (decimal n ++ ['\n'])
      | none => refuse

/-- Sends signals, or shows which there are. -/
def kill (args : List Bytes) : Act Unit := do
  let send (signal : Bytes) (processes : List Bytes) : Act Unit :=
    match Signal.ofText? signal with
    | some n => if processes = [] then usage "kill" else sendAll n processes
    | none => fail 1 (said "kill" (signal ++ bytes ": invalid signal specification"))
  match args with
  | [] => usage "kill"
  | ['-', 'l'] :: rest | ['-', 'L'] :: rest => listSignals rest
  | ['-', 's'] :: name :: rest | ['-', 'n'] :: name :: rest => send name rest
  | ['-', 's'] :: [] | ['-', 'n'] :: [] =>
    complain (said "kill" ((args.headD []) ++ bytes ": option requires an argument"))
    usage "kill"
  | ['-', '-'] :: rest => if rest = [] then usage "kill" else sendAll 15 rest
  | ('-' :: c :: cs) :: rest =>
    if rest = [] ∧ (Signal.ofText? (c :: cs)).isSome then usage "kill" else send (c :: cs) rest
  | rest => sendAll 15 rest

/-! ## Waiting -/

/-- Lets processes in the background show what they have written. -/
def showAllDelayed : Act Unit := modify fun m => m.showDelayed fun _ => true

/-- Waits for processes in the background. -/
def wait (args : List Bytes) : Act Unit :=
  withGiven "wait" "fn" "p" args fun g => do
    showAllDelayed
    let m ← get
    if g.has 'n' ∧ g.operands = [] then
      match m.jobs.getLast? with
      | some j => set { m with status := j.status, jobs := m.jobs.dropLast }
      | none => setStatus 127
    else if g.operands = [] then set { m with status := 0, jobs := [] }
    else
      for t in g.operands do
        match processOf? m t with
        | none =>
          fail 1 (said "wait" (bytes "\x60" ++ t ++ bytes "': not a pid or valid job spec"))
        | some none => fail 127 (said "wait" (t ++ bytes ": no such job"))
        | some (some p) =>
          match m.jobs.find? (·.process = p) with
          | some j =>
            setStatus j.status
            modify fun m => { m with jobs := m.jobs.map fun j =>
              if j.process = p then { j with lasting := false } else j }
          | none =>
            match m.dialect with
            | .full =>
              fail 127 (said "wait" (bytes "pid " ++ t ++ bytes " is not a child of this shell"))
            | .plain => setStatus 127

/-- Shows the processes in the background that are not over. -/
def jobs (args : List Bytes) : Act Unit :=
  withGiven "jobs" "lnprsx" "" args fun g => do
    let m ← get
    setStatus 0
    let all := m.jobs.reverse
    for (i, j) in (List.range all.length).zip all do
      if j.lasting then
        if g.has 'p' then put (decimal j.process ++ ['\n'])
        else
          let mark := if i + 1 = all.length then '+' else if i + 2 = all.length then '-' else ' '
          put (['['] ++ decimal (i + 1) ++ [']', mark] ++ bytes "  "
            ++ (if g.has 'l' then decimal j.process ++ [' '] else [])
            ++ bytes "Running                 " ++ j.text ++ bytes " &\n")

/-- A command that needs processes in the foreground and in the background. -/
def refuseJobs (name : String) (args : List Bytes) : Act Unit := do
  let m ← get
  if name = "disown" then
    match args.find? (fun a => a.head? ≠ some '-') with
    | some t => if (processOf? m t).any (·.isSome) then setStatus 0
                else fail 1 (said name (t ++ bytes ": no such job"))
    | none =>
      if m.jobs = [] then fail 1 (said name (bytes "current: no such job")) else setStatus 0
  else fail 1 (said name (bytes "no job control"))

/-! ## Limits -/

/-- Shows or sets what new files do not allow. -/
def umask (args : List Bytes) : Act Unit :=
  withGiven "umask" "pS" "" args fun g => do
    let m ← get
    setStatus 0
    match g.operands with
    | [] =>
      let mode := 0o777 - m.umask
      let text :=
        if g.has 'S' then
          bytes "u=" ++ Mode.letters (mode / 64 % 8) ++ bytes ",g=" ++ Mode.letters (mode / 8 % 8)
            ++ bytes ",o=" ++ Mode.letters (mode % 8)
        else padLeft '0' 4 (Nat.toDigits 8 m.umask)
      put ((if g.has 'p' then bytes "umask " ++ (if g.has 'S' then bytes "-S " else []) else []) ++ text
        ++ ['\n'])
    | t :: _ =>
      if t.head?.any Char.isDigit then
        match Mode.ofDigits? t with
        | some n => if n ≤ 0o777 then set { m with umask := n, status := 0 }
                    else fail 1 (said "umask" (t ++ bytes ": octal number out of range"))
        | none => fail 1 (said "umask" (t ++ bytes ": octal number out of range"))
      else
        match Mode.change false (0o777 - m.umask) 0 t with
        | .ok mode => set { m with umask := 0o777 - mode % 0o1000, status := 0 }
        | .error c =>
          fail 1 (said "umask" (bytes "\x60" ++ [c] ++ bytes "': invalid symbolic mode operator"))

/-- What is limited, by letters. -/
def limits : List (Char × String) :=
  [('c', "0"), ('n', "1048576"), ('s', "8192"), ('p', "8"), ('l', "8192"), ('q', "819200"),
    ('e', "0"), ('r', "0")]

/-- Shows or sets limits. -/
def ulimit (args : List Bytes) : Act Unit :=
  withGiven "ulimit" "SHabcdefiklmnpqrstuvxPRT" "" args fun g => do
    setStatus 0
    match g.operands with
    | [] =>
      let letter := ((g.options.map (·.1)).filter fun c => c ≠ 'S' ∧ c ≠ 'H').headD 'f'
      put (bytes ((limits.lookup letter).getD "unlimited") ++ ['\n'])
    | t :: _ =>
      if (natural? t).isNone ∧ t ≠ bytes "unlimited" ∧ t ≠ bytes "hard" ∧ t ≠ bytes "soft" then
        fail 1 (said "ulimit" (t ++ bytes ": invalid number"))

/-- Shows how much time has been used. -/
def times : Act Unit := do
  put (bytes "0m0.000s 0m0.000s\n0m0.000s 0m0.000s\n")
  setStatus 0

end JobLauncher.Shell.Builtin
