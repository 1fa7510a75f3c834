import JobLauncher.Shell.Store

/-!
# Tasks

Words contain scripts, and scripts are made of words. What is below scripts reaches them by a
`Perform`, which carries out a `Task`: a script, a text that is one, or a command.
-/

namespace JobLauncher.Shell

/-- What a shell is asked to do. -/
inductive Task where
  /-- A script that is part of the one that runs. -/
  | script (s : Script)
  /-- A text that is read as a script and run, line by line. `label` is what an error in it begins
  with; `relaid` says that its lines are numbered as if it had been laid out. -/
  | text (label t : Bytes) (relaid : Bool := false)
  /-- A command by its words. -/
  | command (words : List Bytes)
  /-- A program by its words, whatever else has its name. -/
  | program (words : List Bytes)

/-- Carries out tasks. -/
abbrev Perform := Task → Act Unit

/-- The event that the end of a shell is. -/
def endEvent : Nat := 0

/-- The status of a shell whose process a signal ended. -/
def signalStatus (n : Nat) : Nat := 128 + n

/-- Runs what a shell is to do at its end. Its status stays. -/
def runEndTrap (go : Perform) : Act Unit := do
  let m ← get
  match m.traps.find? (·.event = endEvent) with
  | none => return
  | some t =>
    set { m with traps := m.traps.filter (·.event ≠ endEvent), ending := true }
    if t.script ≠ [] then
      match ← (go (.text (m.name ++ bytes ": exit trap") t.script)).outcome with
      | .error .exit => return
      | .error (.killed n) => throw (.killed n)
      | _ => setStatus m.status

/-- The signal that leaves a process no time for anything. -/
def killSignal : Nat := 9

/-- Runs all that a shell does, to its end; `fatal` is its status if it cannot go on. -/
def wholeShell (go : Perform) (fatal : Nat) (a : Act Unit) : Act Unit := do
  match ← a.outcome with
  | .error (.killed n) =>
    unless n = killSignal do runEndTrap go
    throw (.killed n)
  | .error .fatal =>
    setStatus fatal
    runEndTrap go
  | _ => runEndTrap go

/-- Runs an act in a shell of its own; what it does to variables and the like is lost, its status is
the status of the shell. Gives the signal if one ended it. -/
def inSubshell (go : Perform) (a : Act Unit) (fatal : Nat := 1) : Act (Option Nat) := do
  let outer ← get
  let (r, inner) := (wholeShell go fatal a).runFrom outer.fork
  let signal := match r with
    | .error (.killed n) => some n
    | _ => none
  set { outer.join inner with status := (signal.map signalStatus).getD inner.status }
  match signal with
  | some n => if inner.isOver then throw (.killed n)
  | none => pure ()
  return signal

/-- The output of an act in a shell of its own. -/
def capture (go : Perform) (a : Act Unit) : Act Bytes := do
  let loops := (← get).loops
  let (n, m) := (← get).openChannel (.sink [] none)
  set m
  let _ ← inSubshell go do
    modify fun m => { (m.connect 1 n).setOption "errexit" false with loops }
    a
  let m := (← get).showDelayed (· = n)
  set (m.closeChannel n)
  return m.written n

end JobLauncher.Shell
