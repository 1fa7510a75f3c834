import JobLauncher.Shell.Builtin.Basic
import JobLauncher.Shell.Store

/-!
# Commands on directories

Going to another directory, and the stack of directories to which one can come back.
-/

namespace JobLauncher.Shell.Builtin

/-- Goes to a place. -/
def enter (p : Path) : Act Unit := modify fun m =>
  let old := m.directoryText
  let m := { m with directory := p }
  let set (m : Machine) (name : String) (t : Bytes) : Machine :=
    m.change (bytes name) fun v => { v with value := .text t, exported := true }
  set (set m "OLDPWD" old) "PWD" (Files.text p)

/-- The place that a path leads to, if it is a directory; the steps in it are taken one by one. -/
def directoryAt (m : Machine) (physical : Bool) (path : Bytes) : Except FileFault Path :=
  if path = [] then .ok m.directory
  else
    match m.files.find true m.directory path with
    | .error e => .error e
    | .ok (p, { node := .directory, .. }) =>
      .ok (if physical then p else Files.normal m.directory path)
    | .ok _ => .error .noDirectory

/-- Goes to a directory by its path; `name` is the command that asks. -/
def goTo (name : String) (physical : Bool) (path : Bytes) : Act Bool := do
  let m ← get
  match directoryAt m physical path with
  | .ok p =>
    enter p
    setStatus 0
    return true
  | .error e =>
    match m.dialect with
    | .full => fail 1 (said name (path ++ bytes ": " ++ bytes e.message))
    | .plain => fail 2 (said name (bytes "can't cd to " ++ path))
    return false

/-- The path under one of the directories in a list, if it is there. -/
def searched? (m : Machine) (path : Bytes) : Option Bytes :=
  if path.head? = some '/' ∨ path.head? = some '.' then none
  else
    let found := (splitAt ':' ((m.textNamed? "CDPATH").getD [])).find? fun d =>
      d ≠ [] && m.files.isDirectory m.directory (d ++ ['/'] ++ path)
    found.map fun d => d ++ ['/'] ++ path

/-- Changes the directory. -/
def cd (args : List Bytes) : Act Unit :=
  withGiven "cd" "LPe@" "" args fun g => do
    let m ← get
    let physical := g.has 'P' || m.has "physical"
    match g.operands with
    | [] =>
      match m.textNamed? "HOME" with
      | none => fail 1 (said "cd" (bytes "HOME not set"))
      | some home => let _ ← goTo "cd" physical home
    | [['-']] =>
      match m.textNamed? "OLDPWD" with
      | none =>
        match m.dialect with
        | .full => fail 1 (said "cd" (bytes "OLDPWD not set"))
        | .plain => put (m.directoryText ++ ['\n'])
      | some old => if ← goTo "cd" physical old then put ((← get).directoryText ++ ['\n'])
    | [path] =>
      match searched? m path with
      | some found => if ← goTo "cd" physical found then put ((← get).directoryText ++ ['\n'])
      | none => let _ ← goTo "cd" physical path
    | _ => fail 1 (said "cd" (bytes "too many arguments"))

/-- Shows the directory. -/
def pwd (args : List Bytes) : Act Unit :=
  withGiven "pwd" "LP" "" args fun g => do
    let m ← get
    let p := if g.has 'P' then (m.files.locate true [] m.directoryText).toOption.getD m.directory
      else m.directory
    put (Files.text p ++ ['\n'])
    setStatus 0

/-! ## The stack -/

/-- A place as the stack shows it. -/
def shownPath (m : Machine) (long : Bool) (p : Path) : Bytes :=
  let t := Files.text p
  match m.textNamed? "HOME" with
  | some home =>
    if !long ∧ home ≠ ['/'] ∧ (t = home ∨ (home ++ ['/']).isPrefixOf t) then
      '~' :: t.drop home.length
    else t
  | none => t

/-- The stack, with the directory at hand on top. -/
def wholeStack (m : Machine) : List Path := m.directory :: m.stack

/-- Shows the stack on one line. -/
def showStack : Act Unit := do
  let m ← get
  put (spaced ((wholeStack m).map (shownPath m false)) ++ ['\n'])

/-- The place in the stack that a number with a sign means, counted from the top or, with a minus
sign, from the bottom. -/
def stackIndex? (size : Nat) (t : Bytes) : Option (Option Nat) :=
  match t with
  | '+' :: cs => (natural? cs).map fun n => if n < size then some n else none
  | '-' :: cs => (natural? cs).map fun n => if n < size then some (size - 1 - n) else none
  | _ => none

/-- Shows or clears the stack. -/
def dirs (args : List Bytes) : Act Unit := do
  let m ← get
  let letters := args.flatMap fun a => if (natural? (a.drop 1)).isSome then [] else a.drop 1
  let has (c : Char) : Bool := letters.contains c
  setStatus 0
  if has 'c' then set { m with stack := [], status := 0 }
  else
    let all := wholeStack m
    match args.findSome? (stackIndex? all.length) with
    | some (some i) => put (shownPath m (has 'l') (all.getD i []) ++ ['\n'])
    | some none =>
      fail 1 (said "dirs" ((args.headD []) ++ bytes ": directory stack index out of range"))
    | none =>
      let texts := all.map (shownPath m (has 'l'))
      if has 'v' then
        put (((List.range texts.length).zip texts).flatMap fun (i, t) =>
          padLeft ' ' 2 (decimal i) ++ bytes "  " ++ t ++ ['\n'])
      else if has 'p' then put (unlines texts)
      else put (spaced texts ++ ['\n'])

/-- The arguments of a command on the stack without the option that keeps the directory; nothing if
they are refused. -/
def stackArguments? (name : String) (args : List Bytes) : Act (Option (Bool × List Bytes)) := do
  let stays := args.head? = some ['-', 'n']
  let args := if stays then args.drop 1 else args
  let args := if args.head? = some ['-', '-'] then args.drop 1 else args
  match args.head? with
  | some ('-' :: c :: cs) =>
    if (natural? (c :: cs)).isSome then return some (stays, args)
    else
      complain (said name (('-' :: c :: cs) ++ bytes ": invalid number"))
      usage name
      return none
  | _ => return some (stays, args)

/-- Goes to a directory and puts the one at hand on the stack. -/
def pushd (args : List Bytes) : Act Unit := do
  match ← stackArguments? "pushd" args with
  | none => return
  | some (stays, args) =>
    let m ← get
    let all := wholeStack m
    match args with
    | [] =>
      match m.stack with
      | [] => fail 1 (said "pushd" (bytes "no other directory"))
      | next :: rest =>
        if ← goTo "pushd" false (Files.text next) then
          modify fun after => { after with stack := m.directory :: rest }
          showStack
    | [t] =>
      match stackIndex? all.length t with
      | some none => fail 1 (said "pushd" (t ++ bytes ": directory stack index out of range"))
      | some (some i) =>
        let turned := all.drop i ++ all.take i
        if ← goTo "pushd" false (Files.text (turned.headD [])) then
          modify fun after => { after with stack := turned.tail }
          showStack
      | none =>
        if stays then
          set { m with stack := Files.normal m.directory t :: m.stack, status := 0 }
          showStack
        else if ← goTo "pushd" false t then
          modify fun after => { after with stack := m.directory :: m.stack }
          showStack
    | _ => fail 1 (said "pushd" (bytes "too many arguments"))

/-- Comes back to the directory on top of the stack, or takes another one off it. -/
def popd (args : List Bytes) : Act Unit := do
  match ← stackArguments? "popd" args with
  | none => return
  | some (stays, args) =>
    let m ← get
    let all := wholeStack m
    match m.stack, args with
    | [], _ => fail 1 (said "popd" (bytes "directory stack empty"))
    | next :: rest, [] =>
      if stays then
        set { m with stack := rest, status := 0 }
        showStack
      else if ← goTo "popd" false (Files.text next) then
        modify fun after => { after with stack := rest }
        showStack
    | next :: rest, t :: _ =>
      match stackIndex? all.length t with
      | some (some 0) =>
        if ← goTo "popd" false (Files.text next) then
          modify fun after => { after with stack := rest }
          showStack
      | some (some i) =>
        set { m with stack := m.stack.eraseIdx (i - 1), status := 0 }
        showStack
      | some none => fail 1 (said "popd" (t ++ bytes ": directory stack index out of range"))
      | none =>
        complain (said "popd" (t ++ bytes ": invalid argument"))
        usage "popd"

end JobLauncher.Shell.Builtin
