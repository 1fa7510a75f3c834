import JobLauncher.Shell.Builtin.Process
import JobLauncher.Shell.Condition
import JobLauncher.Shell.Programs
import JobLauncher.Shell.Tool.Basic

/-!
# Facts

Tools that say who runs them and on what, where programs are, and whether something holds; and those
that only write their arguments.
-/

namespace JobLauncher.Shell.Tool.Facts

/-- Writes a line. -/
def line (name : String) (t : Bytes) : Act Unit := do
  setStatus 0
  output name (t ++ ['\n'])

/-- Carries a tool out that takes no operands. -/
def withoutOperands (name : String) (o : Options) (args : List Bytes) (run : Given → Act Unit) :
    Act Unit :=
  withGiven name o 1 args fun g =>
    match g.operands with
    | extra :: _ => misuse 1 name (bytes "extra operand " ++ quoted extra)
    | [] => run g

/-! ## Who and where -/

def whoami : Program := fun _ args => withoutOperands "whoami" {} args fun _ => line "whoami" (bytes "root")

/-- Shows numbers and names of users and groups. -/
def id : Program := fun _ args =>
  let options : Options :=
    { letters := "aGgnruzZ"
      long := [("user", 'u'), ("group", 'g'), ("groups", 'G'), ("name", 'n'), ("real", 'r')] }
  withGiven "id" options 1 args fun g =>
    match g.operands.find? fun t => t ≠ bytes "root" ∧ t ≠ ['0'] with
    | some t => refuse 1 "id" (quoted t ++ bytes ": no such user")
    | none =>
      if g.has 'u' || g.has 'g' || g.has 'G' then
        line "id" (if g.has 'n' then bytes "root" else ['0'])
      else if g.has 'n' || g.has 'r' then
        refuse 1 "id" (bytes "printing only names or real IDs requires -u, -g, or -G")
      else line "id" (bytes "uid=0(root) gid=0(root) groups=0(root)")

def groups : Program := fun _ args =>
  withGiven "groups" {} 1 args fun g =>
    match g.operands.find? (· ≠ bytes "root") with
    | some t => refuse 1 "groups" (quoted t ++ bytes ": no such user")
    | none => line "groups" (if g.operands = [] then bytes "root" else bytes "root : root")

/-- Shows what the machine is. -/
def uname : Program := fun _ args =>
  let options : Options :=
    { letters := "asnrvmpio"
      long := [("all", 'a'), ("kernel-name", 's'), ("nodename", 'n'), ("kernel-release", 'r'),
        ("kernel-version", 'v'), ("machine", 'm'), ("operating-system", 'o')] }
  withoutOperands "uname" options args fun g =>
    let facts : List (Char × String) :=
      [('s', "Linux"), ('n', "localhost"), ('r', "6.1.0"), ('v', "#1 SMP"), ('m', "x86_64"),
        ('o', "GNU/Linux")]
    let chosen := facts.filter fun f =>
      g.has 'a' || g.has f.1 || (g.options = [] && f.1 = 's')
    line "uname" (spaced (chosen.map fun f => bytes f.2))

def arch : Program := fun _ args => withoutOperands "arch" {} args fun _ => line "arch" (bytes "x86_64")

def nproc : Program := fun _ args =>
  withoutOperands "nproc" { letters := "a", valued := "i", long := [("all", 'a'), ("ignore", 'i')] } args
    fun _ => line "nproc" ['1']

def hostname : Program := fun _ _ => line "hostname" (bytes "localhost")

def logname : Program := fun _ _ => refuse 1 "logname" (bytes "no login name")

def tty : Program := fun _ args =>
  withoutOperands "tty" { letters := "s", long := [("silent", 's'), ("quiet", 's')] } args fun g => do
    if !g.has 's' then put (bytes "not a tty\n")
    setStatus 1

/-- Shows the directory at hand. -/
def pwd : Program := fun _ args =>
  withGiven "pwd" { letters := "LP", long := [("logical", 'L'), ("physical", 'P')] } 1 args fun g => do
    if g.operands ≠ [] then say "pwd" (bytes "ignoring non-option arguments")
    line "pwd" (← get).directoryText

/-- Shows where programs are. -/
def which : Program := fun _ args => do
  let m ← get
  let options := (args.takeWhile fun a => a.head? = some '-' ∧ 1 < a.length).flatMap List.tail
  let names := args.dropWhile fun a => a.head? = some '-' ∧ 1 < a.length
  match options.find? fun c => c ≠ 'a' ∧ c ≠ 's' with
  | some c =>
    warn (bytes "Illegal option -" ++ [c] ++ ['\n'])
    put (bytes "Usage: /usr/bin/which [-as] args\n")
    setStatus 2
  | none =>
    let found := names.map fun name =>
      let all := m.programs name
      if options.contains 'a' then all else all.take 1
    if !options.contains 's' then put (unlines found.flatten)
    setStatus (if names = [] ∨ found.any (· = []) then 1 else 0)

/-! ## Commands that the shell has too -/

def echo : Program := fun _ args => do
  setStatus 0
  output "echo" (Printf.echo false true args)

/-- Writes its arguments in a format. -/
def printf : Program := fun _ args => do
  let args := if args.head? = some ['-', '-'] then args.tail else args
  match args with
  | [] => misuse 1 "printf" (bytes "missing operand")
  | f :: rest =>
    let s := Printf.format .tool f rest
    setStatus 0
    output "printf" s.output
    for t in s.faults.reverse do say "printf" (t.message .tool)
    if !s.used && rest ≠ [] && !s.failed then
      say "printf" (bytes "warning: ignoring excess arguments, starting with "
        ++ quoted (rest.headD []))
    if s.failed then setStatus 1

/-- What is wrong with a condition, in the words of a tool. -/
def conditionFault : Condition.Fault → Bytes
  | .notNumber arg => bytes "invalid integer " ++ quoted arg
  | .unaryExpected arg => quoted arg ++ bytes ": unary operator expected"
  | .binaryExpected _ arg => quoted arg ++ bytes ": binary operator expected"
  | .unexpected arg => bytes "extra argument " ++ quoted arg
  | .argumentExpected => bytes "missing argument"
  | .closeExpected none => bytes "')' expected"
  | .closeExpected (some arg) => bytes "')' expected, found " ++ quoted arg
  | .tooMany => bytes "extra argument"
  | .unclosed => bytes "missing ']'"

/-- Asks for a condition. -/
def test (bracketed : Bool) : Program := fun _ args => do
  let name := if bracketed then "[" else "test"
  let refuseIt (f : Condition.Fault) : Act Unit := refuse 2 name (conditionFault f)
  if bracketed ∧ args.getLast? ≠ some [']'] then refuseIt .unclosed
  else
    match Condition.holds (← get) (if bracketed then args.dropLast else args) with
    | .ok b => setTruth b
    | .error f => refuseIt f

/-- Sends signals. -/
def kill : Program := fun _ args => Builtin.kill args

/-- The tools of this module by their names. -/
def all : List (String × Program) := [
  ("[", test true), ("arch", arch), ("echo", echo), ("false", fun _ _ => setStatus 1),
  ("groups", groups), ("hostname", hostname), ("id", id), ("kill", kill), ("logname", logname),
  ("nproc", nproc), ("printf", printf), ("pwd", pwd), ("test", test false),
  ("true", fun _ _ => setStatus 0), ("tty", tty), ("uname", uname), ("which", which),
  ("whoami", whoami)]

end JobLauncher.Shell.Tool.Facts
