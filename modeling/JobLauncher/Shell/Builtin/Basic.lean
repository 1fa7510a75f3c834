import JobLauncher.Shell.Machine

/-!
# Commands of the shell

The names of the commands that the shell carries out itself, how they are used, and how they read
their options.
-/

namespace JobLauncher.Shell.Builtin

/-- Commands of the shell and what their arguments are. -/
def usages : List (String × String) := [
  (".", "filename [arguments]"),
  (":", ""),
  ("[", "arg..."),
  ("alias", "[-p] [name[=value] ... ]"),
  ("bg", "[job_spec ...]"),
  ("bind", "[-lpsvPSVX] [-m keymap] [-f filename] [-q name] [-u name] [-r keyseq] "
    ++ "[-x keyseq:shell-command] [keyseq:readline-function or readline-command]"),
  ("break", "[n]"),
  ("builtin", "[shell-builtin [arg ...]]"),
  ("caller", "[expr]"),
  ("cd", "[-L|[-P [-e]] [-@]] [dir]"),
  ("command", "[-pVv] command [arg ...]"),
  ("compgen", "[-abcdefgjksuv] [-o option] [-A action] [-G globpat] [-W wordlist] "
    ++ "[-F function] [-C command] [-X filterpat] [-P prefix] [-S suffix] [word]"),
  ("complete", "[-abcdefgjksuv] [-pr] [-DEI] [-o option] [-A action] [-G globpat] "
    ++ "[-W wordlist] [-F function] [-C command] [-X filterpat] [-P prefix] [-S suffix] [name ...]"),
  ("compopt", "[-o|+o option] [-DEI] [name ...]"),
  ("continue", "[n]"),
  ("declare", "[-aAfFgiIlnrtux] [name[=value] ...] or declare -p [-aAfFilnrtux] [name ...]"),
  ("dirs", "[-clpv] [+N] [-N]"),
  ("disown", "[-h] [-ar] [jobspec ... | pid ...]"),
  ("echo", "[-neE] [arg ...]"),
  ("enable", "[-a] [-dnps] [-f filename] [name ...]"),
  ("eval", "[arg ...]"),
  ("exec", "[-cl] [-a name] [command [argument ...]] [redirection ...]"),
  ("exit", "[n]"),
  ("export", "[-fn] [name[=value] ...] or export -p"),
  ("false", ""),
  ("fc", "[-e ename] [-lnr] [first] [last] or fc -s [pat=rep] [command]"),
  ("fg", "[job_spec]"),
  ("getopts", "optstring name [arg ...]"),
  ("hash", "[-lr] [-p pathname] [-dt] [name ...]"),
  ("help", "[-dms] [pattern ...]"),
  ("history", "[-c] [-d offset] [n] or history -anrw [filename] or history -ps arg [arg...]"),
  ("jobs", "[-lnprs] [jobspec ...] or jobs -x command [args]"),
  ("kill", "[-s sigspec | -n signum | -sigspec] pid | jobspec ... or kill -l [sigspec]"),
  ("let", "arg [arg ...]"),
  ("local", "[option] name[=value] ..."),
  ("logout", "[n]"),
  ("mapfile", "[-d delim] [-n count] [-O origin] [-s count] [-t] [-u fd] [-C callback] "
    ++ "[-c quantum] [array]"),
  ("popd", "[-n] [+N | -N]"),
  ("printf", "[-v var] format [arguments]"),
  ("pushd", "[-n] [+N | -N | dir]"),
  ("pwd", "[-LP]"),
  ("read", "[-ers] [-a array] [-d delim] [-i text] [-n nchars] [-N nchars] [-p prompt] "
    ++ "[-t timeout] [-u fd] [name ...]"),
  ("readarray", "[-d delim] [-n count] [-O origin] [-s count] [-t] [-u fd] [-C callback] "
    ++ "[-c quantum] [array]"),
  ("readonly", "[-aAf] [name[=value] ...] or readonly -p"),
  ("return", "[n]"),
  ("set", "[-abefhkmnptuvxBCEHPT] [-o option-name] [--] [-] [arg ...]"),
  ("shift", "[n]"),
  ("shopt", "[-pqsu] [-o] [optname ...]"),
  ("source", "filename [arguments]"),
  ("suspend", "[-f]"),
  ("test", "[expr]"),
  ("times", ""),
  ("trap", "[-lp] [[arg] signal_spec ...]"),
  ("true", ""),
  ("type", "[-afptP] name [name ...]"),
  ("typeset", "[-aAfFgiIlnrtux] name[=value] ... or typeset -p [-aAfFilnrtux] [name ...]"),
  ("ulimit", "[-SHabcdefiklmnpqrstuvxPRT] [limit]"),
  ("umask", "[-p] [-S] [mode]"),
  ("unalias", "[-a] name [name ...]"),
  ("unset", "[-f] [-v] [-n] [name ...]"),
  ("wait", "[-fn] [-p var] [id ...]")]

/-- Commands of the plain shell. -/
def plainNames : List String :=
  [".", ":", "[", "alias", "bg", "break", "cd", "chdir", "command", "continue", "echo", "eval",
    "exec", "exit", "export", "false", "fg", "getopts", "hash", "jobs", "kill", "local", "printf",
    "pwd", "read", "readonly", "return", "set", "shift", "test", "times", "trap", "true", "type",
    "ulimit", "umask", "unalias", "unset", "wait"]

/-- Whether a name is that of a command of the shell. -/
def has (d : Dialect) (name : Bytes) : Bool :=
  let name := textOfBytes name
  match d with
  | .full => (usages.lookup name).isSome
  | .plain => plainNames.contains name

/-- Words with a meaning of their own. -/
def keywords : List String :=
  ["if", "then", "else", "elif", "fi", "case", "esac", "for", "select", "while", "until", "do",
    "done", "in", "function", "time", "\x7b", "\x7d", "!", "[[", "]]", "coproc"]

/-- How errors name a command: `name: text`. -/
def said (name : String) (text : Bytes) : Bytes := bytes name ++ bytes ": " ++ text

/-- Says how a command is used. -/
def usage (name : String) : Act Unit := do
  let args := (usages.lookup name).getD ""
  warn (said name (bytes "usage: " ++ bytes name
    ++ (if args = "" then [] else ' ' :: bytes args) ++ ['\n']))
  setStatus 2

/-- What errors say of a text that is no name. -/
def notName (t : Bytes) : Bytes := bytes "\x60" ++ t ++ bytes "': not a valid identifier"

/-- Options and operands. -/
structure Given where
  /-- Letters, each with the text that goes with it. -/
  options : List (Char × Bytes) := []
  operands : List Bytes := []

namespace Given

def has (g : Given) (c : Char) : Bool := (g.options.lookup c).isSome

/-- The text that goes with the last option of a letter. -/
def value? (g : Given) (c : Char) : Option Bytes := g.options.reverse.lookup c

end Given

/-- Why options are refused. -/
inductive BadOption where
  | unknown (shown : Bytes)
  | valueMissing (c : Char)

/-- Reads the options that come first; `letters` are those without a text, `valued` those with
one. -/
def readOptions (letters valued : String) : Nat → List (Char × Bytes) → List Bytes →
    Except BadOption Given
  | 0, found, args => .ok ⟨found.reverse, args⟩
  | fuel + 1, found, args =>
    match args with
    | ['-', '-'] :: rest => .ok ⟨found.reverse, rest⟩
    | ('-' :: '-' :: _) :: _ => .error (.unknown (bytes "--"))
    | ('-' :: c :: cs) :: rest => cluster fuel found rest (c :: cs)
    | args => .ok ⟨found.reverse, args⟩
where
  /-- Reads the letters of one argument. -/
  cluster (fuel : Nat) (found : List (Char × Bytes)) (rest : List Bytes) :
      Bytes → Except BadOption Given
    | [] => readOptions letters valued fuel found rest
    | c :: cs =>
      if letters.toList.contains c then cluster fuel ((c, []) :: found) rest cs
      else if valued.toList.contains c then
        match cs, rest with
        | [], [] => .error (.valueMissing c)
        | [], v :: rest => readOptions letters valued fuel ((c, v) :: found) rest
        | cs, rest => readOptions letters valued fuel ((c, cs) :: found) rest
      else .error (.unknown ['-', c])

/-- The options and operands of a command; nothing if they are refused, which is said. -/
def given? (name letters valued : String) (args : List Bytes) : Act (Option Given) := do
  match readOptions letters valued (args.length + 1) [] args with
  | .ok g => return some g
  | .error (.unknown shown) =>
    match (← get).dialect with
    | .full =>
      complain (said name (shown ++ bytes ": invalid option"))
      usage name
    | .plain => fail 2 (said name (bytes "Illegal option " ++ shown))
    return none
  | .error (.valueMissing c) =>
    complain (said name (['-', c] ++ bytes ": option requires an argument"))
    usage name
    return none

/-- Carries a command out with its options and operands, unless they are refused. -/
def withGiven (name letters valued : String) (args : List Bytes) (run : Given → Act Unit) :
    Act Unit := do
  match ← given? name letters valued args with
  | some g => run g
  | none => return

/-- A whole number, with a sign or without. -/
def integer? (t : Bytes) : Option Int :=
  let t := ((skipSpace t).reverse.dropWhile isSpaceByte).reverse
  let n? : Option Int := match t with
    | '-' :: cs => (natural? cs).map fun n => -(n : Int)
    | '+' :: cs => (natural? cs).map fun n => (n : Int)
    | cs => (natural? cs).map fun n => (n : Int)
  n?.bind fun n => if n.natAbs < Nat.pow 2 63 then some n else none

/-- The status that a number stands for. -/
def statusOf (n : Int) : Nat := (n % 256).toNat

end JobLauncher.Shell.Builtin
