import JobLauncher.Shell.Store

/-!
# The variables of a shell that starts

A shell takes over what is exported to it and sets some variables of its own.
-/

namespace JobLauncher.Shell

/-- Where programs are looked for unless something else is said. -/
def usualPath : Bytes := bytes "/usr/local/sbin:/usr/local/bin:/usr/sbin:/usr/bin:/sbin:/bin"

namespace Environment

/-- The parts of the version of the shell. -/
def version : List Bytes := ["5", "2", "37", "1", "release", "x86_64-pc-linux-gnu"].map bytes

/-- The version in one text. -/
def versionText : Bytes :=
  List.intercalate ['.'] (version.take 3) ++ ['('] ++ version.getD 3 [] ++ [')', '-']
    ++ version.getD 4 []

/-- How many shells are around a new one, itself included, if `outer` were around the old one. -/
def deeper (outer : Bytes) : Bytes := match natural? outer with
  | some n => decimal (n + 1)
  | none => ['1']

/-- What a shell sets by itself, unless it finds it in its environment. -/
def own (d : Dialect) (process : Nat) : List (Bytes × Variable) :=
  let plain (name value : String) : Bytes × Variable := (bytes name, { value := .text (bytes value) })
  let number (name : String) (n : Nat) : Bytes × Variable :=
    (bytes name, { value := .text (decimal n), readOnly := true, number := true })
  let common := [plain "IFS" " \t\n", plain "PS4" "+ "]
  match d with
  | .plain => common ++ [plain "OPTIND" "1", plain "PS1" "# ", plain "PS2" "> ",
      (bytes "PPID", { value := .text (decimal (process - 1)) }),
      (bytes "PATH", { value := .text usualPath })]
  | .full => common ++ [plain "BASH" "/usr/bin/bash", plain "HOSTNAME" "localhost",
      plain "HOSTTYPE" "x86_64", plain "MACHTYPE" "x86_64-pc-linux-gnu", plain "OPTERR" "1",
      plain "OSTYPE" "linux-gnu", plain "SHELL" "/bin/bash", plain "TERM" "dumb",
      (bytes "OPTIND", { value := .text ['1'], number := true }),
      (bytes "PATH", { value := .text usualPath }),
      (bytes "GROUPS", { value := .list (Items.ofTexts [['0']]) }),
      (bytes "BASH_VERSION", { value := .text versionText }),
      (bytes "BASH_VERSINFO", { value := .list (Items.ofTexts version), readOnly := true }),
      (bytes "BASH_ALIASES", { value := .table [] }), (bytes "BASH_CMDS", { value := .table [] }),
      number "UID" 0, number "EUID" 0, number "PPID" (process - 1)]

/-- The variables of a shell that starts in a directory with an environment. -/
def initial (d : Dialect) (process : Nat) (directory : Bytes) (given : List (Bytes × Bytes)) :
    List (Bytes × Variable) :=
  let taken := given.map fun e => (e.1, ({ value := .text e.2, exported := true } : Variable))
  let place : List (Bytes × Variable) := [
    (bytes "PWD", { value := .text directory, exported := true })]
  let nesting : List (Bytes × Variable) := match d with
    | .plain => []
    | .full => [
      (bytes "SHLVL", { value := .text (deeper ((given.lookup (bytes "SHLVL")).getD []))
                        exported := true }),
      (bytes "OLDPWD", { value := .none, exported := true })]
  let first := nesting ++ place
  let taken := taken.filter fun v => (first.lookup v.1).isNone
  -- how fields are parted is never taken over
  let taken := taken.filter fun v => v.1 ≠ bytes "IFS"
  first ++ taken ++ (own d process).filter fun v => (taken.lookup v.1).isNone

end Environment

end JobLauncher.Shell
