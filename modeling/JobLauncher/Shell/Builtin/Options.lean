import JobLauncher.Shell.Builtin.Variables

/-!
# Options of the shell

The commands `set` and `shopt`, which turn options on and off and show them.
-/

namespace JobLauncher.Shell.Builtin

/-- The options of the shell, in the order in which they are shown. -/
def optionNames : List String :=
  ["allexport", "braceexpand", "emacs", "errexit", "errtrace", "functrace", "hashall",
    "histexpand", "history", "ignoreeof", "interactive-comments", "keyword", "monitor",
    "noclobber", "noexec", "noglob", "nolog", "notify", "nounset", "onecmd", "physical",
    "pipefail", "posix", "privileged", "verbose", "vi", "xtrace"]

/-- The options of the plain shell. -/
def plainOptions : List String :=
  ["allexport", "emacs", "errexit", "ignoreeof", "monitor", "noclobber", "noexec", "noglob",
    "nolog", "notify", "nounset", "privileged", "verbose", "vi", "xtrace"]

/-- Further options, in the order in which they are shown. -/
def extraNames : List String :=
  ["autocd", "assoc_expand_once", "cdable_vars", "cdspell", "checkhash", "checkjobs",
    "checkwinsize", "cmdhist", "compat31", "compat32", "compat40", "compat41", "compat42",
    "compat43", "compat44", "complete_fullquote", "direxpand", "dirspell", "dotglob", "execfail",
    "expand_aliases", "extdebug", "extglob", "extquote", "failglob", "force_fignore",
    "globasciiranges", "globskipdots", "globstar", "gnu_errfmt", "histappend", "histreedit",
    "histverify", "hostcomplete", "huponexit", "inherit_errexit", "interactive_comments",
    "lastpipe", "lithist", "localvar_inherit", "localvar_unset", "login_shell", "mailwarn",
    "no_empty_cmd_completion", "nocaseglob", "nocasematch", "noexpand_translation", "nullglob",
    "patsub_replacement", "progcomp", "progcomp_alias", "promptvars", "restricted_shell",
    "shift_verbose", "sourcepath", "varredir_close", "xpg_echo"]

/-- The line that shows whether an option is on. -/
def optionLine (name : String) (on : Bool) : Bytes :=
  padRight ' ' 15 (bytes name) ++ ['\t'] ++ bytes (if on then "on" else "off") ++ ['\n']

/-- Shows the options, perhaps as commands that set them. -/
def showOptions (asCommands : Bool) : Act Unit := do
  let m ← get
  for name in optionNames do
    put (if asCommands then bytes (if m.has name then "set -o " else "set +o ") ++ bytes name ++ ['\n']
      else optionLine name (m.has name))

/-- Turns an option on or off by its letter; false if there is none. -/
def switchLetter (c : Char) (on : Bool) : Act Bool := do
  match Machine.optionLetters.find? (·.2 = c) with
  | some (name, _) =>
    modify (·.setOption name on)
    return true
  | none => return false

/-- Says that an option is none. -/
def refuseOption (shown : Bytes) : Act Unit := do
  complain (said "set" (shown ++ bytes ": invalid option"))
  usage "set"

/-- Sets options and arguments; `plain` is the number of letters of a cluster that are left. -/
def setOptions : Nat → List Bytes → Act Unit
  | 0, _ => return
  | _, [] => return
  | fuel + 1, arg :: rest => do
    let arguments (args : List Bytes) : Act Unit := modify fun m => { m with args }
    match arg with
    | ['-', '-'] => arguments rest
    | ['-'] =>
      modify fun m => (m.setOption "xtrace" false).setOption "verbose" false
      if rest ≠ [] then arguments rest
    | ['-', 'o'] | ['+', 'o'] =>
      let on : Bool := arg.head? = some '-'
      match rest with
      | [] => showOptions (!on)
      | name :: rest =>
        let name' := textOfBytes name
        if optionNames.contains name' ∧ ((← get).dialect = .full ∨ plainOptions.contains name') then
          modify (·.setOption (textOfBytes name) on)
          setOptions fuel rest
        else
          match (← get).dialect with
          | .full => fail 2 (said "set" (name ++ bytes ": invalid option name"))
          | .plain =>
            complain (said "set" (bytes "Illegal option " ++ arg ++ [' '] ++ name))
            throw .fatal
    | sign :: c :: cs =>
      if sign = '-' ∨ sign = '+' then
        let on : Bool := sign = '-'
        let letters := (c :: cs).filter (· ≠ 'o')
        match letters.find? fun c => !(Machine.optionLetters.any (·.2 = c)) with
        | some bad => refuseOption [sign, bad]
        | none =>
          for l in letters do
            let _ ← switchLetter l on
          if (c :: cs).contains 'o' then setOptions fuel ([sign, 'o'] :: rest)
          else setOptions fuel rest
      else arguments (arg :: rest)
    | _ => arguments (arg :: rest)

/-- Sets options and arguments, or shows all variables. -/
def setCommand (args : List Bytes) : Act Unit := do
  setStatus 0
  if args = [] then showVariables else setOptions (args.length + 1) args

/-- Turns further options on or off, or shows them. -/
def shopt (args : List Bytes) : Act Unit :=
  withGiven "shopt" "pqsuo" "" args fun g => do
    let names := g.operands.map textOfBytes
    let known := if g.has 'o' then optionNames else extraNames
    let isOn (m : Machine) (name : String) : Bool :=
      if g.has 'o' then m.has name else m.hasExtra name
    let shown (m : Machine) (name : String) : Bytes :=
      if g.has 'p' then
        if g.has 'o' then bytes (if isOn m name then "set -o " else "set +o ") ++ bytes name ++ ['\n']
        else bytes (if isOn m name then "shopt -s " else "shopt -u ") ++ bytes name ++ ['\n']
      else optionLine name (isOn m name)
    let m ← get
    setStatus 0
    if g.has 's' ∧ g.has 'u' then
      fail 1 (said "shopt" (bytes "cannot set and unset shell options simultaneously"))
    else if g.has 's' ∨ g.has 'u' then
      let on := g.has 's'
      if names = [] then
        for name in known do if isOn m name = on ∧ !g.has 'q' then put (shown m name)
      else
        for name in names do
          if !known.contains name then
            fail 1 (said "shopt" (bytes name ++ bytes ": invalid shell option name"))
          else if g.has 'o' then modify (·.setOption name on)
          else modify fun m => { m with extras := (m.extras.filter (· ≠ name)) ++ if on then [name] else [] }
    else if names = [] then
      for name in known do if !g.has 'q' then put (shown m name)
    else
      for name in names do
        if !known.contains name then
          fail 1 (said "shopt" (bytes name ++ bytes ": invalid shell option name"))
        else
          if !isOn m name then setStatus 1
          if !g.has 'q' then put (shown m name)

end JobLauncher.Shell.Builtin
