import JobLauncher.Shell.Programs
import JobLauncher.Shell.Builtin.Basic
import JobLauncher.Shell.Layout
import JobLauncher.Shell.Spelling
import JobLauncher.Shell.Store

/-!
# Commands on names

What the names of commands mean, where programs are, and names that stand for other text.
-/

namespace JobLauncher.Shell

namespace Machine

/-- Whether a command of the shell has a name and is not turned off. -/
def hasBuiltin (m : Machine) (name : Bytes) : Bool :=
  Builtin.has m.dialect name && !m.disabled.contains name

end Machine

namespace Builtin

/-- What the name of a command can mean. -/
inductive Meaning where
  | aliased (t : Bytes)
  | keyword
  | function (body : Script)
  | builtin
  | hashed (path : Bytes)
  | file (path : Bytes)

/-- All that the name of a command means, the first meaning first. -/
def meanings (m : Machine) (name : Bytes) : List Meaning :=
  let meant := if m.hasExtra "expand_aliases" then m.aliases.lookup name else none
  (meant.map Meaning.aliased).toList
    ++ (if keywords.contains (textOfBytes name) then [.keyword] else [])
    ++ ((m.functions.lookup name).map Meaning.function).toList
    ++ (if m.hasBuiltin name then [.builtin] else [])
    ++ ((m.hashed.lookup name).map fun h => Meaning.hashed h.1).toList
    ++ (m.programs name).map .file

/-- Says what a name means. -/
def described (name : Bytes) : Meaning → Bytes
  | .aliased t => name ++ bytes " is aliased to \x60" ++ t ++ bytes "'\n"
  | .keyword => name ++ bytes " is a shell keyword\n"
  | .function body => name ++ bytes " is a function\n" ++ Layout.function name body
  | .builtin => name ++ bytes " is a shell builtin\n"
  | .hashed path => name ++ bytes " is hashed (" ++ path ++ bytes ")\n"
  | .file path => name ++ bytes " is " ++ path ++ ['\n']

/-- The kind of a meaning. -/
def kind : Meaning → String
  | .aliased _ => "alias"
  | .keyword => "keyword"
  | .function _ => "function"
  | .builtin => "builtin"
  | .hashed _ | .file _ => "file"

/-- The path of a meaning. -/
def path? : Meaning → Option Bytes
  | .hashed p | .file p => some p
  | _ => none

/-- Says what names mean. -/
def type (args : List Bytes) : Act Unit :=
  withGiven "type" "afptP" "" args fun g => do
    let m ← get
    setStatus 0
    for name in g.operands do
      let all := (meanings m name).filter fun
        | .function _ => !g.has 'f'
        | _ => true
      let all := if g.has 'P' then (m.programs name).map .file else all
      let all := if g.has 'a' then all.filter fun | .hashed _ => false | _ => true else all.take 1
      if all = [] then
        match m.dialect with
        | .full =>
          if !g.has 't' ∧ !g.has 'p' ∧ !g.has 'P' then
            complain (said "type" (name ++ bytes ": not found"))
          setStatus 1
        | .plain =>
          put (name ++ bytes ": not found\n")
          setStatus 127
      else
        for x in all do
          if g.has 't' then put (bytes (kind x) ++ ['\n'])
          else if g.has 'p' ∨ g.has 'P' then
            match path? x with
            | some p => put (p ++ ['\n'])
            | none => pure ()
          else put (described name x)

/-- Says what the names of commands mean, for scripts or in words. -/
def which (verbose : Bool) (names : List Bytes) : Act Unit := do
  let m ← get
  let mut found := false
  for name in names do
    match (meanings m name).head? with
    | none =>
      if verbose then complain (said "command" (name ++ bytes ": not found"))
    | some x =>
      found := true
      if verbose then put (described name x)
      else
        match x with
        | .aliased t => put (bytes "alias " ++ name ++ ['='] ++ Spelling.betweenApostrophes t ++ ['\n'])
        | x => put ((path? x).getD name ++ ['\n'])
  setTruth found
where
  setTruth (b : Bool) : Act Unit := setStatus (if b then 0 else 1)

/-- Shows or sets what is known about the places of programs. -/
def hash (args : List Bytes) : Act Unit :=
  withGiven "hash" "lrdt" "p" args fun g => do
    let m ← get
    setStatus 0
    if g.has 'r' then set { m with hashed := [], status := 0 }
    else if g.has 'd' then
      set { m with hashed := m.hashed.filter fun h => !g.operands.contains h.1, status := 0 }
    else if g.has 't' then
      for name in g.operands do
        match m.hashed.lookup name with
        | some h => put (h.1 ++ ['\n'])
        | none => fail 1 (said "hash" (name ++ bytes ": not found"))
    else if g.operands = [] then
      if m.hashed = [] then
        if m.dialect = .full then put (bytes "hash: hash table empty\n")
      else
        put (bytes "hits\tcommand\n")
        for (_, path, n) in m.hashed do put (padLeft ' ' 4 (decimal n) ++ ['\t'] ++ path ++ ['\n'])
    else
      for name in g.operands do
        match (g.value? 'p').or (m.program? name) with
        | some path =>
          if !m.hasBuiltin name then
            modify fun m => { m with hashed := m.hashed.filter (·.1 ≠ name) ++ [(name, path, 0)] }
        | none => fail 1 (said "hash" (name ++ bytes ": not found"))

/-- Shows or sets names that stand for text. -/
def nameTexts (args : List Bytes) : Act Unit :=
  withGiven "alias" "p" "" args fun g => do
    let dialect := (← get).dialect
    let line (a : Bytes × Bytes) : Bytes :=
      (if dialect = .full then bytes "alias " else []) ++ a.1 ++ ['='] ++ Spelling.betweenApostrophes a.2 ++ ['\n']
    setStatus 0
    if g.operands = [] then
      let m ← get
      for a in m.aliases.mergeSort (fun a b => Files.before a.1 b.1) do put (line a)
    for t in g.operands do
      let name := t.takeWhile (· ≠ '=')
      if name.length < t.length ∧ name ≠ [] then
        modify fun m => { m with
          aliases := (name, t.drop (name.length + 1)) :: m.aliases.filter (·.1 ≠ name) }
      else
        match (← get).aliases.lookup t with
        | some v => put (line (t, v))
        | none => fail 1 (said "alias" (t ++ bytes ": not found"))

/-- Forgets names that stand for text. -/
def unalias (args : List Bytes) : Act Unit :=
  withGiven "unalias" "a" "" args fun g => do
    setStatus 0
    if g.has 'a' then modify fun m => { m with aliases := [] }
    else if g.operands = [] then usage "unalias"
    else
      for name in g.operands do
        let m ← get
        if (m.aliases.lookup name).isSome then
          set { m with aliases := m.aliases.filter (·.1 ≠ name) }
        else
          match m.dialect with
          | .full => fail 1 (said "unalias" (name ++ bytes ": not found"))
          | .plain =>
            warn (said "unalias" (name ++ bytes " not found\n"))
            setStatus 1

/-- Turns commands of the shell on and off, or shows them. -/
def enable (args : List Bytes) : Act Unit :=
  withGiven "enable" "adnps" "f" args fun g => do
    let m ← get
    setStatus 0
    if g.operands = [] then
      for (name, _) in usages do
        let off := m.disabled.contains name.toList
        if g.has 'a' ∨ off = g.has 'n' then
          put (bytes (if off then "enable -n " else "enable ") ++ bytes name ++ ['\n'])
    else
      for name in g.operands do
        if !has .full name then fail 1 (said "enable" (name ++ bytes ": not a shell builtin"))
        else modify fun m => { m with
          disabled := m.disabled.filter (· ≠ name) ++ if g.has 'n' then [name] else [] }

end Builtin

end JobLauncher.Shell
