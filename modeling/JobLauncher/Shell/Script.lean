import JobLauncher.Shell.Token

/-!
# Scripts

The commands of a script and how they are put together.
-/

namespace JobLauncher.Shell

/-- A variable and the value it is set to. -/
structure Setting where
  name : List Char
  index : Option Word := none
  /-- The value is added to what is there. -/
  adds : Bool := false
  value : Word
  deriving DecidableEq, Repr

/-- What an arrow is about. -/
inductive Redirection.Stream where
  | usual
  | number (n : Nat)
  /-- A variable that holds the number or, if a new stream is opened, gets it. -/
  | holder (name : List Char)
  deriving DecidableEq, Repr

/-- What a redirection does. -/
inductive Redirection.Kind where
  | read
  | readWrite
  | write
  /-- Writing even where files are protected. -/
  | overwrite
  | append
  /-- Output and errors together. -/
  | writeAll
  | appendAll
  /-- The word itself is the input, as a line. -/
  | text
  /-- The word is all of the input. -/
  | document
  /-- One stream comes from where another comes from. -/
  | joinInput
  /-- One stream goes where another goes. -/
  | joinOutput
  deriving DecidableEq, Repr

/-- A change of where a stream comes from or goes. -/
structure Redirection where
  stream : Redirection.Stream
  kind : Redirection.Kind
  target : Word
  deriving DecidableEq, Repr

/-- A condition between double brackets. -/
inductive Test where
  | text (w : Word)
  | unary (op : List Char) (w : Word)
  | binary (op : List Char) (a b : Word)
  | not (t : Test)
  | and (a b : Test)
  | or (a b : Test)
  deriving Repr

/-- How a branch of a `case` command ends: the command is over, the next branch is run too, or the
next branches are tried too. -/
inductive Ending where
  | stop
  | fall
  | retry
  deriving DecidableEq, Repr

/-- A simple command: variables that are set, words, and redirections. `line` is the line on which
what follows its first word ends. -/
structure Simple where
  line : Nat
  settings : List Setting := []
  words : List Word := []
  redirections : List Redirection := []
  deriving DecidableEq, Repr

/-- A script. -/
inductive Script where
  | skip
  | simple (s : Simple)
  | redirected (s : Script) (rs : List Redirection)
  | seq (a b : Script)
  /-- The second if the first succeeds. -/
  | both (a b : Script)
  /-- The second if the first fails. -/
  | either (a b : Script)
  /-- The output of the first is the input of the second. -/
  | pipe (a b : Script)
  | negated (s : Script)
  /-- The time that it takes is said; `bare` leaves the units out. -/
  | timed (bare : Bool) (s : Script)
  | background (s : Script)
  | subshell (s : Script)
  | group (s : Script)
  /-- The body as long as the condition succeeds or, if `opposite`, fails. -/
  | loop (opposite : Bool) (condition body : Script)
  | choice (condition yes no : Script)
  /-- The body for each of the words in turn. -/
  | each (line : Nat) (name : List Char) (words : List Word) (body : Script)
  /-- The body for each of the words that the input chooses. -/
  | menu (line : Nat) (name : List Char) (words : List Word) (body : Script)
  /-- The body as long as an expression is not zero. -/
  | count (line : Nat) (first condition next : List Char) (body : Script)
  /-- The first of the branches that has a matching pattern. -/
  | select (line : Nat) (subject : Word) (branches : Script)
  /-- A branch and those after it. -/
  | branch (patterns : List Word) (body : Script) (ending : Ending) (next : Script)
  | arithmetic (line : Nat) (expression : List Char)
  | test (line : Nat) (t : Test)
  | define (name : List Char) (body : Script)
  deriving Repr

/-- The stages of a chain of pipes. -/
def Script.stages : Script → List Script
  | .pipe a b => a.stages ++ b.stages
  | s => [s]

/-- The variable that a word sets, if it does. -/
def Word.setting? (w : Word) : Option Setting := do
  let n ← settingLength? w.parts
  let name := w.parts.takeWhile fun | .char false c => isNameChar c | _ => false
  let head := (w.parts.take n).drop name.length
  let adds := head.length ≥ 2 && head[head.length - 2]? == some (.char false '+')
  let index := head.dropLast
  let index := if adds then index.dropLast else index
  return {
    name := name.filterMap fun | .char _ c => some c | _ => none
    index := if index = [] then none else some { parts := (index.drop 1).dropLast }
    adds
    value := { parts := w.parts.drop n, source := w.source } }

end JobLauncher.Shell
