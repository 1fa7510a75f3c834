/-!
# Words of the shell

A word is what a shell reads as one unit: characters, with or without a quote around them, and
places where something else will stand. A `Word` whose value needs nothing to be looked up or run
has a text of its own, `Word.text?`.
-/

namespace JobLauncher.Shell

/-- A part of a word; `quoted` says whether quotes protect it. -/
inductive Part where
  | char (quoted : Bool) (c : Char)
  /-- Quotes begin here, whether or not anything is between them. -/
  | quote
  /-- A parameter, by what stands after the dollar sign or between the braces. -/
  | parameter (quoted : Bool) (inside : List Char)
  /-- The output of a script, which may stand between backquotes. -/
  | output (quoted back : Bool) (script : List Char)
  /-- The value of an expression. -/
  | arithmetic (quoted : Bool) (expression : List Char)
  /-- A file that a script writes, or one that it reads. -/
  | process (written : Bool) (script : List Char)
  /-- The items of a list, as they stand between parentheses. -/
  | items (text : List Char)
  deriving DecidableEq, Repr

/-- A word, and how it was written. -/
structure Word where
  parts : List Part := []
  source : List Char := []
  deriving DecidableEq, Repr

/-- A character that a shell may act on where nothing quotes it: it stands for other characters, for
a directory or for several words. -/
def isActive (c : Char) : Bool := "*?[]\x7b\x7d~!^".toList.contains c

/-- The characters that a part stands for, whatever a shell knows. -/
def Part.fixed? : Part → Option (List Char)
  | .char quoted c => if !quoted && isActive c then none else some [c]
  | .quote => some []
  | _ => none

namespace Word

/-- A word of characters that are taken as they are. -/
def literal (cs : List Char) : Word := { parts := cs.map (.char true), source := cs }

/-- The text of a word that stands for itself. -/
def text? (w : Word) : Option String :=
  (w.parts.mapM Part.fixed?).map fun cs => String.ofList cs.flatten

/-- The characters of a word in which nothing is quoted or looked up. -/
def bare? (w : Word) : Option (List Char) :=
  w.parts.mapM fun
    | .char false c => some c
    | _ => none

/-- The characters of a word that its source gives without any expansion; quotes are gone. -/
def literalText (w : Word) : List Char :=
  w.parts.flatMap fun
    | .char _ c => [c]
    | .quote => []
    | .parameter _ inside => ['$'] ++ inside
    | _ => []

end Word

end JobLauncher.Shell
