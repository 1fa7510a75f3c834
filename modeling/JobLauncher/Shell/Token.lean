import JobLauncher.Shell.Escape
import JobLauncher.Shell.Frame
import JobLauncher.Shell.Word

/-!
# Tokens of the shell

A script is read one character at a time by `Reader.step`, from the state in which the characters
before have left the reader. What a text contributes therefore depends only on that state, and the
reading of two texts one after the other is the reading of the second from where the first one ended
(`Reader.steps_append`).

Lists in the state of the reader are kept with the last element first.
-/

namespace JobLauncher.Shell

/-- A document that is part of a script: what it is for, the line that ends it, and its text once it
has been read. -/
structure Document where
  stripped : Bool
  delimiter : List Char
  /-- Nothing in it is looked up. -/
  quoted : Bool
  text : Option (List Char) := none
  /-- The line on which the script ended before it. -/
  cut : Option Nat := none
  /-- The line on which it is announced. -/
  line : Nat
  deriving DecidableEq, Repr

/-- A token of a script. -/
inductive Token where
  | word (w : Word)
  /-- A number right before an arrow: what the arrow is about. -/
  | number (n : Nat)
  /-- A name between braces right before an arrow. -/
  | holder (name : List Char)
  | operator (op : String)
  | document (d : Document)
  /-- The expression of an arithmetic command. -/
  | arithmetic (expression : List Char)
  /-- A script between parentheses that stand inside parentheses; the outer ones may not be closed. -/
  | group (script : List Char) (closed : Bool)
  | newline
  | comment
  /-- The script ends before the character that it needs. -/
  | unclosed (needed : Char)
  /-- The script ends before the parenthesis that closes a command. -/
  | openCommand
  /-- The script ends before the parenthesis that closes the items of a list. -/
  | openItems (items : List Char)
  deriving DecidableEq, Repr

/-- A token and the line on which it ends. -/
abbrev Placed := Token × Nat

/-- How a text is protected where it stands. -/
inductive Quoting where
  | bare
  | double
  /-- In a document, where quotes stand for themselves. -/
  | document
  deriving DecidableEq, Repr

/-- Whether quotes protect the text. -/
def Quoting.holds (q : Quoting) : Bool := q != .bare

/-- What an expansion is for. -/
inductive Opening where
  | parameter
  | output
  | back
  | escapes
  | arithmetic
  | process (written : Bool)
  | items
  | command
  deriving DecidableEq, Repr

/-- What the reader is in the middle of. -/
inductive Mode where
  | plain (q : Quoting)
  /-- After a backslash. -/
  | guarded (q : Quoting)
  | single
  /-- After a dollar sign. -/
  | dollar (q : Quoting)
  | name (q : Quoting) (done : List Char)
  /-- Inside an expansion. -/
  | inside (q : Quoting) (opening : Opening) (frames : List Frame) (done : List Char)
  | operator (done : List Char)
  | comment
  /-- In a document, after some lines and part of another one. -/
  | document (done line : List Char)
  deriving DecidableEq, Repr

/-- What the next word is. -/
inductive Stage where
  | command
  /-- A command, after variables that are set for it. -/
  | settings
  /-- An argument; `declares` says whether it may set a variable. -/
  | arguments (declares : Bool)
  /-- What an arrow is about; afterwards it goes on as before. -/
  | target (after : Stage)
  /-- Part of a condition; `pattern` and `regex` say what is expected. -/
  | condition (pattern regex : Bool)
  deriving DecidableEq, Repr

/-- The state of reading a script. -/
structure Reader where
  mode : Mode := .plain .bare
  /-- The parts of the word that has begun, if one has. -/
  word : Option (List Part) := none
  /-- The characters of the token that has begun. -/
  source : List Char := []
  tokens : List Placed := []
  line : Nat := 1
  /-- The line on which the quotes or the expansion around began. -/
  opened : Nat := 1
  stage : Stage := .command
  /-- How many parentheses are open inside the word. -/
  groups : Nat := 0
  /-- Nothing ends the word. -/
  single : Bool := false
  /-- Patterns may have parentheses. -/
  extended : Bool := false
  /-- The script is one of the plain shell. -/
  plain : Bool := false
  deriving DecidableEq, Repr

/-- All operators. -/
def operators : List String :=
  ["&", "&&", "&>", "&>>", "|", "||", "|&", ";", ";;", ";&", ";;&", "<", "<<", "<<<", "<<-", "<&",
    "<>", ">", ">>", ">&", ">|", "(", ")"]

/-- An operator that is followed by a word. -/
def isArrow (op : String) : Bool :=
  ["<", "<<", "<<<", "<<-", "<&", "<>", ">", ">>", ">&", ">|", "&>", "&>>"].contains op

/-- Operators that the plain shell does not have. -/
def fullOperators : List String := ["&>", "&>>", "|&", ";&", ";;&", "<<<"]

/-- A character with which an operator begins. -/
def isOperatorChar (c : Char) : Bool := "&|;<>()".toList.contains c

/-- A parameter whose name is a single character. -/
def isSpecialName (c : Char) : Bool := c.isDigit || "?$!#@*-".toList.contains c

/-- Commands whose arguments may set variables. -/
def declarators : List String := ["declare", "typeset", "local", "export", "readonly"]

/-- Words after which a command may begin. -/
def introductions : List String :=
  ["if", "then", "else", "elif", "while", "until", "do", "\x7b", "!", "time", "coproc"]

/-- The length of the start of a word that sets a variable: a name, perhaps an index, and a sign. -/
def settingLength? (w : List Part) : Option Nat :=
  let name := w.takeWhile fun | .char false c => isNameChar c | _ => false
  if !isName (name.filterMap fun | .char _ c => some c | _ => none) then none
  else sign? name.length (w.drop name.length)
where
  sign? (n : Nat) : List Part → Option Nat
    | .char false '=' :: _ => some (n + 1)
    | .char false '+' :: .char false '=' :: _ => some (n + 2)
    | .char false '[' :: rest => index? (n + 1) 1 rest
    | _ => none
  /-- Passes over an index, in which `depth` brackets are open. -/
  index? (n depth : Nat) : List Part → Option Nat
    | .char false ']' :: .char false '=' :: rest =>
      if depth = 1 then some (n + 2) else index? (n + 2) (depth - 1) rest
    | .char false ']' :: .char false '+' :: .char false '=' :: rest =>
      if depth = 1 then some (n + 3) else index? (n + 3) (depth - 1) rest
    | .char false ']' :: rest => if depth = 1 then none else index? (n + 1) (depth - 1) rest
    | .char false '[' :: rest => index? (n + 1) (depth + 1) rest
    | _ :: rest => index? (n + 1) depth rest
    | [] => none

/-- Whether a word that has begun, last part first, is a name and an index that is still open. -/
def isOpenIndex (w : List Part) : Bool :=
  let w := w.reverse
  let name := w.takeWhile fun | .char false c => isNameChar c | _ => false
  let count (c : Char) : Nat := w.count (.char false c)
  isName (name.filterMap fun | .char _ c => some c | _ => none)
    && w[name.length]? == some (.char false '[') && count ']' < count '['

namespace Stage

/-- Whether the next word may set a variable. -/
def allowsSetting : Stage → Bool
  | command | settings | arguments true => true
  | _ => false

def isCondition : Stage → Bool
  | condition .. => true
  | _ => false

/-- The stage after a word. -/
def afterWord (plain : Bool) (s : Stage) (w : Word) : Stage :=
  let text := w.bare?.map String.ofList
  match s with
  | target after => after
  | condition _ _ =>
    match text with
    | some "]]" => arguments false
    | some "==" | some "=" | some "!=" => condition true false
    | some "=~" => condition false true
    | _ => condition false false
  | arguments d => arguments d
  | command | settings =>
    if (settingLength? w.parts).isSome then settings
    else match text with
      | some t =>
        if s = command ∧ t = "[[" ∧ !plain then condition false false
        else if s = command ∧ introductions.contains t then command
        else arguments (declarators.contains t)
      | none => arguments false

/-- The stage after an operator. -/
def afterOperator (s : Stage) (op : String) : Stage :=
  if s.isCondition then condition false false
  else if isArrow op then target s
  else command

end Stage

namespace Reader

/-- Adds a part to the word, which begins with it if need be. -/
def add (s : Reader) (p : Part) : Reader := { s with word := some (p :: s.word.getD []) }

/-- Notes a quote in the word. -/
def quote (s : Reader) : Reader := { s.add .quote with opened := s.line }

def goto (s : Reader) (mode : Mode) : Reader := { s with mode }

def emit (s : Reader) (t : Token) : Reader := { s with tokens := (t, s.line) :: s.tokens }

/-- The token for a word: after an arrow that announces one, a document. -/
def wordToken (s : Reader) (w : Word) : Token :=
  let document (stripped : Bool) : Token :=
    .document {
      stripped, delimiter := w.literalText, line := s.line
      quoted := w.parts.any fun | .quote | .char true _ => true | _ => false }
  match s.tokens with
  | (.operator "<<", _) :: _ => if s.stage.isCondition then .word w else document false
  | (.operator "<<-", _) :: _ => document true
  | _ => .word w

/-- Ends the word. -/
def flush (s : Reader) : Reader :=
  match s.word with
  | none => s
  | some parts =>
    let w : Word := { parts := parts.reverse, source := s.source.reverse }
    { s.emit (s.wordToken w) with word := none, source := [], stage := s.stage.afterWord s.plain w }

/-- The word so far, if nothing in it is quoted or looked up. -/
def bare? (s : Reader) : Option (List Char) :=
  s.word.bind fun parts => ({ parts := parts.reverse } : Word).bare?

/-- The token that a word right before an arrow is, if it belongs to the arrow. -/
def arrowToken? (s : Reader) : Option Token :=
  if s.stage.isCondition then none
  else s.bare?.bind fun cs =>
    match natural? cs, cs with
    | some n, _ => some (.number n)
    | none, '\x7b' :: rest =>
      if rest.getLast? = some '\x7d' ∧ isName rest.dropLast then some (.holder rest.dropLast)
      else none
    | _, _ => none

/-- Begins an operator. -/
def beginOperator (s : Reader) (c : Char) : Reader :=
  let s := match s.arrowToken? with
    | some t =>
      if c = '<' ∨ c = '>' then { s.emit t with word := none, source := [] } else s.flush
    | none => s.flush
  s.goto (.operator [c])

/-- Ends the operator. -/
def endOperator (s : Reader) (done : List Char) : Reader :=
  let op := String.ofList done.reverse
  { (s.emit (.operator op)).goto (.plain .bare) with
    source := [], stage := s.stage.afterOperator op }

/-- Whether some document has been announced and not been read. -/
def awaitsDocument (s : Reader) : Bool :=
  s.tokens.any fun
    | (.document d, _) => d.text.isNone
    | _ => false

/-- Ends the line. -/
def endLine (s : Reader) : Reader :=
  let s := s.flush
  let stage := if s.stage.isCondition then s.stage else .command
  let s := { s.emit .newline with stage }
  if s.awaitsDocument then s.goto (.document [] []) else s

/-- Begins an expansion. -/
def enter (s : Reader) (q : Quoting) (o : Opening) (frames : List Frame)
    (done : List Char := []) : Reader :=
  { s.goto (.inside q o frames done) with opened := if q.holds then s.opened else s.line }

/-- Whether a parenthesis here belongs to a pattern, or is part of a regular expression. -/
def opensGroup (s : Reader) : Bool :=
  match s.stage with
  | .condition _ true => true
  | stage =>
    (s.extended || stage matches .condition true _)
      && (s.word.getD []).head?.any fun
        | .char false c => "?*+@!".toList.contains c
        | _ => false

/-- Whether the items of a list begin here. -/
def opensItems (s : Reader) : Bool :=
  !s.plain && s.stage.allowsSetting
    && s.word.any fun parts => settingLength? parts.reverse == some parts.length

/-- Whether the index of a variable that is set has begun and is still open. -/
def isInIndex (s : Reader) : Bool := !s.plain && s.stage.allowsSetting && s.word.any isOpenIndex

/-- Whether two parentheses here begin an arithmetic command. -/
def opensArithmetic (s : Reader) : Bool :=
  !s.plain && (s.stage == .command || match s.tokens with
    | (.word w, _) :: _ => w.bare? == some (bytes "for")
    | _ => false)

/-- A character where nothing is quoted. -/
def stepPlain (s : Reader) (c : Char) : Reader :=
  if c = '\\' then s.goto (.guarded .bare)
  else if c = apostrophe then s.quote.goto .single
  else if c = '"' then s.quote.goto (.plain .double)
  else if c = '$' then s.goto (.dollar .bare)
  else if c = backquote then s.enter .bare .back [.back]
  else if s.single then s.add (.char false c)
  else if s.groups ≠ 0 then
    let groups := if c = '(' then s.groups + 1 else if c = ')' then s.groups - 1 else s.groups
    { s.add (.char false c) with groups }
  else if c = '(' && s.opensGroup then { s.add (.char false c) with groups := 1 }
  else if c = '|' && s.stage == .condition false true then s.add (.char false c)
  else if (isBlankOrEnd c || isOperatorChar c) && s.isInIndex then s.add (.char false c)
  else if isBlank c then s.flush
  else if c = '\n' then s.endLine
  else if c = '(' && s.opensItems then s.enter .bare .items [.parens 0]
  else if isOperatorChar c then s.beginOperator c
  else if c = '#' ∧ s.word = none then (s.emit .comment).goto .comment
  else s.add (.char false c)

/-- A character between double quotes or in a document. -/
def stepQuoted (s : Reader) (q : Quoting) (c : Char) : Reader :=
  if c = '\\' then s.goto (.guarded q)
  else if c = '"' ∧ q = .double then s.goto (.plain .bare)
  else if c = '$' then s.goto (.dollar q)
  else if c = backquote then s.enter q .back [.back]
  else s.add (.char true c)

/-- A character that continues a text. -/
def stepText (s : Reader) (q : Quoting) (c : Char) : Reader :=
  if q = .bare then (s.goto (.plain .bare)).stepPlain c
  else (s.goto (.plain q)).stepQuoted q c

/-- A character after a backslash. A line that ends there goes on in the next one. -/
def stepGuarded (s : Reader) (q : Quoting) (c : Char) : Reader :=
  let s := s.goto (.plain q)
  if c = '\n' then s
  else if q.holds && !(isLiveInQuotes c && (c ≠ '"' || q = .double)) then
    (s.add (.char true '\\')).add (.char true c)
  else s.add (.char true c)

/-- A character after a dollar sign. One that cannot go on with it leaves it as it is. -/
def stepDollar (s : Reader) (q : Quoting) (c : Char) : Reader :=
  if isNameStart c then s.goto (.name q [c])
  else if isSpecialName c then (s.add (.parameter q.holds [c])).goto (.plain q)
  else if c = apostrophe ∧ q = .bare then s.quote.enter .bare .escapes [.escapes]
  else if c = '"' ∧ q = .bare then s.quote.goto (.plain .double)
  else if c = '(' then s.enter q .output [.parens 0]
  else if c = '[' then s.enter q .arithmetic [.brackets]
  else if c = '\x7b' then s.enter q .parameter [.braces q.holds none]
  else (s.add (.char q.holds '$')).stepText q c

/-- The text between backquotes, where a backslash guards what is special there. -/
def unguardBack (quoted : Bool) : List Char → List Char
  | '\\' :: c :: rest =>
    if c = '\\' ∨ c = '$' ∨ c = backquote ∨ (quoted ∧ c = '"') then c :: unguardBack quoted rest
    else '\\' :: c :: unguardBack quoted rest
  | c :: rest => c :: unguardBack quoted rest
  | [] => []

/-- What an expansion is, by what opened it and what is inside. -/
def expansion (q : Quoting) (o : Opening) (inside : List Char) : List Part :=
  match o with
  | .parameter => [.parameter q.holds inside]
  | .back => [.output q.holds true (unguardBack (q = .double) inside)]
  | .escapes => (unescapeBytes .word inside.length inside).1.map (.char true)
  | .arithmetic => [.arithmetic q.holds inside]
  | .process written => [.process written inside]
  | .items => [.items inside]
  | .output | .command =>
    match Frame.enclosed? inside with
    | some expression => [.arithmetic q.holds expression]
    | none => [.output q.holds false inside]

/-- Ends an expansion. -/
def endExpansion (s : Reader) (q : Quoting) (o : Opening) (inside : List Char) : Reader :=
  match o with
  | .command =>
    let token := match Frame.enclosed? inside with
      | some expression => Token.arithmetic expression
      | none => .group inside true
    { (s.emit token).goto (.plain .bare) with source := [], stage := .command }
  | _ => ((expansion q o inside).foldl add s).goto (.plain q)

/-- A character inside an expansion. -/
def stepInside (s : Reader) (q : Quoting) (o : Opening) (frames : List Frame) (done : List Char)
    (c : Char) : Reader :=
  match Frame.after c done frames with
  | [] => s.endExpansion q o done.reverse
  | frames => s.goto (.inside q o frames (c :: done))

/-- Whether the shell of the script has an operator. -/
def isOperator (s : Reader) (op : String) : Bool :=
  operators.contains op && !(s.plain && fullOperators.contains op)

/-- A character after those of an operator. -/
def stepOperator (s : Reader) (done : List Char) (c : Char) : Reader :=
  if done = ['('] ∧ c = '(' ∧ s.opensArithmetic then
    s.enter .bare .command [.parens 1, .parens 0] ['(']
  else if done = ['<'] ∧ c = '(' ∧ !s.stage.isCondition ∧ !s.plain then
    s.enter .bare (.process true) [.parens 0]
  else if done = ['>'] ∧ c = '(' ∧ !s.stage.isCondition ∧ !s.plain then
    s.enter .bare (.process false) [.parens 0]
  else if s.isOperator (String.ofList (c :: done).reverse) then s.goto (.operator (c :: done))
  else (s.endOperator done).stepPlain c

/-- Gives a text to the first document that has none. -/
def fill (text : List Char) (cut : Option Nat) : List Placed → List Placed
  | [] => []
  | (.document d, n) :: earlier =>
    if d.text.isSome || earlier.any (fun | (.document e, _) => e.text.isNone | _ => false) then
      (.document d, n) :: fill text cut earlier
    else (.document { d with text := some text, cut }, n) :: earlier
  | t :: earlier => t :: fill text cut earlier

/-- The document that is being read. -/
def currentDocument? (s : Reader) : Option Document :=
  s.tokens.reverse.findSome? fun
    | (.document d, _) => if d.text.isNone then some d else none
    | _ => none

/-- The line end before documents ends with them. -/
def moveNewline (line : Nat) : List Placed → List Placed
  | (.newline, _) :: earlier => (.newline, line) :: earlier
  | ts => ts

/-- Ends the document that is being read. -/
def endDocument (s : Reader) (done : List Char) (cut : Option Nat) : Reader :=
  let s := { s with tokens := moveNewline s.line (fill done.reverse cut s.tokens) }
  if s.awaitsDocument then s.goto (.document [] []) else s.goto (.plain .bare)

/-- A line of a document without the tabs that do not count. -/
def documentLine (d : Document) (line : List Char) : List Char :=
  if d.stripped then line.dropWhile (· = '\t') else line

/-- Ends a line of a document. -/
def endDocumentLine (s : Reader) (done line : List Char) : Reader :=
  match s.currentDocument? with
  | none => s.goto (.plain .bare)
  | some d =>
    let text := documentLine d line.reverse
    if text = d.delimiter then s.endDocument done none
    else s.goto (.document ('\n' :: text.reverse ++ done) [])

/-- What a character does in the mode the reader is in. -/
def react (s : Reader) (c : Char) : Reader :=
  match s.mode with
  | .plain q => s.stepText q c
  | .guarded q => s.stepGuarded q c
  | .single => if c = apostrophe then s.goto (.plain .bare) else s.add (.char true c)
  | .dollar q => s.stepDollar q c
  | .name q done =>
    if isNameChar c then s.goto (.name q (c :: done))
    else (s.add (.parameter q.holds done.reverse)).stepText q c
  | .inside q o frames done => s.stepInside q o frames done c
  | .operator done => s.stepOperator done c
  | .comment => if c = '\n' then (s.goto (.plain .bare)).endLine else s
  | .document done line =>
    if c = '\n' then s.endDocumentLine done line else s.goto (.document done (c :: line))

/-- Whether no token has begun. -/
def isIdle (s : Reader) : Bool :=
  s.word.isNone && match s.mode with
    | .plain .bare | .comment | .document .. => true
    | _ => false

/-- Reads one character. -/
def step (s : Reader) (c : Char) : Reader :=
  let after := s.react c
  { after with
    source := if after.isIdle then [] else c :: after.source
    line := if c = '\n' then after.line + 1 else after.line }

/-- Reads characters one after another. -/
def steps (s : Reader) (cs : List Char) : Reader := cs.foldl step s

/-- Notes that the script ends before the character that it needs. -/
def cutOff (s : Reader) (needed : Char) : Reader :=
  { s with tokens := (.unclosed needed, s.opened) :: s.tokens }

/-- Notes that the script ends inside an expansion. A command that is missing its parenthesis is
missed on the line after the last one. -/
def cutInside (s : Reader) (o : Opening) (frames : List Frame) (done : List Char) : Reader :=
  let frames := frames.dropWhile fun f => f matches .guard | .comment | .document ..
  let command : Reader := { s with tokens := (.openCommand, s.line + 1) :: s.tokens }
  match o, frames with
  | .output, [.parens _] => if done.getLast? = some '(' then s.cutOff ')' else command
  | .process _, [.parens _] => command
  | .command, [.parens 0] => s.emit (.group done.reverse false)
  | .items, _ => { s with tokens := (.openItems done.reverse, s.opened) :: s.tokens }
  | _, f :: _ => s.cutOff f.closer
  | _, [] => s.cutOff ')'

/-- The state at the end of a script. A backslash there stands for itself. -/
def finish (s : Reader) : Reader :=
  let close (q : Quoting) (s : Reader) : Reader :=
    if q = .double then s.cutOff '"' else if s.isInIndex then s.cutOff ']' else s.flush
  let lastLine := if s.mode matches .document _ [] then s.line - 1 else s.line
  let s := match s.mode with
    | .plain q => close q s
    | .guarded q => close q (s.add (.char true '\\'))
    | .single => s.cutOff apostrophe
    | .dollar q => close q (s.add (.char q.holds '$'))
    | .name q done => close q (s.add (.parameter q.holds done.reverse))
    | .inside _ o frames done => s.cutInside o frames done
    | .operator done => s.endOperator done
    | .comment => s
    | .document done line =>
      match s.currentDocument? with
      | none => s
      | some d =>
        let text := documentLine d line.reverse
        if line = [] then s.endDocument done (some lastLine)
        else if text = d.delimiter then s.endDocument done none
        else s.endDocument ('\n' :: text.reverse ++ done) (some lastLine)
  { s with tokens := s.tokens.map (fillEmpty lastLine) }
where
  /-- A document that nothing follows is empty. -/
  fillEmpty (line : Nat) : Placed → Placed
    | (.document d, n) =>
      if d.text.isNone then (.document { d with text := some [], cut := some line }, n)
      else (.document d, n)
    | t => t

theorem steps_append (s : Reader) (a b : List Char) : s.steps (a ++ b) = (s.steps a).steps b :=
  List.foldl_append ..

@[simp] theorem steps_nil (s : Reader) : s.steps [] = s := rfl

@[simp] theorem steps_cons (s : Reader) (c : Char) (cs : List Char) :
    s.steps (c :: cs) = (s.step c).steps cs := rfl

end Reader

/-- What the tokens of a script depend on apart from its text. -/
structure Flavour where
  /-- Patterns may have parentheses. -/
  extended : Bool := false
  /-- The script is one of the plain shell. -/
  plain : Bool := false
  deriving DecidableEq, Repr

/-- The tokens of a script that begins at a line, with their lines. -/
def tokensFrom (f : Flavour) (line : Nat) (cs : List Char) : List Placed :=
  ((Reader.steps { line, extended := f.extended, plain := f.plain } cs).finish).tokens.reverse

/-- The tokens of a script. -/
def tokens (cs : List Char) : List Token := (tokensFrom {} 1 cs).map (·.1)

/-- The word that a text is if nothing ends a word in it. -/
def Word.ofText (q : Quoting) (cs : List Char) : Word :=
  let s := Reader.steps { mode := .plain q, single := true } cs
  let s := match s.mode with
    | .guarded _ => s.add (.char true '\\')
    | .dollar q => s.add (.char q.holds '$')
    | .name q done => s.add (.parameter q.holds done.reverse)
    | _ => s
  { parts := (s.word.getD []).reverse, source := cs }

/-- The text of a token that is a word and stands for itself. -/
def Token.text? : Token → Option String
  | .word w => w.text?
  | _ => none

/-- The words of a line that is nothing but words, each standing for itself. -/
def words? (cs : List Char) : Option (List String) := (tokens cs).mapM Token.text?

example : words? "a 'b c'\\''d' \"e\\$f\"".toList = some ["a", "b c'd", "e$f"] := by decide +kernel
example : words? "a; b".toList = none := by decide +kernel
example : words? "a $b".toList = none := by decide +kernel
example : words? "a *".toList = none := by decide +kernel

end JobLauncher.Shell
