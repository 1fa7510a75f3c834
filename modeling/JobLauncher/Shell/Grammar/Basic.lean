import JobLauncher.Shell.Script

/-!
# Reading scripts

A `Parse` takes tokens off a script and gives what they are, or says why the script is none. This
module has the small readers that the grammar is made of.

Readers that call themselves take fuel, which bounds the depth of their recursion. Each of them
leaves fewer tokens than it finds before it calls another, so a multiple of the number of tokens is
always enough.
-/

namespace JobLauncher.Shell

/-- Why a text is no script: what is said about it, each with the line it is about, and the line that
is shown after that. -/
structure SyntaxFault where
  said : List (Nat × String)
  shown : Option Nat := none
  /-- What the plain shell says instead, and the word that it expects. -/
  plain : String := "word unexpected"
  expected : Option String := none
  /-- The text ends too early. -/
  atEnd : Bool := false
  /-- What the shell ends with. -/
  status : Nat := 2
  /-- What failed before stays what the shell ends with. -/
  keeps : Bool := false
  deriving DecidableEq, Repr

namespace SyntaxFault

def ended (line : Nat) : SyntaxFault :=
  { said := [(line, "syntax error: unexpected end of file")]
    plain := "end of file unexpected", atEnd := true }

def unclosed (needed : Char) (line : Nat) : SyntaxFault :=
  { said := [(line, "unexpected EOF while looking for matching \x60" ++ needed.toString ++ "'")]
    keeps := true
    plain :=
      if needed = '\x7d' then "Missing '\x7d'"
      else if needed = ')' then "Missing '))'"
      else if needed = backquote then "EOF in backquote substitution"
      else "Unterminated quoted string" }

/-- A token that may not be where it is; `plain` is what the plain shell calls it. -/
def unexpected (token plain : String) (line : Nat) : SyntaxFault :=
  { said := [(line, "syntax error near unexpected token \x60" ++ token ++ "'")], shown := line
    plain := plain ++ " unexpected" }

/-- What is wrong with a condition, and near which token. -/
def near (said : List String) (token : String) (line : Nat) : SyntaxFault :=
  { said := (said ++ ["syntax error near \x60" ++ token ++ "'"]).map ((line, ·)), shown := line }

end SyntaxFault

/-- The text of a token. -/
def Token.source : Token → String
  | .word w => String.ofList w.source
  | .number n => toString n
  | .holder name => "\x7b" ++ String.ofList name ++ "\x7d"
  | .operator op => op
  | .document d => String.ofList d.delimiter
  | .arithmetic e => "((" ++ String.ofList e ++ "))"
  | .group s _ => "(" ++ String.ofList s
  | .newline => "newline"
  | .comment => "#"
  | .unclosed c => c.toString
  | .openCommand | .openItems _ => ")"

/-- Words that mean something to the plain shell. -/
def plainKeywords : List String :=
  ["!", "\x7b", "\x7d", "case", "do", "done", "elif", "else", "esac", "fi", "for", "if", "in", "then",
    "until", "while"]

/-- What the plain shell calls a token. -/
def Token.plainName (t : Token) : String :=
  let quoted (s : String) : String := "\"" ++ s ++ "\""
  match t with
  | .word w =>
    if plainKeywords.contains (String.ofList w.source) then quoted (String.ofList w.source) else "word"
  | .operator op => if isArrow op then "redirection" else quoted op
  | .newline => "newline"
  | .number _ | .holder _ => "redirection"
  | t => quoted t.source

/-- What a token says where a command is expected. -/
def Token.keyword? : Token → Option String
  | .word w => w.bare?.map String.ofList
  | _ => none

/-- The state of reading a script: the tokens that are left, and the line after the last one. -/
structure Grammar.State where
  rest : List Placed
  endLine : Nat
  /-- The script is one of the plain shell. -/
  plain : Bool := false

/-- A reader of a part of a script. -/
abbrev Parse := StateT Grammar.State (Except SyntaxFault)

namespace Grammar

/-- The tokens of a text that begins at a line, without its comments. -/
def codeTokens (f : Flavour) (line : Nat) (text : List Char) : List Placed :=
  (tokensFrom f line text).filter fun t => t.1 != .comment

def peek : Parse (Option Token) := return (← get).rest.head?.map (·.1)

def keyword? : Parse (Option String) := return (← peek).bind Token.keyword?

/-- The line of the next token. -/
def line : Parse Nat := do
  let s ← get
  return (s.rest.head?.map (·.2)).getD s.endLine

def advance : Parse Unit := modify fun s => { s with rest := s.rest.drop 1 }

/-- Why a token may not be where it is. -/
def faultOf : Placed → SyntaxFault
  | (.unclosed c, n) => .unclosed c n
  | (.openCommand, n) =>
    { SyntaxFault.unclosed ')' n with
      keeps := false, plain := "end of file unexpected", expected := some ")", atEnd := true }
  | (.openItems _, n) => { SyntaxFault.unclosed ')' n with keeps := false, status := 1 }
  | (t, n) => .unexpected t.source t.plainName n

/-- Checks the items of a list, which have to be words. -/
def checkItems (n : Nat) (text : List Char) : Except SyntaxFault Unit :=
  (codeTokens {} n text).forM fun t =>
    match t.1 with
    | .operator _ | .unclosed _ | .openCommand =>
      throw { faultOf t with status := 1, keeps := false }
    | _ => pure ()

/-- Refuses the next token, instead of which some word may be expected. -/
def refuse (expected : Option String := none) : Parse α := do
  let s ← get
  match s.rest with
  | [] => throw { SyntaxFault.ended s.endLine with expected }
  | (.openItems text, n) :: _ =>
    match checkItems n text with
    | .error f => throw f
    | .ok _ => throw (faultOf (.openItems text, n))
  | t :: _ =>
    let f := faultOf t
    throw { f with expected := f.expected.or expected }

/-- Passes over ends of lines. -/
def skipLines : Parse Unit :=
  modify fun s => { s with rest := s.rest.dropWhile (·.1 == .newline) }

/-- Passes over the word that has to come next. -/
def expect (word : String) : Parse Unit := do
  if (← keyword?) == some word then advance else refuse (some word)

/-- Passes over an operator if it comes next. -/
def accept (op : String) : Parse Bool := do
  if (← peek) == some (.operator op) then
    advance
    return true
  else return false

/-- Passes over the operator that has to come next. -/
def expectOperator (op : String) : Parse Unit := do
  unless ← accept op do refuse (some op)

/-- A word, whatever it is. -/
def word : Parse Word := do
  match ← peek with
  | some (.word w) =>
    advance
    return w
  | _ => refuse

/-! ## Redirections -/

/-- What an arrow does. -/
def arrowKind : String → Redirection.Kind
  | "<" => .read
  | "<>" => .readWrite
  | ">" => .write
  | ">|" => .overwrite
  | ">>" => .append
  | "&>" => .writeAll
  | "&>>" => .appendAll
  | "<<<" => .text
  | "<&" => .joinInput
  | _ => .joinOutput

/-- Reads a redirection, if one comes next. -/
def redirection? : Parse (Option Redirection) := do
  let (stream, arrow) : Redirection.Stream × Option Token ← match (← get).rest with
    | (.number n, _) :: rest => pure (.number n, rest.head?.map (·.1))
    | (.holder name, _) :: rest => pure (.holder name, rest.head?.map (·.1))
    | rest => pure (.usual, rest.head?.map (·.1))
  match arrow with
  | some (.operator op) =>
    if !isArrow op then return none
    else
      if stream != .usual then advance
      advance
      match ← peek with
      | some (.word w) =>
        advance
        return some ⟨stream, arrowKind op, w⟩
      | some (.document d) =>
        advance
        let text := d.text.getD []
        let body := if d.quoted then Word.literal text else Word.ofText .document text
        return some ⟨stream, .document, body⟩
      | _ => refuse
  | _ => return none

/-- Reads redirections. -/
def redirections : Nat → Parse (List Redirection)
  | 0 => return []
  | fuel + 1 => do
    match ← redirection? with
    | none => return []
    | some r => return r :: (← redirections fuel)

/-- Adds the redirections that follow a command with a body. -/
def trailing (fuel : Nat) (s : Script) : Parse Script := do
  let rs ← redirections fuel
  return if rs = [] then s else .redirected s rs

end Grammar

end JobLauncher.Shell
