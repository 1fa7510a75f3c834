import JobLauncher.Shell.Bytes
import JobLauncher.Shell.Quote

/-!
# Frames

Inside an expansion a shell looks for the character that closes it. What has been opened meanwhile
is kept as a stack of frames, innermost first: `framesAfter` gives the stack after one more
character, and the expansion ends when the stack is empty.
-/

namespace JobLauncher.Shell

/-- What has been opened inside an expansion. -/
inductive Frame where
  /-- Parentheses; `start` is the number of characters before what is inside them. -/
  | parens (start : Nat)
  /-- Braces around a parameter, between double quotes or not. `op` is the first character after the
  name, once it is there. -/
  | braces (quoted : Bool) (op : Option Char)
  | brackets
  | single
  | double
  | back
  /-- Between `$'` and an apostrophe. -/
  | escapes
  /-- The next character stands for itself. -/
  | guard
  | comment
  /-- A document up to the line that ends it; tabs in front of a line may not count. -/
  | document (stripped : Bool) (delimiter : List Char)
  deriving DecidableEq, Repr

namespace Frame

/-- The character that closes a frame. -/
def closer : Frame → Char
  | parens _ => ')'
  | braces .. => '\x7d'
  | brackets => ']'
  | single | escapes => apostrophe
  | double => '"'
  | back => backquote
  | guard => '\\'
  | comment | document .. => '\n'

/-- Whether an apostrophe stands for itself. Between double quotes it guards only patterns. -/
def keepsApostrophe : Frame → Bool
  | double => true
  | braces true op => !op.any fun c => "#%/^,".toList.contains c
  | _ => false

/-- Whether braces that open here are between double quotes. -/
def quotesBraces : Frame → Bool
  | double => true
  | braces q _ => q
  | _ => false

/-! ## Commands between parentheses -/

/-- How many `case` commands a text opens and does not close; the parentheses in them need not come
in pairs. A word begins a command if a separator or a word like `then` is before it. -/
def openCases (text : List Char) : Nat :=
  go true [] 0 text
where
  /-- Goes on within a word, whose characters are given last first. -/
  go (first : Bool) (word : List Char) (n : Nat) : List Char → Nat
    | [] => count first word.reverse n
    | c :: rest =>
      if ";&|()\n".toList.contains c then go true [] (count first word.reverse n) rest
      else if !isBlank c then go first (c :: word) n rest
      else if word = [] then go first [] n rest
      else go (first && introduces word.reverse) [] (count first word.reverse n) rest
  count (first : Bool) (word : List Char) (n : Nat) : Nat :=
    if first && word == bytes "case" then n + 1
    else if first && word == bytes "esac" then n - 1
    else n
  introduces (word : List Char) : Bool :=
    ["then", "else", "elif", "if", "while", "until", "do", "\x7b", "!"].contains
      (String.ofList word)

/-- The text of a delimiter, and whether quotes guard some of it. -/
def delimiterText : List Char → List Char × Bool
  | [] => ([], false)
  | '\\' :: c :: rest => let r := delimiterText rest; (c :: r.1, true)
  | c :: rest =>
    let r := delimiterText rest
    if c = apostrophe ∨ c = '"' then (r.1, true) else (c :: r.1, r.2)

/-- The documents that a line announces. -/
def documents : List Char → List Frame
  | '<' :: '<' :: '<' :: rest => documents rest
  | '<' :: '<' :: '-' :: rest => announced true rest ++ documents rest
  | '<' :: '<' :: rest => announced false rest ++ documents rest
  | _ :: rest => documents rest
  | [] => []
where
  announced (stripped : Bool) (rest : List Char) : List Frame :=
    let word := (rest.dropWhile isBlank).takeWhile fun c => !(isBlank c || ";&|()<>".toList.contains c)
    match word with
    | c :: _ =>
      if c.isDigit then [] else [.document stripped (delimiterText word).1]
    | [] => []

/-- Whether a line ends a document. -/
def endsDocument (stripped : Bool) (delimiter line : List Char) : Bool :=
  (if stripped then line.dropWhile (· = '\t') else line) == delimiter

/-- The line that ends a text, which is given last character first. -/
def lastLine (done : List Char) : List Char := (done.takeWhile (· ≠ '\n')).reverse

/-- Whether a number sign after a text, given last character first, begins a comment. -/
def beginsComment (done : List Char) : Bool :=
  match done with
  | [] => true
  | c :: _ => isBlankOrEnd c || ";&|(".toList.contains c

/-- Whether a text, given last character first, ends in a dollar sign that counts. -/
def endsInDollar : List Char → Bool
  | '$' :: '\\' :: _ => false
  | '$' :: _ => true
  | _ => false

/-- The frames after a character inside an expansion; `done` is what is there before it, last
character first. -/
def after (c : Char) (done : List Char) : List Frame → List Frame
  | [] => []
  | guard :: outer => outer
  | single :: outer => if c = apostrophe then outer else single :: outer
  | comment :: outer => if c = '\n' then outer else comment :: outer
  | document stripped delimiter :: outer =>
    if c = '\n' && endsDocument stripped delimiter (lastLine done) then outer
    else document stripped delimiter :: outer
  | f :: outer =>
    if c = '\\' then guard :: f :: outer
    else if c = f.closer then
      match f with
      | parens start =>
        if openCases (done.take (done.length - start)).reverse = 0 then outer else f :: outer
      | _ => outer
    else match f with
      | escapes | back => f :: outer
      | _ =>
        if c = '"' then double :: f :: outer
        else if c = apostrophe then
          if f.keepsApostrophe then f :: outer
          else if endsInDollar done then escapes :: f :: outer
          else single :: f :: outer
        else if c = backquote then back :: f :: outer
        else if c = '(' ∧ (f matches parens _ ∨ endsInDollar done) then
          parens (done.length + 1) :: f :: outer
        else if c = '\x7b' ∧ endsInDollar done then braces f.quotesBraces none :: f :: outer
        else match f with
          | parens _ =>
            if c = '#' ∧ beginsComment done then comment :: f :: outer
            else if c = '\n' then documents (lastLine done) ++ f :: outer
            else f :: outer
          | brackets => if c = '[' then brackets :: f :: outer else f :: outer
          | braces q none =>
            if isNameChar c ∨ "[]@*!".toList.contains c ∨ done.head?.all (· = '\x7b') then
              f :: outer
            else braces q (some c) :: outer
          | _ => f :: outer

/-- What is left of a text after the character that closes the last frame. -/
def rest? (frames : List Frame) (done : List Char) : List Char → Option (List Char)
  | [] => none
  | c :: rest =>
    match after c done frames with
    | [] => some rest
    | frames => rest? frames (c :: done) rest

/-- What follows the pair of parentheses with which a text begins. -/
def afterPair? : List Char → Option (List Char)
  | '(' :: rest => rest? [parens 0] [] rest
  | _ => none

/-- What is inside a pair of parentheses around all of a text. -/
def enclosed? (text : List Char) : Option (List Char) :=
  if afterPair? text = some [] then some (text.drop 1).dropLast else none

end Frame

end JobLauncher.Shell
