/-!
# Places in a YAML text

A `Cursor` is what remains to be read together with where it begins. Columns and lines matter in
YAML, so every move forward goes through `Cursor.step`, which keeps count of them.
-/

namespace JobLauncher.Yaml

/-- Why a text is not YAML. -/
inductive Fault where
  | control (c : Char)
  | unexpected (found : Option Char)
  | tab
  | notHere (what : String)
  | expected (what : String)
  | unknownAlias (name : String)
  | manyDocuments
  | repetition
  | shape (what : String)
  deriving DecidableEq, Repr

def Fault.message : Fault → String
  | .control c => "control characters are not allowed: " ++ toString c.toNat
  | .unexpected (some c) => "unexpected character: " ++ c.toString
  | .unexpected none => "unexpected end"
  | .tab => "found a tab character that violates indentation"
  | .notHere what => what ++ " are not allowed in this context"
  | .expected what => "did not find expected " ++ what
  | .unknownAlias name => "unknown anchor: " ++ name
  | .manyDocuments => "more than one document"
  | .repetition => "repetition limit exceeded"
  | .shape what => "invalid type: expected " ++ what

/-- The rest of a text and its place. -/
structure Cursor where
  rest : List Char
  /-- The number of bytes before this place. -/
  index : Nat
  line : Nat
  column : Nat

/-- A line break of one character. -/
def isBreak (c : Char) : Bool :=
  c == '\n' || c == '\r' || c.toNat == 0x85 || c.toNat == 0x2028 || c.toNat == 0x2029

/-- A blank within a line. -/
def isBlank (c : Char) : Bool := c == ' ' || c == '\t'

/-- A character that separates words, or the end. -/
def isGap : Option Char → Bool
  | none => true
  | some c => isBlank c || isBreak c

/-- The end of a line, or of the text. -/
def isLineEnd : Option Char → Bool
  | none => true
  | some c => isBreak c

/-- A character of names: anchors, directives and tag handles. -/
def isNameChar (c : Char) : Bool := c.isAlphanum || c == '_' || c == '-'

/-- A character that may stand in a text at all. -/
def isAllowed (c : Char) : Bool :=
  let n := c.toNat
  n == 0x09 || n == 0x0A || n == 0x0D || (0x20 ≤ n && n ≤ 0x7E) || n == 0x85
    || (0xA0 ≤ n && n ≤ 0xD7FF) || (0xE000 ≤ n && n ≤ 0xFFFD) || 0x10000 ≤ n

/-- The mark that may begin a line without being part of it. It takes up a column all the same. -/
def byteOrderMark : Char := Char.ofNat 0xFEFF

namespace Cursor

/-- The beginning of a text. -/
def start (s : String) : Cursor := ⟨s.toList, 0, 0, 0⟩

/-- The next character. -/
def peek (p : Cursor) : Option Char := p.rest.head?

/-- The character `n` places on. -/
def peekAt (p : Cursor) (n : Nat) : Option Char := p.rest[n]?

def atEnd (p : Cursor) : Bool := p.rest.isEmpty

/-- Moves over one character or line break. A carriage return and the line feed after it are one
break. -/
def step (p : Cursor) : Cursor :=
  match p.rest with
  | [] => p
  | '\r' :: '\n' :: rest => ⟨rest, p.index + 2, p.line + 1, 0⟩
  | c :: rest =>
    let index := p.index + c.utf8Size
    if isBreak c then ⟨rest, index, p.line + 1, 0⟩
    else ⟨rest, index, p.line, p.column + 1⟩

/-- Moves over `n` characters. -/
def skip (p : Cursor) : Nat → Cursor
  | 0 => p
  | n + 1 => p.step.skip n

/-- The longest run of characters from here that satisfy `keep`, and the place after it. -/
def takeWhile (p : Cursor) (keep : Char → Bool) : List Char × Cursor :=
  let run := p.rest.takeWhile keep
  (run, p.skip run.length)

/-- The place after the longest run of characters that satisfy `keep`. -/
def dropWhile (p : Cursor) (keep : Char → Bool) : Cursor := (p.takeWhile keep).2

/-- The break at this place as a scalar holds it. All breaks of a line are line feeds there but for
the separators of lines and paragraphs; at the end of the text there is none. -/
def breakHere (p : Cursor) : List Char :=
  match p.peek with
  | none => []
  | some c => if c.toNat = 0x2028 ∨ c.toNat = 0x2029 then [c] else ['\n']

/-- The place after a comment, if one begins here. -/
def skipComment (p : Cursor) : Cursor :=
  if p.peek = some '#' then p.dropWhile fun c => !isBreak c else p

/-- Whether one of the marks around documents, three times the character `c`, stands here. -/
def atDocumentMark (p : Cursor) (c : Char) : Bool :=
  p.column == 0 && p.rest.take 3 == [c, c, c] && isGap (p.peekAt 3)

/-- Whether a document ends or begins here. -/
def atDocumentEdge (p : Cursor) : Bool := p.atDocumentMark '-' || p.atDocumentMark '.'

/-- The rest of a line that may hold nothing more than a comment. -/
def finishLine (p : Cursor) : Except Fault Cursor :=
  let p := (p.dropWhile isBlank).skipComment
  if isLineEnd p.peek then .ok p.step else .error (.expected "comment or line break")

end Cursor

end JobLauncher.Yaml
