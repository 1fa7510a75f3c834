/-!
# Bytes

Shells and the tools they run pass bytes on without knowing what text they are. A sequence of them is
written as characters, each standing for the byte of its number, so that what is ASCII can be read.
-/

namespace JobLauncher.Shell

/-- A sequence of bytes, each written as the character of its number. -/
abbrev Bytes := List Char

/-- The bytes of a text of ASCII. -/
def bytes (s : String) : Bytes := s.toList

/-- The text of bytes that are ASCII. -/
def textOfBytes (bs : Bytes) : String := String.ofList bs

/-- A natural number in decimal. -/
def decimal (n : Nat) : Bytes := Nat.toDigits 10 n

/-- A whole number in decimal. -/
def integer (n : Int) : Bytes := if n < 0 then '-' :: decimal n.natAbs else decimal n.natAbs

/-- The number that decimal digits write. -/
def natural? (cs : Bytes) : Option Nat :=
  if cs ≠ [] ∧ cs.all Char.isDigit then
    some (Nat.ofDigitChars 10 cs 0)
  else none

/-- A blank within a line. -/
def isBlank (c : Char) : Bool := c == ' ' || c == '\t'

/-- A blank or the end of a line. -/
def isBlankOrEnd (c : Char) : Bool := c == ' ' || c == '\t' || c == '\n'

/-- What any kind of white space is to the tools: blanks, ends of lines and three controls. -/
def isSpaceByte (c : Char) : Bool := c == ' ' || (9 ≤ c.toNat && c.toNat ≤ 13)

/-- A byte that is a control. -/
def isControl (c : Char) : Bool := c.toNat < 32 || c.toNat == 127

/-- A byte that shows on a screen, blanks aside. -/
def isGraph (c : Char) : Bool := 32 < c.toNat && c.toNat < 127

def isPunctuation (c : Char) : Bool := isGraph c && !c.isAlphanum

def isHexDigit (c : Char) : Bool :=
  c.isDigit || ('a' ≤ c && c ≤ 'f') || ('A' ≤ c && c ≤ 'F')

/-- Whether a byte belongs to a named class; none if no class has that name. -/
def classTest? (name : String) : Option (Char → Bool) :=
  match name with
  | "alpha" => some Char.isAlpha
  | "digit" => some Char.isDigit
  | "alnum" => some Char.isAlphanum
  | "upper" => some Char.isUpper
  | "lower" => some Char.isLower
  | "space" => some isSpaceByte
  | "blank" => some isBlank
  | "cntrl" => some isControl
  | "graph" => some isGraph
  | "print" => some fun c => isGraph c || c == ' '
  | "punct" => some isPunctuation
  | "xdigit" => some isHexDigit
  | "word" => some fun c => c.isAlphanum || c == '_'
  | "ascii" => some fun c => c.toNat < 128
  | _ => none

def isNameStart (c : Char) : Bool := c.isAlpha || c == '_'

def isNameChar (c : Char) : Bool := c.isAlphanum || c == '_'

/-- A text that can be the name of a variable. -/
def isName : Bytes → Bool
  | [] => false
  | c :: rest => isNameStart c && rest.all isNameChar

/-- Words with blanks between them. -/
def spaced (words : List Bytes) : Bytes := List.intercalate [' '] words

/-- The lines of a text, each with its end. -/
def linesOf (bs : Bytes) : List Bytes :=
  go [] bs
where
  /-- Goes on after the characters of a line that has begun, the last one first. -/
  go (begun : Bytes) : Bytes → List Bytes
    | [] => if begun = [] then [] else [begun.reverse]
    | c :: rest => if c = '\n' then ('\n' :: begun).reverse :: go [] rest else go (c :: begun) rest

/-- A line without its end. -/
def chomp (line : Bytes) : Bytes := if line.getLast? = some '\n' then line.dropLast else line

/-- The lines of a text without their ends. -/
def bareLines (bs : Bytes) : List Bytes := (linesOf bs).map chomp

/-- The text of lines, each with an end. -/
def unlines (lines : List Bytes) : Bytes := lines.flatMap (· ++ ['\n'])

/-- The parts of a text between single bytes. -/
def splitAt (sep : Char) (bs : Bytes) : List Bytes :=
  go [] bs
where
  go (begun : Bytes) : Bytes → List Bytes
    | [] => [begun.reverse]
    | c :: rest => if c = sep then begun.reverse :: go [] rest else go (c :: begun) rest

/-- The text without blanks of any kind in front. -/
def skipSpace (bs : Bytes) : Bytes := bs.dropWhile isSpaceByte

/-- Fills a text up on the left. -/
def padLeft (fill : Char) (width : Nat) (bs : Bytes) : Bytes :=
  List.replicate (width - bs.length) fill ++ bs

/-- Fills a text up on the right. -/
def padRight (fill : Char) (width : Nat) (bs : Bytes) : Bytes :=
  bs ++ List.replicate (width - bs.length) fill

end JobLauncher.Shell
