import JobLauncher.Json.Printer
import JobLauncher.Yaml.Style

/-!
# Printed YAML

`print` writes a document in block style. Each field of a mapping has a line of its own. A sequence
below a key begins in the column of the key, and what is below a dash begins right behind it.

The functions take what comes after the value. It always begins with a line end, and a block of
lines that ends in one of its own uses that in its place.
-/

namespace JobLauncher.Yaml

/-- A new line that begins in a column. -/
def newLine (column : Nat) : List Char := '\n' :: List.replicate column ' '

/-! ## Scalars -/

/-- The digits of `n` in base 16, upper case, at least `width` of them. -/
def upperHex (width n : Nat) : List Char := (Text.hexPadded width n).map Char.toUpper

/-- A character between quotes. -/
def escapeChar (c : Char) : List Char :=
  let n := c.toNat
  if c = '"' ∨ c = '\\' then ['\\', c]
  else if isWritable c && !isBreak c then [c]
  else if n = 0x00 then ['\\', '0']
  else if n = 0x07 then ['\\', 'a']
  else if n = 0x08 then ['\\', 'b']
  else if n = 0x09 then ['\\', 't']
  else if n = 0x0A then ['\\', 'n']
  else if n = 0x0B then ['\\', 'v']
  else if n = 0x0C then ['\\', 'f']
  else if n = 0x0D then ['\\', 'r']
  else if n = 0x1B then ['\\', 'e']
  else if n = 0x85 then ['\\', 'N']
  else if n = 0x2028 then ['\\', 'L']
  else if n = 0x2029 then ['\\', 'P']
  else if n ≤ 0xFF then ['\\', 'x'] ++ upperHex 2 n
  else if n ≤ 0xFFFF then ['\\', 'u'] ++ upperHex 4 n
  else ['\\', 'U'] ++ upperHex 8 n

/-- Lines that each begin in a column, unless they are empty; `fresh` says that a line has just
begun. -/
def indentLines (write : Char → List Char) (column : Nat) (fresh : Bool) : List Char → List Char
  | [] => []
  | c :: rest =>
    if isBreak c then c :: indentLines write column true rest
    else (if fresh then List.replicate column ' ' else []) ++ write c
      ++ indentLines write column false rest

/-- A text between apostrophes; an apostrophe is written twice. The last one is indented too if it
begins a line. -/
def singleQuoted (column : Nat) (cs : List Char) : List Char :=
  ['\x27'] ++ indentLines (fun c => if c = '\x27' then [c, c] else [c]) column false cs
    ++ (if cs.getLast?.any isBreak then List.replicate column ' ' else []) ++ ['\x27']

/-- What a block says about its end: whether the last break belongs to the text, or several do. -/
def chomping (cs : List Char) : List Char :=
  match cs.reverse with
  | [] => ['-']
  | last :: before =>
    if !isBreak last then ['-']
    else match before with
      | [] => ['+']
      | c :: _ => if isBreak c then ['+'] else []

/-- The first line of a block: the depth is stated if the text itself begins with a blank or a
break. -/
def blockHead (cs : List Char) : List Char :=
  ['|'] ++ (if cs.head?.any fun c => isSpace c || isBreak c then ['2'] else []) ++ chomping cs

/-- A text as a block of lines, and what comes after it. -/
def block (column : Nat) (cs after : List Char) : List Char :=
  blockHead cs ++ ['\n'] ++ indentLines (fun c => [c]) column true cs
    ++ (if cs.getLast?.any isBreak then after.drop 1 else after)

/-- A text in its style. -/
def textChars (column : Nat) (s : String) (after : List Char) : List Char :=
  match Style.of s with
  | .plain => s.toList ++ after
  | .single => singleQuoted column s.toList ++ after
  | .double => ['"'] ++ s.toList.flatMap escapeChar ++ ['"'] ++ after
  | .literal => block column s.toList after

/-! ## Collections -/

/-- The most bytes in a key that is written on one line with its value. -/
def maxSimpleKey : Nat := 128

/-- A key that is written on one line with its value. -/
def isSimpleKey (s : String) : Bool :=
  s.utf8ByteSize ≤ maxSimpleKey && !s.toList.any isBreak

/-- Where a value stands. -/
inductive Place where
  | top
  | afterKey
  | afterDash
  deriving DecidableEq, Repr

/-- What comes before a value that is not a block of its own. -/
def Place.lead : Place → List Char
  | .top => []
  | .afterKey | .afterDash => [' ']

/-- What comes before the first line of a block in a column. -/
def Place.opening (column : Nat) : Place → List Char
  | .top => []
  | .afterKey => newLine column
  | .afterDash => [' ']

/-- The column of what lies inside a value in a column. -/
def Place.inside (column : Nat) : Place → Nat
  | .top => 0
  | .afterKey | .afterDash => column + 2

/-- The column of the dashes of a sequence. -/
def Place.dashes (column : Nat) : Place → Nat
  | .top => 0
  | .afterKey => column
  | .afterDash => column + 2

/-- Where the value of a key stands. -/
def keyPlace (k : String) : Place := if isSimpleKey k then .afterKey else .afterDash

/-- A key in a column, and its value after it. A key that is no simple one stands apart. -/
def keyChars (own : Nat) (k : String) (value : List Char) : List Char :=
  if isSimpleKey k then textChars (own + 2) k ([':'] ++ value)
  else ['?', ' '] ++ textChars (own + 2) k (newLine own ++ [':'] ++ value)

mutual

/-- A value whose surroundings begin in a column. -/
def valueChars (place : Place) (column : Nat) (after : List Char) : Json → List Char
  | .null => place.lead ++ "null".toList ++ after
  | .bool b => place.lead ++ (if b then "true" else "false").toList ++ after
  | .num n => place.lead ++ n.toText.toList ++ after
  | .str s => place.lead ++ textChars (column + 2) s after
  | .arr [] => place.lead ++ ['[', ']'] ++ after
  | .arr (v :: rest) =>
    let own := place.dashes column
    place.opening own ++ ['-']
      ++ valueChars .afterDash own (itemsChars own after rest) v
  | .obj [] => place.lead ++ ['\x7b', '\x7d'] ++ after
  | .obj ((k, v) :: rest) =>
    let own := place.inside column
    place.opening own
      ++ keyChars own k (valueChars (keyPlace k) own (fieldsChars own after rest) v)

/-- The items after the first. -/
def itemsChars (own : Nat) (after : List Char) : List Json → List Char
  | [] => after
  | v :: rest =>
    newLine own ++ ['-'] ++ valueChars .afterDash own (itemsChars own after rest) v

/-- The fields after the first. -/
def fieldsChars (own : Nat) (after : List Char) : List (String × Json) → List Char
  | [] => after
  | (k, v) :: rest =>
    newLine own ++ keyChars own k (valueChars (keyPlace k) own (fieldsChars own after rest) v)

end

/-- The document of a value. -/
def print (v : Json) : String := String.ofList (valueChars .top 0 ['\n'] v)

end JobLauncher.Yaml
