import JobLauncher.Json.Basic
import JobLauncher.Text.Quoted

/-!
# Printed JSON

Two layouts of one value: `compact` on a single line, `pretty` with every item and field on a line
of its own, indented by two spaces for each level. Both keep the order of the fields.
-/

namespace JobLauncher.Json

/-- A character inside a JSON text: the quote, the backslash and the controls are escaped,
everything else stands for itself. -/
def escapeChar (c : Char) : List Char :=
  if c = '"' then ['\\', '"']
  else if c = '\\' then ['\\', '\\']
  else if c = '\n' then ['\\', 'n']
  else if c = '\r' then ['\\', 'r']
  else if c = '\t' then ['\\', 't']
  else if c.toNat = 8 then ['\\', 'b']
  else if c.toNat = 12 then ['\\', 'f']
  else if c.toNat < 0x20 then ['\\', 'u'] ++ Text.hexPadded 4 c.toNat
  else [c]

/-- A text in quotes. -/
def quote (s : String) : List Char := ['"'] ++ s.toList.flatMap escapeChar ++ ['"']

def Number.toText : Number → String
  | .int i => toString i
  | .float x => x.toText

mutual

/-- The value on one line without blanks. -/
def compactChars : Json → List Char
  | .null => "null".toList
  | .bool b => (if b then "true" else "false").toList
  | .num n => n.toText.toList
  | .str s => quote s
  | .arr items => ['['] ++ compactItems items ++ [']']
  | .obj fields => ['\x7b'] ++ compactFields fields ++ ['\x7d']

def compactItems : List Json → List Char
  | [] => []
  | [v] => compactChars v
  | v :: rest => compactChars v ++ [','] ++ compactItems rest

def compactFields : List (String × Json) → List Char
  | [] => []
  | [(k, v)] => quote k ++ [':'] ++ compactChars v
  | (k, v) :: rest => quote k ++ [':'] ++ compactChars v ++ [','] ++ compactFields rest

end

/-- The value on one line. -/
def compact (v : Json) : String := String.ofList (compactChars v)

/-- A new line at a level of nesting. -/
def newLine (level : Nat) : List Char := '\n' :: List.replicate (2 * level) ' '

mutual

/-- The value at a level of nesting. -/
def prettyChars (level : Nat) : Json → List Char
  | .null => "null".toList
  | .bool b => (if b then "true" else "false").toList
  | .num n => n.toText.toList
  | .str s => quote s
  | .arr [] => ['[', ']']
  | .arr (v :: rest) =>
    ['['] ++ newLine (level + 1) ++ prettyChars (level + 1) v ++ prettyItems (level + 1) rest
      ++ newLine level ++ [']']
  | .obj [] => ['\x7b', '\x7d']
  | .obj ((k, v) :: rest) =>
    ['\x7b'] ++ newLine (level + 1) ++ quote k ++ [':', ' '] ++ prettyChars (level + 1) v
      ++ prettyFields (level + 1) rest ++ newLine level ++ ['\x7d']

/-- The items after the first. -/
def prettyItems (level : Nat) : List Json → List Char
  | [] => []
  | v :: rest => [','] ++ newLine level ++ prettyChars level v ++ prettyItems level rest

/-- The fields after the first. -/
def prettyFields (level : Nat) : List (String × Json) → List Char
  | [] => []
  | (k, v) :: rest =>
    [','] ++ newLine level ++ quote k ++ [':', ' '] ++ prettyChars level v
      ++ prettyFields level rest

end

/-- The value over several lines. -/
def pretty (v : Json) : String := String.ofList (prettyChars 0 v)

end JobLauncher.Json
