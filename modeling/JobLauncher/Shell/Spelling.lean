import JobLauncher.Shell.Escape
import JobLauncher.Shell.Quote
import JobLauncher.Shell.Variable

/-!
# Spelling

How the shell spells texts so that it reads them back: with a backslash before each character that
needs one, between apostrophes, between double quotes, or with escapes if some of the text does not
show on a screen.
-/

namespace JobLauncher.Shell.Spelling

/-- A character that a word cannot hold without a guard. -/
def needsGuard (c : Char) : Bool := "\t\n !\"$&\x27()*,;<>?[\\]^\x60\x7b|\x7d".toList.contains c

/-- A byte that does not show on a screen. -/
def isHidden (c : Char) : Bool := c.toNat < 32 || 127 ≤ c.toNat

/-- A character between `$'` and an apostrophe. -/
def escapedChar (c : Char) : Bytes :=
  let n := c.toNat
  if c = '\\' ∨ c = apostrophe then ['\\', c]
  else if n = 7 then ['\\', 'a']
  else if n = 8 then ['\\', 'b']
  else if n = 9 then ['\\', 't']
  else if n = 10 then ['\\', 'n']
  else if n = 11 then ['\\', 'v']
  else if n = 12 then ['\\', 'f']
  else if n = 13 then ['\\', 'r']
  else if n = 27 then ['\\', 'E']
  else if isHidden c then '\\' :: padLeft '0' 3 (Nat.toDigits 8 n)
  else [c]

/-- A text with escapes. -/
def withEscapes (t : Bytes) : Bytes :=
  ['$', apostrophe] ++ t.flatMap escapedChar ++ [apostrophe]

/-- A text with a backslash before each character that needs one. -/
def withBackslashes (t : Bytes) : Bytes :=
  if t = [] then [apostrophe, apostrophe]
  else if t.any isHidden then withEscapes t
  else
    let guarded := t.flatMap fun c => if needsGuard c then ['\\', c] else [c]
    match guarded with
    | c :: rest => if c = '~' ∨ c = '#' then '\\' :: c :: rest else guarded
    | [] => []

/-- A text between apostrophes; one inside it closes them, follows a backslash, and opens them
again. -/
def betweenApostrophes (t : Bytes) : Bytes :=
  [apostrophe]
    ++ t.flatMap (fun c => if c = apostrophe then [apostrophe, '\\', apostrophe, apostrophe] else [c])
    ++ [apostrophe]

/-- A text between apostrophes, or with escapes if some of it does not show. -/
def quoted (t : Bytes) : Bytes :=
  if t = [apostrophe] then ['\\', apostrophe]
  else if t.any isHidden then withEscapes t
  else betweenApostrophes t

/-- A text that is no word, or not the same one, without quotes. -/
def needsQuotes (t : Bytes) : Bool :=
  t.any (fun c => needsGuard c && c ≠ ',') || t.head?.any fun c => c = '~' ∨ c = '#'

/-- A text as a list of all variables shows it: without quotes where it needs none. -/
def short (t : Bytes) : Bytes :=
  if t.any isHidden ∨ needsQuotes t then quoted t else t

/-- A text between double quotes. -/
def betweenQuotes (t : Bytes) : Bytes := ['"'] ++ escapeChars t ++ ['"']

/-- The text of a value in a declaration. -/
def declared (t : Bytes) : Bytes :=
  if t.any isHidden then withEscapes t else betweenQuotes t

/-- A name in a table, between brackets. -/
def tableKey (k : Bytes) : Bytes :=
  if k = [] ∨ k.any isHidden ∨ needsQuotes k ∨ k.contains '@' then declared k else k

/-- A value as a declaration of it has it. -/
def value : Value → Bytes
  | .none => []
  | .text t => declared t
  | .list items =>
    ['('] ++ spaced (items.map fun i => ['['] ++ decimal i.1 ++ bytes "]=" ++ declared i.2) ++ [')']
  | .table items =>
    ['('] ++ items.flatMap (fun i => ['['] ++ tableKey i.1 ++ bytes "]=" ++ declared i.2 ++ [' '])
      ++ [')']

/-- The letters of what holds for a variable. -/
def letters (v : Variable) : Bytes :=
  let mark (b : Bool) (c : Char) : Bytes := if b then [c] else []
  (match v.value with | .list _ => ['a'] | .table _ => ['A'] | _ => [])
    ++ mark v.number 'i' ++ mark v.refers 'n' ++ mark v.readOnly 'r' ++ mark v.exported 'x'
    ++ mark v.lower 'l' ++ mark v.upper 'u'

/-- The declaration of a variable. -/
def declaration (name : Bytes) (v : Variable) : Bytes :=
  let ls := letters v
  bytes "declare -" ++ (if ls = [] then ['-'] else ls) ++ [' '] ++ name
    ++ if v.value.isSet && !v.bare then ['='] ++ value v.value else []

end JobLauncher.Shell.Spelling
