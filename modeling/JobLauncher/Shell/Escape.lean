import JobLauncher.Shell.Bytes
import JobLauncher.Shell.Quote

/-!
# Escapes

What a backslash and the characters after it stand for where a command or the shell itself carries
out escapes.
-/

namespace JobLauncher.Shell

/-- The value of a digit in a base, if it is one. -/
def digit? (base : Nat) (c : Char) : Option Nat :=
  let n := c.toNat
  let d := if c.isDigit then n - 48
    else if 97 ≤ n ∧ n ≤ 102 then n - 87
    else if 65 ≤ n ∧ n ≤ 70 then n - 55
    else base
  if d < base then some d else none

/-- Up to `most` digits in a base, with what follows them. -/
def digits (base : Nat) : Nat → List Char → List Nat × List Char
  | 0, cs => ([], cs)
  | _, [] => ([], [])
  | most + 1, c :: cs =>
    match digit? base c with
    | none => ([], c :: cs)
    | some d => let r := digits base most cs; (d :: r.1, r.2)

/-- The number of digits in a base. -/
def valueIn (base : Nat) (ds : List Nat) : Nat := ds.foldl (fun n d => base * n + d) 0

/-- The byte of a number. -/
def byte (n : Nat) : Char := Char.ofNat (n % 256)

/-- An upper case number in base 16. -/
def hexUpper (width n : Nat) : List Char :=
  let ds := (Nat.toDigits 16 n).map Char.toUpper
  List.replicate (width - ds.length) '0' ++ ds

/-- What an escape stands for. -/
inductive Escape where
  | bytes (bs : Bytes)
  /-- Nothing more is written. -/
  | stop
  | unknown

/-- A character given by its number; only ASCII has bytes of its own. -/
def numbered (letter : Char) (width most : Nat) (cs : List Char) : Escape × List Char :=
  match digits 16 most cs with
  | ([], _) => (.unknown, cs)
  | (ds, rest) =>
    let n := valueIn 16 ds
    (.bytes (if n < 128 then [Char.ofNat n] else ['\\', letter] ++ hexUpper width n), rest)

/-- Where an escape stands. -/
inductive Escape.Place where
  /-- In the format of `printf`. -/
  | format
  /-- In an argument of `printf`. -/
  | argument
  /-- In an argument of `echo`. -/
  | echo
  /-- Between `$'` and an apostrophe. -/
  | word
  deriving DecidableEq, Repr

/-- The escape after a backslash. In an argument an octal number may begin with a zero that does not
count, and for `echo` it has to. -/
def escapeOf (place : Escape.Place) : List Char → Escape × List Char
  | [] => (.unknown, [])
  | c :: rest =>
    let octal (cs rest : List Char) : Escape × List Char :=
      match digits 8 3 cs with
      | ([], _) => (.unknown, rest)
      | (ds, rest) => (.bytes [byte (valueIn 8 ds)], rest)
    let one (n : Nat) : Escape × List Char := (.bytes [Char.ofNat n], rest)
    if c = 'a' then one 7
    else if c = 'b' then one 8
    else if c = 't' then one 9
    else if c = 'n' then one 10
    else if c = 'v' then one 11
    else if c = 'f' then one 12
    else if c = 'r' then one 13
    else if c = 'e' ∨ c = 'E' then one 27
    else if c = '\\' then one 92
    else if c = 'c' ∧ (place = .argument ∨ place = .echo) then (.stop, rest)
    else if c = 'c' ∧ place = .word then
      match rest with
      | [] => (.unknown, c :: rest)
      | d :: rest => (.bytes [Char.ofNat (d.toNat % 32)], rest)
    else if (c = '"' ∨ c = '?' ∨ c = apostrophe) ∧ (place = .format ∨ place = .word) then
      (.bytes [c], rest)
    else if c = 'x' then
      match digits 16 2 rest with
      | ([], _) => (.unknown, c :: rest)
      | (ds, rest) => (.bytes [byte (valueIn 16 ds)], rest)
    else if c = 'u' then numbered 'u' 4 4 rest
    else if c = 'U' then numbered 'U' 8 8 rest
    else if c = '0' ∧ (place = .argument ∨ place = .echo) then
      let r := digits 8 3 rest
      (.bytes [byte (valueIn 8 r.1)], r.2)
    else if place = .echo then (.unknown, c :: rest)
    else octal (c :: rest) (c :: rest)

/-- A text with its escapes carried out, and whether one of them ends all output. -/
def unescapeBytes (place : Escape.Place) : Nat → List Char → Bytes × Bool
  | 0, _ => ([], false)
  | _, [] => ([], false)
  | fuel + 1, c :: rest =>
    if c = '\\' then
      match escapeOf place rest with
      | (.stop, _) => ([], true)
      | (.bytes bs, rest) => let r := unescapeBytes place fuel rest; (bs ++ r.1, r.2)
      | (.unknown, _) => let r := unescapeBytes place fuel rest; ('\\' :: r.1, r.2)
    else let r := unescapeBytes place fuel rest; (c :: r.1, r.2)

end JobLauncher.Shell
