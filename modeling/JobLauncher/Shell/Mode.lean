import JobLauncher.Shell.Bytes

/-!
# Modes of files

Who may read, write and run a file: three bits each for its owner, its group and all others, written
as a number of base 8 or changed by clauses.
-/

namespace JobLauncher.Shell.Mode

/-- The letters of what is allowed. -/
def letters (mode : Nat) : Bytes :=
  (if mode &&& 4 ≠ 0 then ['r'] else []) ++ (if mode &&& 2 ≠ 0 then ['w'] else [])
    ++ if mode &&& 1 ≠ 0 then ['x'] else []

/-- A mode that is changed by clauses of who, a sign, and what; or the character that is wrong. -/
def change (isDirectory : Bool) (mode umask : Nat) (t : Bytes) : Except Char Nat :=
  (splitAt ',' t).foldlM (fun mode clause => do
    let who := clause.takeWhile fun c => "ugoa".toList.contains c
    step who (clause.drop who.length) (clause.length + 1) mode) mode
where
  bits (who : Bytes) (p : Nat) : Nat :=
    let on (c : Char) : Bool := who.contains c || who.contains 'a'
    (if on 'u' then p * 64 else 0) + (if on 'g' then p * 8 else 0) + if on 'o' then p else 0
  step (who rest : Bytes) : Nat → Nat → Except Char Nat
    | 0, mode => .ok mode
    | fuel + 1, mode =>
      match rest with
      | [] => .ok mode
      | sign :: rest =>
        if sign ≠ '+' ∧ sign ≠ '-' ∧ sign ≠ '=' then .error sign
        else
          let what := rest.takeWhile fun c => c ≠ '+' ∧ c ≠ '-' ∧ c ≠ '='
          match what.find? fun c => !"rwxXstugo".toList.contains c with
          | some bad => .error bad
          | none =>
            let copied (c : Char) (shift : Nat) : Nat :=
              if what.contains c then mode / shift % 8 else 0
            let p := (if what.contains 'r' then 4 else 0) ||| (if what.contains 'w' then 2 else 0)
              ||| (if what.contains 'x' ∨ (what.contains 'X' ∧ (isDirectory ∨ mode &&& 0o111 ≠ 0))
                then 1 else 0)
              ||| copied 'u' 64 ||| copied 'g' 8 ||| copied 'o' 1
            let special := (if what.contains 's' ∧ who.contains 'u' then 0o4000 else 0)
              ||| (if what.contains 's' ∧ who.contains 'g' then 0o2000 else 0)
              ||| (if what.contains 't' then 0o1000 else 0)
            let all := if who = [] then ['a'] else who
            let mask := if who = [] then 0o777 - (0o777 &&& umask) else 0o777
            let set := (bits all p &&& mask) ||| special
            let mode :=
              if sign = '+' then mode ||| set
              else if sign = '-' then mode - (mode &&& set)
              else (mode - (mode &&& bits all 7)) ||| set
            step who (rest.drop what.length) fuel mode

/-- A number of base 8. -/
def ofDigits? (t : Bytes) : Option Nat :=
  if t ≠ [] ∧ t.all fun c => '0' ≤ c ∧ c ≤ '7' then
    some (Nat.ofDigitChars 8 t 0)
  else none

/-- The letters of all bits of a mode, with a dash for each that is off. -/
def text (mode : Nat) : Bytes :=
  part (mode / 64) (mode &&& 0o4000 ≠ 0) 's' ++ part (mode / 8) (mode &&& 0o2000 ≠ 0) 's'
    ++ part mode (mode &&& 0o1000 ≠ 0) 't'
where
  part (p : Nat) (special : Bool) (letter : Char) : Bytes :=
    let runs : Bool := p &&& 1 ≠ 0
    [if p &&& 4 ≠ 0 then 'r' else '-', if p &&& 2 ≠ 0 then 'w' else '-',
      if special then (if runs then letter else letter.toUpper) else if runs then 'x' else '-']

end JobLauncher.Shell.Mode
