/-!
# The order of versions

Versions of an interface are compared by how finished they are, then by their numbers. A name that
is no version comes after all that are, such names among themselves in alphabetical order.
-/

namespace JobLauncher.Kube

/-- A version, taken apart. -/
inductive Version where
  | stable (major : Nat)
  | beta (major : Nat) (minor : Option Nat)
  | alpha (major : Nat) (minor : Option Nat)
  | other (name : String)
  deriving DecidableEq, Repr

namespace Version

/-- The number that digits write; there has to be one, below 2 ^ 32. -/
def number? (digits : List Char) : Option Nat :=
  if digits.isEmpty || !digits.all Char.isDigit then none
  else
    let n := Nat.ofDigitChars 10 digits 0
    if n < 4294967296 then some n else none

/-- What follows the major number of a version: nothing, or a stage with a number of its own. -/
def ofStage? (major : Nat) (stage : List Char) : Option Version :=
  match stage with
  | [] => some (.stable major)
  | 'b' :: 'e' :: 't' :: 'a' :: minor => (minorNumber? minor).map (.beta major)
  | 'a' :: 'l' :: 'p' :: 'h' :: 'a' :: minor => (minorNumber? minor).map (.alpha major)
  | _ => none
where
  minorNumber? (digits : List Char) : Option (Option Nat) :=
    if digits.isEmpty then some none else (number? digits).map some

/-- Reads the name of a version. -/
def parse (s : String) : Version :=
  match s.toList with
  | 'v' :: rest =>
    ((number? (rest.takeWhile Char.isDigit)).bind fun major =>
      ofStage? major (rest.dropWhile Char.isDigit)).getD (.other s)
  | _ => .other s

/-- How finished a version is, and its numbers; no number comes before zero. -/
def rank : Version → Nat × Nat × Nat
  | .stable major => (3, major, 0)
  | .beta major minor => (2, major, (minor.map (· + 1)).getD 0)
  | .alpha major minor => (1, major, (minor.map (· + 1)).getD 0)
  | .other _ => (0, 0, 0)

/-- Whether `a` is to be preferred to `b`. -/
def before (a b : Version) : Bool :=
  match a, b with
  | .other m, .other n => m < n
  | a, b =>
    let (s, i, k) := a.rank
    let (t, j, l) := b.rank
    t < s || (t == s && (j < i || (j == i && l < k)))

/-- The item whose version is to be preferred, the first of several equals. -/
def best? (version : α → Version) : List α → Option α
  | [] => none
  | a :: rest =>
    match best? version rest with
    | none => some a
    | some b => if before (version b) (version a) then some b else some a

end Version

end JobLauncher.Kube
