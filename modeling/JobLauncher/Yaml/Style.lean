import JobLauncher.Json.Reader
import JobLauncher.Text.Cut
import JobLauncher.Yaml.Cursor

/-!
# Styles of YAML scalars

A text is written plain where it can be, and otherwise between quotes or as a block of lines. Plain
is out of the question for a text that would be read as something else: as null, a truth value or a
number (`isResolved`), or as part of the layout (`Features.of`). The four styles are tried in a
fixed order.
-/

namespace JobLauncher.Yaml

/-! ## Texts that are read as something else -/

/-- A text that stands for nothing. -/
def isNullText (s : String) : Bool := ["", "~", "null", "Null", "NULL"].contains s

/-- A text that stands for a truth value. -/
def isBoolText (s : String) : Bool :=
  ["true", "True", "TRUE", "false", "False", "FALSE"].contains s

/-- The value of digits in a base, if there are digits and nothing else. -/
def digitsIn? (base : Nat) (cs : List Char) : Option Nat :=
  if cs = [] then none
  else cs.foldl (fun n c => do
    let n ← n
    let d ← Json.hexValue? c
    if d < base then some (base * n + d) else none) (some 0)

/-- A number in base 16, 8 or 2, marked as such and at most `limit`. -/
def isMarkedNumber (limit : Nat) : List Char → Bool
  | '0' :: mark :: rest =>
    let base := if mark = 'x' then 16 else if mark = 'o' then 8 else if mark = 'b' then 2 else 0
    (digitsIn? base rest).any (· ≤ limit)
  | _ => false

/-- Digits with a zero in front of others: some take them for a number. -/
def isPadded : List Char → Bool
  | '0' :: c :: rest => (c :: rest).all Char.isDigit
  | _ => false

/-- The digits of a decimal and the power of ten that its last digit counts for. -/
def decimalParts? (cs : List Char) : Option (List Char × Int) :=
  let whole := cs.takeWhile Char.isDigit
  let rest := cs.dropWhile Char.isDigit
  let (tail, rest) := match rest with
    | '.' :: more => (more.takeWhile Char.isDigit, more.dropWhile Char.isDigit)
    | _ => ([], rest)
  let power (cs : List Char) : Option Int := match cs with
    | '-' :: cs => (digitsIn? 10 cs).map fun n => -(n : Int)
    | '+' :: cs => (digitsIn? 10 cs).map fun n => (n : Int)
    | cs => (digitsIn? 10 cs).map fun n => (n : Int)
  if whole ++ tail = [] then none
  else match rest with
    | [] => some (whole ++ tail, -(tail.length : Int))
    | e :: rest =>
      if e = 'e' ∨ e = 'E' then (power rest).map fun p => (whole ++ tail, p - tail.length)
      else none

/-- A decimal that is not past the largest finite number. -/
def isFiniteDecimal (cs : List Char) : Bool :=
  match decimalParts? cs with
  | some (digits, power) =>
    ((digitsIn? 10 digits).bind fun n => Binary64.ofDecimal? false n power).isSome
  | none => false

/-- The largest unsigned number of 128 bits, and the largest negation of a signed one. -/
def maxUnsigned : Nat := Nat.pow 2 128 - 1
def maxNegated : Nat := Nat.pow 2 127

/-- A text that stands for a number, or that some take for one. A sign may come before it, and
infinity has a plus or a minus. -/
def isNumberText (s : String) : Bool :=
  let infinities := [".inf", ".Inf", ".INF"]
  match s.toList with
  | '-' :: cs =>
    isMarkedNumber maxNegated cs || infinities.contains (String.ofList cs)
      || isPadded cs || isFiniteDecimal cs
  | '+' :: cs =>
    isMarkedNumber maxUnsigned cs || infinities.contains (String.ofList cs)
      || isPadded cs || isFiniteDecimal cs
  | cs =>
    isMarkedNumber maxUnsigned cs || infinities.contains s || [".nan", ".NaN", ".NAN"].contains s
      || isPadded cs || isFiniteDecimal cs

/-- A plain text that would not be read as a text. -/
def isResolved (s : String) : Bool := isNullText s || isBoolText s || isNumberText s

/-! ## Texts that disturb the layout -/

/-- A character that can be written as it is. -/
def isWritable (c : Char) : Bool :=
  let n := c.toNat
  n == 0x0A || (0x20 ≤ n && n ≤ 0x7E) || (0xA0 ≤ n && n ≠ 0xFEFF && n ≠ 0xFFFE && n ≠ 0xFFFF)

/-- A character that means something at the start of a plain scalar. -/
def isIndicator (c : Char) : Bool := "#,[]\x7b\x7d&*!|>\x27\"%@\x60".toList.contains c

/-- Somewhere after `before` the layout would be read from the text: at its start by an indicator,
later by a colon before a gap or a number sign after one. -/
def hasIndicator (before : Option Char) : List Char → Bool
  | [] => false
  | c :: rest =>
    let open_ := isGap rest.head?
    (match before with
      | none => isIndicator c || ((c == '?' || c == ':' || c == '-') && open_)
      | some b => (c == ':' && open_) || (c == '#' && isGap (some b)))
    || hasIndicator (some c) rest

/-- Two characters next to each other, the first of one sort and the second of another. -/
def hasPair (p q : Char → Bool) : List Char → Bool
  | a :: b :: rest => (p a && q b) || hasPair p q (b :: rest)
  | _ => false

def isSpace (c : Char) : Bool := c == ' '

/-- What there is in a text that a style has to cope with. -/
structure Features where
  /-- It goes over several lines. -/
  lines : Bool
  /-- Part of it would be read as layout. -/
  indicator : Bool
  /-- Some character cannot be written as it is. -/
  special : Bool
  /-- It begins or ends with a blank or a break. -/
  looseEnd : Bool
  trailingSpace : Bool
  /-- A blank right after a break, and one right before. -/
  breakSpace : Bool
  spaceBreak : Bool
  deriving DecidableEq, Repr

def Features.of (s : String) : Features :=
  let cs := s.toList
  let loose (c : Option Char) : Bool := c.any fun c => isSpace c || isBreak c
  let mark : Bool := Text.startsWith "---" s || Text.startsWith "..." s
  { lines := cs.any isBreak
    indicator := mark || hasIndicator none cs
    special := cs.any fun c => !isWritable c
    looseEnd := loose cs.head? || loose cs.getLast?
    trailingSpace := cs.getLast? == some ' '
    breakSpace := hasPair isBreak isSpace cs
    spaceBreak := hasPair isSpace isBreak cs }

namespace Features

def allowsPlain (f : Features) : Bool :=
  !f.lines && !f.indicator && !f.special && !f.looseEnd

def allowsSingle (f : Features) : Bool := !f.special && !f.breakSpace && !f.spaceBreak

def allowsBlock (f : Features) : Bool := !f.special && !f.trailingSpace && !f.spaceBreak

end Features

/-! ## Styles -/

inductive Style where
  | plain
  /-- Between apostrophes. -/
  | single
  /-- Between quotes, with escapes. -/
  | double
  /-- Lines as they are, below a bar. -/
  | literal
  deriving DecidableEq, Repr

/-- The style of a text. Several lines are written as a block if possible. -/
def Style.of (s : String) : Style :=
  let f := Features.of s
  if s.toList.contains '\n' then
    if f.allowsBlock then .literal else .double
  else if f.allowsPlain && !isResolved s then .plain
  else if f.allowsSingle then .single
  else .double

end JobLauncher.Yaml
