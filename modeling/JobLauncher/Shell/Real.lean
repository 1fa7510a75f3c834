import JobLauncher.Shell.Escape

/-!
# Real numbers

Numbers `m · 2 ^ e`, how they are read from text with 64 binary digits, and how they are laid out in
decimal. Every digit that is shown is a digit of the exact number, the last one rounded to nearest,
ties to even.
-/

namespace JobLauncher.Shell

/-- A number as a computer keeps it. -/
inductive Real where
  | finite (negative : Bool) (m : Nat) (e : Int)
  | infinite (negative : Bool)
  | nan (negative : Bool)
  deriving DecidableEq, Repr

namespace Real

/-- A quotient, rounded to the nearest whole number, a tie to the even one. -/
def divide (num den : Nat) : Nat :=
  let q := num / den
  let r := num % den
  if 2 * r < den then q
  else if den < 2 * r then q + 1
  else if q % 2 = 0 then q
  else q + 1

/-- The number of binary digits. -/
def bitLength (n : Nat) : Nat := if n = 0 then 0 else Nat.log2 n + 1

/-- How many binary digits are kept. -/
def precision : Nat := 64

/-- The nearest number with `bits` binary digits to a quotient. -/
def ofQuotient (bits : Nat) (negative : Bool) (num den : Nat) : Real :=
  if num = 0 then finite negative 0 0
  else
    -- scaled so that the quotient has one digit more than is kept, or two
    let shift : Int := (bits : Int) + 1 - ((bitLength num : Int) - bitLength den)
    let (n, d) : Nat × Nat :=
      if 0 ≤ shift then (num * Nat.pow 2 shift.toNat, den) else (num, den * Nat.pow 2 (-shift).toNat)
    let extra := bitLength (n / d) - bits
    let m := divide n (d * Nat.pow 2 extra)
    finite negative m ((extra : Int) - shift)

/-- The greatest binary exponent of a number that is finite. -/
def maxExponent : Int := 16384

/-- A number that is too great is infinite. -/
def limited (r : Real) : Real :=
  match r with
  | finite negative m e => if maxExponent < e + bitLength m then infinite negative else r
  | r => r

/-! ## Reading -/

/-- A decimal number: its digits as a whole number, and the power of ten. -/
def decimalDigits (cs : Bytes) : Option (Nat × Int × Bytes) :=
  let whole := cs.takeWhile Char.isDigit
  let rest := cs.drop whole.length
  let (fraction, rest) := match rest with
    | '.' :: more => let f := more.takeWhile Char.isDigit; (f, more.drop f.length)
    | rest => ([], rest)
  if whole = [] ∧ fraction = [] then none
  else
    let m := ((natural? (whole ++ fraction)).getD 0)
    let (power, rest) := exponent 'e' rest
    some (m, power - fraction.length, rest)
where
  /-- A power after a letter, if there is one. -/
  exponent (letter : Char) (cs : Bytes) : Int × Bytes :=
    match cs with
    | c :: rest =>
      if c.toLower = letter then
        let (negative, digits) := match rest with
          | '-' :: ds => (true, ds)
          | '+' :: ds => (false, ds)
          | ds => (false, ds)
        let ds := digits.takeWhile Char.isDigit
        match natural? ds with
        | some n => (if negative then -(n : Int) else n, digits.drop ds.length)
        | none => (0, cs)
      else (0, cs)
    | [] => (0, [])

/-- A number in base 16: its digits as a whole number, and the power of two. -/
def hexDigits (cs : Bytes) : Option (Nat × Int × Bytes) :=
  let whole := cs.takeWhile isHexDigit
  let rest := cs.drop whole.length
  let (fraction, rest) := match rest with
    | '.' :: more => let f := more.takeWhile isHexDigit; (f, more.drop f.length)
    | rest => ([], rest)
  if whole = [] ∧ fraction = [] then none
  else
    let m := valueIn 16 (digits 16 (whole ++ fraction).length (whole ++ fraction)).1
    let (power, rest) := decimalDigits.exponent 'p' rest
    some (m, power - 4 * (fraction.length : Int), rest)

/-- No power of ten beyond this makes a difference. -/
def maxPower : Int := 6000

/-- The number `m · 10 ^ power` with so many binary digits. -/
def ofDecimal (bits : Nat) (negative : Bool) (m : Nat) (power : Int) : Real :=
  let power := max (-maxPower) (min maxPower power)
  if 0 ≤ power then ofQuotient bits negative (m * Nat.pow 10 power.toNat) 1
  else ofQuotient bits negative m (Nat.pow 10 (-power).toNat)

/-- The number that a text begins with, and what follows. -/
def read? (cs : Bytes) : Option (Real × Bytes) :=
  let cs := skipSpace cs
  let (negative, cs) := match cs with
    | '-' :: rest => (true, rest)
    | '+' :: rest => (false, rest)
    | rest => (false, rest)
  let lower := cs.map Char.toLower
  if (bytes "infinity").isPrefixOf lower then some (infinite negative, cs.drop 8)
  else if (bytes "inf").isPrefixOf lower then some (infinite negative, cs.drop 3)
  else if (bytes "nan").isPrefixOf lower then some (nan negative, cs.drop 3)
  else
    match cs with
    | '0' :: x :: rest =>
      if x = 'x' ∨ x = 'X' then
        match hexDigits rest with
        | some (m, power, rest) => some (limited (finite negative m power), rest)
        | none => some (finite negative 0 0, x :: rest)
      else ofDigits negative cs
    | _ => ofDigits negative cs
where
  ofDigits (negative : Bool) (cs : Bytes) : Option (Real × Bytes) :=
    (decimalDigits cs).map fun (m, power, rest) =>
      (limited (ofDecimal precision negative m power), rest)

/-! ## Writing -/

/-- The nearest whole number to `m · 2 ^ e · 10 ^ power`. -/
def scaled (m : Nat) (e power : Int) : Nat :=
  let num := m * Nat.pow 2 e.toNat * Nat.pow 10 power.toNat
  let den := Nat.pow 2 (-e).toNat * Nat.pow 10 (-power).toNat
  divide num den

/-- Digits with a point before the last `places`, which are not there if they are none unless
`marked`. -/
def pointed (marked : Bool) (places n : Nat) : Bytes :=
  let ds := padLeft '0' (places + 1) (decimal n)
  let whole := ds.take (ds.length - places)
  let fraction := ds.drop (ds.length - places)
  if places = 0 then if marked then whole ++ ['.'] else whole else whole ++ '.' :: fraction

/-- A number with so many places after the point. -/
def fixed (marked : Bool) (places m : Nat) (e : Int) : Bytes :=
  pointed marked places (scaled m e places)

/-- Whether `m · 2 ^ e` is at least `10 ^ power`. -/
def atLeast (m : Nat) (e power : Int) : Bool :=
  Nat.pow 10 power.toNat * Nat.pow 2 (-e).toNat ≤ m * Nat.pow 2 e.toNat * Nat.pow 10 (-power).toNat

/-- The decimal exponent of a number that is not zero. -/
def exponentOf (m : Nat) (e : Int) : Int :=
  -- an estimate from below, corrected step by step
  let binary := e + bitLength m - 1
  let low := binary * 30103 / 100000 - 2
  go 8 low
where
  go : Nat → Int → Int
    | 0, p => p
    | fuel + 1, p => if atLeast m e (p + 1) then go fuel (p + 1) else p

/-- The digits of a number with so many places after the first, and its exponent. -/
def significant (places m : Nat) (e : Int) : Nat × Int :=
  if m = 0 then (0, 0)
  else
    let x := exponentOf m e
    let n := scaled m e ((places : Int) - x)
    if n = Nat.pow 10 (places + 1) then (Nat.pow 10 places, x + 1) else (n, x)

/-- An exponent, with at least two digits. -/
def exponentText (letter : Char) (x : Int) : Bytes :=
  [letter, if x < 0 then '-' else '+'] ++ padLeft '0' 2 (decimal x.natAbs)

/-- A number with an exponent. -/
def scientific (marked : Bool) (places m : Nat) (e : Int) : Bytes :=
  let (n, x) := significant places m e
  pointed marked places n ++ exponentText 'e' x

/-- Digits after a point without the zeros at their end. -/
def withoutZeros (t : Bytes) : Bytes :=
  if t.contains '.' then
    let t := (t.reverse.dropWhile (· = '0')).reverse
    if t.getLast? = some '.' then t.dropLast else t
  else t

/-- A number with so many digits that count, with an exponent if it is far from one. -/
def general (marked : Bool) (count m : Nat) (e : Int) : Bytes :=
  let count := max count 1
  let (n, x) := significant (count - 1) m e
  let trim (t : Bytes) : Bytes := if marked then t else withoutZeros t
  if x < -4 ∨ (count : Int) ≤ x then
    trim (pointed marked (count - 1) n) ++ exponentText 'e' x
  else
    let places := ((count : Int) - 1 - x).toNat
    trim (fixed marked places m e)

/-- A number in base 16, with four binary digits before the point. -/
def hexadecimal (marked : Bool) (places : Option Nat) (m : Nat) (e : Int) : Bytes :=
  if m = 0 then bytes "0x0" ++ point (List.replicate (places.getD 0) '0') ++ bytes "p+0"
  else
    let shift := precision - bitLength m
    let m := m * Nat.pow 2 shift
    let e := e - shift + (precision - 4 : Nat)
    let (m, width) := match places with
      | some p => if p < 15 then (divide m (Nat.pow 16 (15 - p)), p) else (m, 15)
      | none => (m, 15)
    let ds := Nat.toDigits 16 m
    let (ds, e) := if width + 1 < ds.length then (ds.dropLast, e + 4) else (ds, e)
    let fraction := ds.drop 1
    let fraction := match places with
      | some p => padRight '0' p fraction
      | none => (fraction.reverse.dropWhile (· = '0')).reverse
    bytes "0x" ++ ds.take 1 ++ point fraction ++ ['p', if e < 0 then '-' else '+'] ++ decimal e.natAbs
where
  point (fraction : Bytes) : Bytes :=
    if fraction = [] then if marked then ['.'] else [] else '.' :: fraction

/-- The text of a number without its sign, as a letter asks for it. -/
def text (letter : Char) (marked : Bool) (places : Option Nat) : Real → Bytes
  | infinite _ => bytes "inf"
  | nan _ => bytes "nan"
  | finite _ m e =>
    match letter with
    | 'f' => fixed marked (places.getD 6) m e
    | 'e' => scientific marked (places.getD 6) m e
    | 'a' => hexadecimal marked places m e
    | _ => general marked (places.getD 6) m e

def isNegative : Real → Bool
  | finite n _ _ | infinite n | nan n => n

def isFinite : Real → Bool
  | finite .. => true
  | _ => false

end Real

end JobLauncher.Shell
