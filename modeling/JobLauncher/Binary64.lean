/-!
# Binary numbers and their shortest decimals

Numbers with a fraction are kept in the 64-bit binary format: a mantissa of at most 53 bits times a
power of two. A decimal is read as the nearest such number, and a number is written with the fewest
decimal digits that read back as it. Everything is done in exact natural number arithmetic.
-/

namespace JobLauncher

/-- A finite number of the 64-bit binary format, `mantissa * 2 ^ exponent` with a sign. -/
structure Binary64 where
  negative : Bool
  mantissa : Nat
  exponent : Int
  deriving DecidableEq, Repr

namespace Binary64

/-- The natural number nearest to `num / den`; of two at the same distance the even one. -/
def roundRatio (num den : Nat) : Nat :=
  let q := num / den
  let r := num % den
  if 2 * r > den ∨ (2 * r = den ∧ q % 2 = 1) then q + 1 else q

/-- `2 ^ e`; 1 if `e` is negative. -/
def twoTo (e : Int) : Nat := Nat.pow 2 e.toNat

/-- `10 ^ e`; 1 if `e` is negative. -/
def tenTo (e : Int) : Nat := Nat.pow 10 e.toNat

/-- `num / den` divided by `2 ^ e`, as a numerator and a denominator. -/
def scaleDown (num den : Nat) (e : Int) : Nat × Nat :=
  if 0 ≤ e then (num, den * twoTo e) else (num * twoTo (-e), den)

/-- The mantissa and exponent nearest to `num / den`, or none when that is past the largest finite
number. The exponent never goes below that of the smallest number. -/
def nearest? (num den : Nat) : Option (Nat × Int) :=
  if num = 0 then some (0, -1074)
  else
    let guess : Int := (Nat.log2 num : Int) - (Nat.log2 den : Int) - 52
    -- the guess is right or one too high
    let s := scaleDown num den guess
    let e := max (-1074) (if s.1 / s.2 < twoTo 52 then guess - 1 else guess)
    let s := scaleDown num den e
    let m := roundRatio s.1 s.2
    -- rounding up may give one digit more
    let r := if m = twoTo 53 then (twoTo 52, e + 1) else (m, e)
    if 971 < r.2 then none else some r

/-- The number nearest to `± digits * 10 ^ power`, or none when that is past the largest finite
number. Powers far outside the range are settled by the count of digits. -/
def ofDecimal? (negative : Bool) (digits : Nat) (power : Int) : Option Binary64 :=
  let size : Int := power + (Nat.toDigits 10 digits).length
  if digits = 0 ∨ size < -330 then some ⟨negative, 0, -1074⟩
  else if 320 < size then none
  else
    let found := if 0 ≤ power then nearest? (digits * tenTo power) 1
      else nearest? digits (tenTo (-power))
    found.map fun r => ⟨negative, r.1, r.2⟩

/-- Compares `a * 10 ^ x` with `b * 2 ^ y`. -/
def compareScaled (a : Nat) (x : Int) (b : Nat) (y : Int) : Ordering :=
  compare (a * tenTo x * twoTo (-y)) (b * twoTo y * tenTo (-x))

/-- A decimal `digits * 10 ^ power`. -/
structure Decimal where
  digits : Nat
  power : Int
  deriving DecidableEq, Repr

/-- `d` reads back as the number: it lies between the midpoints to the neighbours, ends included
when the mantissa is even. In quarters of the last place the upper midpoint is 2 away, and the lower
one too, or only 1 at a power of two. -/
def readsBack (v : Binary64) (d : Decimal) : Bool :=
  let m := v.mantissa
  let below := if m = twoTo 52 ∧ -1074 < v.exponent then 1 else 2
  let low := compareScaled d.digits d.power (4 * m - below) (v.exponent - 2)
  let high := compareScaled d.digits d.power (4 * m + 2) (v.exponent - 2)
  let even := m % 2 = 0
  (low == .gt || (low == .eq && even)) && (high == .lt || (high == .eq && even))

/-- The power of ten just above a positive number. -/
def magnitude (v : Binary64) : Int :=
  -- 400 places more make a whole number of the smallest one too
  let num := v.mantissa * twoTo v.exponent * tenTo 400
  (Nat.toDigits 10 (num / twoTo (-v.exponent))).length - 400

/-- The best decimal with `count` digits that reads back as the number, if there is one. -/
def withDigits? (v : Binary64) (count : Nat) : Option Decimal :=
  let power := v.magnitude - count
  let num := v.mantissa * twoTo v.exponent * tenTo (-power)
  let den := twoTo (-v.exponent) * tenTo power
  let lower : Decimal := ⟨num / den, power⟩
  let upper : Decimal := ⟨num / den + 1, power⟩
  match v.readsBack lower, v.readsBack upper with
  | true, true => some ⟨roundRatio num den, power⟩
  | true, false => some lower
  | false, true => some upper
  | false, false => none

/-- Moves trailing zeros of the digits into the power. -/
def Decimal.trimmed (d : Decimal) : Nat → Decimal
  | 0 => d
  | fuel + 1 =>
    if d.digits ≠ 0 ∧ d.digits % 10 = 0 then Decimal.trimmed ⟨d.digits / 10, d.power + 1⟩ fuel
    else d

/-- The shortest decimal of a number; 17 digits always suffice. -/
def shortest (v : Binary64) : Decimal :=
  if v.mantissa = 0 then ⟨0, 0⟩
  else
    let found := (List.range 17).findSome? fun i => v.withDigits? (i + 1)
    (found.getD ⟨0, 0⟩).trimmed 20

/-- The number as JSON text: positional from `1e-5` to below `1e16`, always with a point; outside
that with an exponent, which has a sign, and a point only where there is more than one digit. -/
def toText (v : Binary64) : String :=
  let d := v.shortest
  let ds := Nat.toDigits 10 d.digits
  let n : Int := ds.length
  let point : Int := n + d.power
  let body : List Char :=
    if v.mantissa = 0 then ['0', '.', '0']
    else if 0 ≤ d.power ∧ point ≤ 16 then ds ++ List.replicate d.power.toNat '0' ++ ['.', '0']
    else if 0 < point ∧ point ≤ 16 then ds.take point.toNat ++ ['.'] ++ ds.drop point.toNat
    else if -5 < point ∧ point ≤ 0 then ['0', '.'] ++ List.replicate (-point).toNat '0' ++ ds
    else
      let power := (if 0 < point then ['+'] else []) ++ (toString (point - 1)).toList
      match ds with
      | [c] => c :: 'e' :: power
      | c :: rest => c :: '.' :: rest ++ 'e' :: power
      | [] => []
  String.ofList (if v.negative then '-' :: body else body)

end Binary64

end JobLauncher
