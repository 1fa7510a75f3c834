import JobLauncher.Shell.Regex
import JobLauncher.Shell.Tool.Basic

/-!
# Numbers

Tools that count up, work expressions out and take numbers to pieces.
-/

namespace JobLauncher.Shell.Tool.Numbers

/-! ## Sequences -/

/-- A decimal number: so many units of a negative power of ten. -/
structure Decimal where
  units : Int
  places : Nat
  /-- How wide it is written. -/
  width : Nat
  deriving DecidableEq, Repr

/-- The number in units of a smaller power. -/
def Decimal.scaled (d : Decimal) (places : Nat) : Int :=
  d.units * (Nat.pow 10 (places - d.places) : Nat)

/-- The number that a text is; none if it is no number. -/
def decimal? (t : Bytes) : Option Decimal := do
  let body := skipSpace t
  let (negative, digits) := match body with
    | '-' :: rest => (true, rest)
    | '+' :: rest => (false, rest)
    | rest => (false, rest)
  let signed (n : Nat) : Int := if negative then -(n : Int) else n
  match digits with
  | '0' :: x :: rest =>
    if x = 'x' ∨ x = 'X' then
      guard (rest ≠ [] && rest.all isHexDigit)
      let n := rest.foldl (fun n c => 16 * n + hexValue c) 0
      return { units := signed n, places := 0, width := body.length }
    else plain signed negative body digits
  | digits => plain signed negative body digits
where
  hexValue (c : Char) : Nat := if c.isDigit then c.toNat - '0'.toNat else c.toLower.toNat - 'a'.toNat + 10
  /-- Reads digits with a point and an exponent. -/
  plain (signed : Nat → Int) (negative : Bool) (body digits : Bytes) : Option Decimal := do
    let whole := digits.takeWhile Char.isDigit
    let rest := digits.drop whole.length
    let (fraction, rest) := match rest with
      | '.' :: more => let ds := more.takeWhile Char.isDigit; (ds, more.drop ds.length)
      | rest => ([], rest)
    guard (whole ≠ [] ∨ fraction ≠ [])
    let exponent : Int ← match rest with
      | [] => some 0
      | e :: more =>
        if e = 'e' ∨ e = 'E' then
          match more with
          | '-' :: ds => (natural? ds).map fun n => -(n : Int)
          | '+' :: ds => (natural? ds).map fun n => (n : Int)
          | ds => (natural? ds).map fun n => (n : Int)
        else none
    let n ← natural? (whole ++ fraction)
    let places := (fraction.length : Int) - exponent
    let places' := places.toNat
    let n := n * Nat.pow 10 (-places).toNat
    let width := if exponent = 0 then body.length
      else (if negative then 1 else 0) + (decimal (n / Nat.pow 10 places')).length
        + (if places' = 0 then 0 else places' + 1)
    return { units := signed n, places := places', width }

/-- A number of units with so many places. -/
def fixed (units : Int) (places : Nat) : Bytes :=
  let n := units.natAbs
  let scale := Nat.pow 10 places
  (if units < 0 then ['-'] else []) ++ decimal (n / scale)
    ++ if places = 0 then [] else '.' :: padLeft '0' places (decimal (n % scale))

/-- Fills a number up with zeros after its sign. -/
def zeroFilled (width : Nat) (t : Bytes) : Bytes :=
  match t with
  | '-' :: digits => '-' :: padLeft '0' (width - 1) digits
  | digits => padLeft '0' width digits

/-- What is wrong with a format for one number. -/
def formatFault? (f : Bytes) : Option Bytes :=
  let shown := quoted f
  go shown (f.length + 1) 0 f
where
  go (shown : Bytes) : Nat → Nat → Bytes → Option Bytes
    | 0, _, _ => none
    | _, n, [] => if n = 0 then some (bytes "format " ++ shown ++ bytes " has no % directive") else none
    | fuel + 1, n, '%' :: '%' :: rest => go shown fuel n rest
    | fuel + 1, n, '%' :: rest =>
      if 0 < n then some (bytes "format " ++ shown ++ bytes " has too many % directives")
      else
        let rest := rest.dropWhile fun c => "-+#0 '".toList.contains c
        let rest := rest.dropWhile Char.isDigit
        let rest := match rest with
          | '.' :: more => more.dropWhile Char.isDigit
          | rest => rest
        let rest := if rest.head? = some 'L' then rest.tail else rest
        match rest with
        | [] => some (bytes "format " ++ shown ++ bytes " ends in %")
        | c :: rest =>
          if "efgaEFGA".toList.contains c then go shown fuel (n + 1) rest
          else some (bytes "format " ++ shown ++ bytes " has unknown %" ++ [c] ++ bytes " directive")
    | fuel + 1, n, _ :: rest => go shown fuel n rest

/-- How many numbers are written at most. -/
def mostNumbers : Nat := 2000000

/-- Writes the numbers from one to another. -/
def seq : Program := fun _ args =>
  let options : Options :=
    { letters := "w", valued := "fs", anywhere := false
      long := [("equal-width", 'w'), ("format", 'f'), ("separator", 's')] }
  -- a number below zero is no option
  let isNumber (a : Bytes) : Bool := match a with
    | '-' :: c :: _ => c.isDigit || c = '.'
    | _ => false
  let args := match args.findIdx? isNumber with
    | some i => args.take i ++ [['-', '-']] ++ args.drop i
    | none => args
  withGiven "seq" options 1 args fun g => do
    let bad (t : Bytes) : Act Unit := misuse 1 "seq" t
    match g.operands.filter (· ≠ ['-', '-']) with
    | [] => bad (bytes "missing operand")
    | _ :: _ :: _ :: extra :: _ => bad (bytes "extra operand " ++ quoted extra)
    | operands =>
      let wrong := operands.find? fun t => (decimal? t).isNone
      match wrong with
      | some t =>
        if t.map Char.toLower = bytes "nan" then
          bad (bytes "invalid 'not-a-number' argument: " ++ quoted t)
        else bad (bytes "invalid floating point argument: " ++ quoted t)
      | none =>
        let one : Decimal := { units := 1, places := 0, width := 1 }
        let (first, step, last) := match operands.filterMap decimal? with
          | [last] => (one, one, last)
          | [first, last] => (first, one, last)
          | [first, step, last] => (first, step, last)
          | _ => (one, one, one)
        if step.units = 0 then
          bad (bytes "invalid Zero increment value: " ++ quoted (operands.getD 1 []))
        else
          match (g.value? 'f').bind formatFault? with
          | some e => refuse 1 "seq" e
          | none =>
            let places := max first.places step.places
            let exact := max places last.places
            let a := first.scaled exact
            let s := step.scaled exact
            let z := last.scaled exact
            let count := if 0 < s then (if z < a then 0 else ((z - a) / s).toNat + 1)
              else if a < z then 0 else ((a - z) / (-s)).toNat + 1
            let shrink := Nat.pow 10 (exact - places)
            let widthOf (d : Decimal) : Nat :=
              d.width + (places - d.places) + (if d.places = 0 ∧ 0 < places then 1 else 0)
                - (if 0 < d.places ∧ places = 0 then d.places + 1 else 0)
            let width := max (widthOf first) (widthOf last)
            let shown (i : Nat) : Bytes :=
              let t := fixed ((a + i * s) / shrink) places
              match g.value? 'f' with
              | some f => (Printf.format .tool f [t]).output
              | none => if g.has 'w' then zeroFilled width t else t
            let mark := (g.value? 's').getD ['\n']
            let numbers := (List.range (min count mostNumbers)).map shown
            setStatus 0
            if count ≠ 0 then output "seq" (List.intercalate mark numbers ++ ['\n'])

/-! ## Factors -/

/-- The prime factors of a number from one on, in their order. -/
def factors : Nat → Nat → Nat → List Nat
  | 0, _, n => if n = 1 then [] else [n]
  | fuel + 1, d, n =>
    if n < d * d then (if n ≤ 1 then [] else [n])
    else if n % d = 0 then d :: factors fuel d (n / d)
    else factors fuel (if d = 2 then 3 else d + 2) n

/-- How many divisors are tried. -/
def mostDivisors : Nat := 10000000

/-- Writes the prime factors of numbers. -/
def factor : Program := fun _ args =>
  withGiven "factor" { letters := "h", long := [("exponents", 'h')] } 1 args fun g => do
    let words ← if g.operands = [] then
        pure (((← readInput).splitOnP isSpaceByte).filter (· ≠ []))
      else pure g.operands
    setStatus 0
    for word in words do
      match natural? (if word.head? = some '+' then word.tail else word) with
      | some n =>
        put (decimal n ++ [':'] ++ (factors mostDivisors 2 n).flatMap (fun p => ' ' :: decimal p)
          ++ ['\n'])
      | none => refuse 1 "factor" (quoted word ++ bytes " is not a valid positive integer")

/-! ## Expressions -/

namespace Expr

/-- Why an expression has no value. -/
inductive Fault where
  | missingAfter (t : Bytes)
  | unexpected (t : Bytes)
  | closeMissing (after : Bytes)
  | closeInstead (t : Bytes)
  | closeUnexpected
  | noInteger
  | divisionByZero
  | pattern (f : Regex.Fault)
  deriving DecidableEq, Repr

def Fault.message : Fault → Bytes
  | missingAfter t => bytes "syntax error: missing argument after " ++ quoted t
  | unexpected t => bytes "syntax error: unexpected argument " ++ quoted t
  | closeMissing t => bytes "syntax error: expecting ')' after " ++ quoted t
  | closeInstead t => bytes "syntax error: expecting ')' instead of " ++ quoted t
  | closeUnexpected => bytes "syntax error: unexpected ')'"
  | noInteger => bytes "non-integer argument"
  | divisionByZero => bytes "division by zero"
  | pattern f => bytes f.message

/-- The arguments that are left, and the one before them. -/
structure Rest where
  args : List Bytes
  before : Bytes := []

abbrev Reader := StateT Rest (Except Fault)

def fail (f : Fault) : Reader α := throw f

/-- Passes over the next argument if it is one of some. -/
def accept? (words : List String) : Reader (Option String) := do
  match (← get).args with
  | [] => return none
  | a :: rest =>
    match words.find? fun w => bytes w = a with
    | some w =>
      set ({ args := rest, before := a } : Rest)
      return some w
    | none => return none

/-- The next argument. -/
def next : Reader Bytes := do
  let s ← get
  match s.args with
  | [] => fail (.missingAfter s.before)
  | a :: rest =>
    set ({ args := rest, before := a } : Rest)
    return a

/-- The whole number that a text is. -/
def integer? (t : Bytes) : Option Int :=
  match t with
  | '-' :: ds => (natural? ds).map fun n => -(n : Int)
  | ds => (natural? ds).map fun n => (n : Int)

/-- Whether a value counts as none: an empty text or zero. -/
def isNull (t : Bytes) : Bool := t = [] || integer? t == some 0

def truth (b : Bool) : Bytes := if b then ['1'] else ['0']

/-- The part of a text that an expression matches at its beginning, or how long it is. -/
def matched (t p : Bytes) : Reader Bytes :=
  match Regex.parse false p with
  | .error f => fail (.pattern f)
  | .ok (r, groups) =>
    let s : Regex.Subject := { chars := t.toArray }
    match r.matchAt s 0 with
    | some m => return if groups = 0 then decimal m.finish else (m.group? s 1).getD []
    | none => return if groups = 0 then ['0'] else []

/-- Compares two values: as numbers if both are. -/
def compared (op : String) (a b : Bytes) : Bool :=
  let order := match integer? a, integer? b with
    | some m, some n => compare m n
    | _, _ => compareOfLessAndEq a b
  match op with
  | "<" => order == .lt
  | "<=" => order != .gt
  | "=" | "==" => order == .eq
  | "!=" => order != .eq
  | ">=" => order != .lt
  | _ => order == .gt

/-- The value of an operation on numbers; nothing is worked out unless it is asked for. -/
def worked (active : Bool) (op : String) (a b : Bytes) : Reader Bytes := do
  if !active then return ['0']
  match integer? a, integer? b with
  | some m, some n =>
    match op with
    | "+" => return integer (m + n)
    | "-" => return integer (m - n)
    | "*" => return integer (m * n)
    | "/" => if n = 0 then fail .divisionByZero else return integer (m.tdiv n)
    | _ => if n = 0 then fail .divisionByZero else return integer (m.tmod n)
  | _, _ => fail .noInteger

/-- The operators by how tightly they bind, the loosest first. -/
def levels : List (List String) :=
  [["|"], ["&"], ["<", "<=", "=", "==", "!=", ">=", ">"], ["+", "-"], ["*", "/", "%"], [":"]]

mutual

/-- Reads and works out what operators of a level join. -/
def level : Nat → Nat → Bool → Reader Bytes
  | 0, _, _ => return []
  | fuel + 1, n, active => do
    if levels.length ≤ n then primary fuel active
    else
      let a ← level fuel (n + 1) active
      more fuel n active a

/-- Goes on after a first operand. -/
def more : Nat → Nat → Bool → Bytes → Reader Bytes
  | 0, _, _, a => return a
  | fuel + 1, n, active, a => do
    match ← accept? (levels.getD n []) with
    | none => return a
    | some op =>
      let wanted := match op with
        | "|" => active && isNull a
        | "&" => active && !isNull a
        | _ => active
      let b ← level fuel (n + 1) wanted
      let value ← match op with
        | "|" => pure (if isNull a then (if isNull b then ['0'] else b) else a)
        | "&" => pure (if isNull a || isNull b then ['0'] else a)
        | ":" => if active then matched a b else pure []
        | op =>
          if (levels.getD 2 []).contains op then pure (truth (compared op a b))
          else worked active op a b
      more fuel n active value

/-- Reads what is no operation with two sides. -/
def primary : Nat → Bool → Reader Bytes
  | 0, _ => return []
  | fuel + 1, active => do
    match ← accept? ["+", "length", "match", "index", "substr", "(", ")"] with
    | some "+" => next
    | some "length" => return decimal (← primary fuel active).length
    | some "match" =>
      let a ← primary fuel active
      let b ← primary fuel active
      if active then matched a b else return []
    | some "index" =>
      let a ← primary fuel active
      let b ← primary fuel active
      return decimal (((a.findIdx? b.contains).map (· + 1)).getD 0)
    | some "substr" =>
      let a ← primary fuel active
      let start ← primary fuel active
      let count ← primary fuel active
      match integer? start, integer? count with
      | some s, some n =>
        return if s ≤ 0 ∨ n ≤ 0 then [] else (a.drop (s.toNat - 1)).take n.toNat
      | _, _ => return []
    | some "(" =>
      let a ← level fuel 0 active
      let s ← get
      match s.args with
      | [] => fail (.closeMissing s.before)
      | c :: rest =>
        if c = [')'] then
          set ({ args := rest, before := c } : Rest)
          return a
        else fail (.closeInstead c)
    | some _ => fail .closeUnexpected
    | none => next

end

/-- The value of an expression. -/
def value (args : List Bytes) : Except Fault Bytes := do
  let (a, s) ← (level (8 * args.length + 16) 0 true).run { args }
  match s.args with
  | [] => return a
  | [')'] :: _ => throw .closeUnexpected
  | t :: _ => throw (.unexpected t)

end Expr

/-- Works an expression out. -/
def expr : Program := fun _ args => do
  let args := if args.head? = some ['-', '-'] then args.tail else args
  if args = [] then misuse 2 "expr" (bytes "missing operand")
  else
    match Expr.value args with
    | .error f => refuse 2 "expr" f.message
    | .ok t =>
      output "expr" (t ++ ['\n'])
      setStatus (if Expr.isNull t then 1 else 0)

end JobLauncher.Shell.Tool.Numbers
