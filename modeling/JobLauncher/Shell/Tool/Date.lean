import JobLauncher.Shell.Calendar
import JobLauncher.Shell.Tool.Basic

/-!
# Dates

`date` shows a moment in a format. Which moment that is can be said by a number of seconds, or by
words: a date, a time of day, and how far from there.
-/

namespace JobLauncher.Shell.Tool.Date

/-- The moment that stands for now. -/
def now : Int := 1700000000

/-- What words say about a moment. -/
structure Description where
  date : Option (Int × Nat × Nat) := none
  /-- Seconds of the day. -/
  time : Option Nat := none
  month : Option Nat := none
  /-- Numbers that stand for themselves: a day, a year. -/
  numbers : List Nat := []
  months : Int := 0
  days : Int := 0
  seconds : Int := 0

/-- The place of a name in a list, of which three letters are enough. -/
def named? (names : List String) (t : Bytes) : Option Nat :=
  if t.length < 3 then none
  else names.findIdx? fun name => t.isPrefixOf (name.toList.map Char.toLower)

/-- The seconds that a time of day has. -/
def time? (t : Bytes) : Option Nat := do
  let t := if t.getLast? = some 'z' then t.dropLast else t
  let parts ← (splitAt ':' t).mapM fun p => natural? (p.takeWhile (· ≠ '.'))
  match parts with
  | [h, m] => if h < 24 ∧ m < 60 then some (3600 * h + 60 * m) else none
  | [h, m, s] => if h < 24 ∧ m < 60 ∧ s < 61 then some (3600 * h + 60 * m + s) else none
  | _ => none

/-- A date by its numbers, if there is such a day. -/
def day? (year : Int) (month day : Nat) : Option (Int × Nat × Nat) := do
  guard (1 ≤ month)
  let length ← (Moment.monthLengths year)[month - 1]?
  if 1 ≤ day ∧ day ≤ length then some (year, month, day) else none

/-- The date that digits with dashes or slashes, or eight digits, write. -/
def date? (t : Bytes) : Option (Int × Nat × Nat) :=
  match (splitAt '-' t).mapM natural?, (splitAt '/' t).mapM natural? with
  | some [y, m, d], _ => day? y m d
  | _, some [m, d, y] => day? y m d
  | some [n], _ =>
    if t.length = 8 then day? (n / 10000 : Nat) (n / 100 % 100) (n % 100) else none
  | _, _ => none

/-- Adds some units to a description. -/
def Description.add (d : Description) (n : Int) (unit : Bytes) : Option Description :=
  let unit := if unit.getLast? = some 's' ∧ 3 < unit.length then unit.dropLast else unit
  match textOfBytes unit with
  | "sec" | "second" => some { d with seconds := d.seconds + n }
  | "min" | "minute" => some { d with seconds := d.seconds + 60 * n }
  | "hour" => some { d with seconds := d.seconds + 3600 * n }
  | "day" => some { d with days := d.days + n }
  | "week" => some { d with days := d.days + 7 * n }
  | "fortnight" => some { d with days := d.days + 14 * n }
  | "month" => some { d with months := d.months + n }
  | "year" => some { d with months := d.months + 12 * n }
  | _ => none

/-- Reads the words of a description. -/
def describe : Nat → Description → List Bytes → Option Description
  | 0, _, _ => none
  | _, d, [] => some d
  | fuel + 1, d, w :: rest =>
    let signed : Option Int := match w with
      | '+' :: ds => (natural? ds).map fun n => (n : Int)
      | '-' :: ds => (natural? ds).map fun n => -(n : Int)
      | ds => (natural? ds).map fun n => (n : Int)
    let step (n : Int) (unit : Bytes) (after : List Bytes) : Option Description := do
      let (n, after) := match after with
        | a :: more => if a = bytes "ago" then (-n, more) else (n, after)
        | [] => (n, after)
      describe fuel (← d.add n unit) after
    let relative : Option Description := match signed, rest with
      | some n, unit :: after => step n unit after
      | _, _ => none
    relative.or <|
      match textOfBytes w with
      | "now" | "today" | "utc" | "gmt" | "z" | "at" | "on" | "," => describe fuel d rest
      | "yesterday" => describe fuel { d with days := d.days - 1 } rest
      | "tomorrow" => describe fuel { d with days := d.days + 1 } rest
      | "midnight" => describe fuel { d with time := some 0 } rest
      | "noon" => describe fuel { d with time := some 43200 } rest
      | "next" => match rest with
        | unit :: after => step 1 unit after
        | [] => none
      | "last" => match rest with
        | unit :: after => step (-1) unit after
        | [] => none
      | _ =>
        let stamp : Option Description := match splitAt 't' w with
          | [a, b] => do return { d with date := some (← date? a), time := some (← time? b) }
          | _ => none
        let found : Option Description :=
          ((date? w).map fun x => { d with date := some x })
            |>.or ((time? w).map fun x => { d with time := some x })
            |>.or stamp
            |>.or ((named? Moment.months w).map fun i => { d with month := some (i + 1) })
            |>.or ((named? Moment.weekdays w).map fun _ => d)
            |>.or ((natural? w).map fun n => { d with numbers := d.numbers ++ [n] })
        found.bind fun d => describe fuel d rest

/-- The seconds of a moment that a description means. -/
def Description.seconds? (d : Description) : Option Int := do
  let today := Moment.ofSeconds now
  let isPlain := d.date.isNone && d.month.isNone
  let (year, month, day) ← match d.date, d.month, d.numbers with
    | some x, _, [] => some x
    | none, some m, [n] => if n ≤ 31 then day? today.year m n else day? n m 1
    | none, some m, [a, b] => if a ≤ 31 then day? b m a else day? a m b
    | none, some m, [] => day? today.year m 1
    | none, none, [] => some (today.year, today.month, today.day)
    | _, _, _ => none
  let usual : Nat := if isPlain && (d.months ≠ 0 || d.days ≠ 0 || d.seconds ≠ 0 || d.time.isNone) then
      (now % 86400).toNat else 0
  let n : Int := year * 12 + (month - 1 : Nat) + d.months
  let year := n / 12
  let before := ((Moment.monthLengths year).take (n % 12).toNat).foldl (· + ·) 0
  let days : Int := Moment.daysBefore year + (before + day - 1 : Nat) + d.days
  return days * 86400 + Int.ofNat (d.time.getD usual) + d.seconds

/-- The moment that a text means: seconds, and their fraction. -/
def ofText? (t : Bytes) : Option (Int × Bytes) :=
  match t.dropWhile isBlank with
  | '@' :: rest =>
    let (negative, digits) := match rest with
      | '-' :: ds => (true, ds)
      | ds => (false, ds)
    let whole := digits.takeWhile Char.isDigit
    let fraction := (digits.drop whole.length).drop 1
    (natural? whole).bind fun n =>
      if fraction.all Char.isDigit then some (if negative then -(n : Int) else n, fraction) else none
  | [] => some (now / 86400 * 86400, [])
  | t =>
    let words := ((t.map Char.toLower).splitOnP isBlank).filter (· ≠ [])
    ((describe (2 * words.length + 2) {} words).bind Description.seconds?).map ((·, []))

/-- The text of a moment in a format in which numbers may be written without what fills them up. -/
def formatted (m : Moment) (fraction : Bytes) : Nat → Bytes → Bytes
  | 0, _ => []
  | fuel + 1, '%' :: '-' :: c :: rest =>
    let t := m.format ['%', c]
    let bare := t.dropWhile fun d => d = '0' ∨ d = ' '
    (if bare = [] then ['0'] else bare) ++ formatted m fraction fuel rest
  | fuel + 1, '%' :: '_' :: c :: rest =>
    let t := m.format ['%', c]
    padLeft ' ' t.length (t.dropWhile (· = '0')) ++ formatted m fraction fuel rest
  | fuel + 1, '%' :: '^' :: c :: rest =>
    (m.format ['%', c]).map Char.toUpper ++ formatted m fraction fuel rest
  | fuel + 1, '%' :: ':' :: 'z' :: rest => bytes "+00:00" ++ formatted m fraction fuel rest
  | fuel + 1, '%' :: 'N' :: rest =>
    padRight '0' 9 (fraction.take 9) ++ formatted m fraction fuel rest
  | fuel + 1, '%' :: '3' :: 'N' :: rest =>
    padRight '0' 3 (fraction.take 3) ++ formatted m fraction fuel rest
  | fuel + 1, '%' :: c :: rest => m.format ['%', c] ++ formatted m fraction fuel rest
  | fuel + 1, c :: rest => c :: formatted m fraction fuel rest
  | _, [] => []

/-- Shows a moment. -/
def date : Program := fun _ args =>
  let options : Options :=
    { letters := "uRI", valued := "dsrf@%"
      long := [("utc", 'u'), ("universal", 'u'), ("rfc-email", 'R'), ("date", 'd'), ("set", 's'),
        ("reference", 'r'), ("iso-8601", '@'), ("rfc-3339", '%')] }
  -- how exact a date is may be left out
  let args := args.map fun a => match a with
    | '-' :: 'I' :: unit => bytes "--iso-8601=" ++ if unit = [] then bytes "date" else unit
    | a => if a = bytes "--iso-8601" then bytes "--iso-8601=date" else a
  withGiven "date" options 1 args fun g => do
    let moment := match g.value? 'd' with
      | none => some (now, [])
      | some t => ofText? t
    match g.operands, moment with
    | _ :: extra :: _, _ => misuse 1 "date" (bytes "extra operand " ++ quoted extra)
    | _, none => refuse 1 "date" (bytes "invalid date " ++ quoted ((g.value? 'd').getD []))
    | operands, some (seconds, fraction) =>
      let zone := bytes "%:z"
      let usual : Bytes :=
        if g.has 'R' then bytes "%a, %d %b %Y %H:%M:%S %z"
        else match (g.value? '@').map textOfBytes, (g.value? '%').map textOfBytes with
          | some "date", _ | _, some "date" => bytes "%Y-%m-%d"
          | some "hours", _ => bytes "%Y-%m-%dT%H" ++ zone
          | some "minutes", _ => bytes "%Y-%m-%dT%H:%M" ++ zone
          | some _, _ => bytes "%Y-%m-%dT%H:%M:%S" ++ zone
          | _, some _ => bytes "%Y-%m-%d %H:%M:%S" ++ zone
          | none, none => bytes "%a %b %e %H:%M:%S %Z %Y"
      let show_ (f : Bytes) : Act Unit := do
        setStatus 0
        output "date" (formatted (.ofSeconds seconds) fraction (f.length + 1) f ++ ['\n'])
      match operands with
      | ('+' :: f) :: _ => show_ f
      | t :: _ => refuse 1 "date" (bytes "invalid date " ++ quoted t)
      | [] => show_ usual

end JobLauncher.Shell.Tool.Date
