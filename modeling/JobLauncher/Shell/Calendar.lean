import JobLauncher.Shell.Bytes

/-!
# Calendar

The date and the time of day of a number of seconds since the beginning of 1970, and the text of
both in a format.
-/

namespace JobLauncher.Shell

/-- A date and a time of day. -/
structure Moment where
  year : Int
  month : Nat
  day : Nat
  hour : Nat
  minute : Nat
  second : Nat
  /-- Counted from Sunday. -/
  weekday : Nat
  /-- Counted from the first of January, which is zero. -/
  yearDay : Nat
  seconds : Int
  deriving Repr

namespace Moment

def weekdays : List String :=
  ["Sunday", "Monday", "Tuesday", "Wednesday", "Thursday", "Friday", "Saturday"]

def months : List String :=
  ["January", "February", "March", "April", "May", "June", "July", "August", "September",
    "October", "November", "December"]

def isLeap (year : Int) : Bool := year % 4 = 0 && (year % 100 ≠ 0 || year % 400 = 0)

/-- The number of days before a year, counted from 1970. -/
def daysBefore (year : Int) : Int :=
  let y := year - 1
  365 * (year - 1970) + (y / 4 - y / 100 + y / 400) - (1969 / 4 - 1969 / 100 + 1969 / 400)

/-- The number of days in each month. -/
def monthLengths (year : Int) : List Nat :=
  [31, if isLeap year then 29 else 28, 31, 30, 31, 30, 31, 31, 30, 31, 30, 31]

/-- The month, counted from one, and the day in it of a day in the year. -/
def monthAndDay (n : Nat) (month : Nat) : List Nat → Nat × Nat
  | [] => (month, n + 1)
  | l :: rest => if n < l then (month, n + 1) else monthAndDay (n - l) (month + 1) rest

def ofSeconds (seconds : Int) : Moment :=
  let days := seconds / 86400
  let rest := (seconds % 86400).toNat
  -- an estimate that is at most one year off
  let guess := 1970 + days * 400 / 146097
  let year := if days < daysBefore guess then guess - 1
    else if daysBefore (guess + 1) ≤ days then guess + 1 else guess
  let yearDay := (days - daysBefore year).toNat
  let (month, day) := monthAndDay yearDay 1 (monthLengths year)
  { year, month, day, yearDay, seconds
    hour := rest / 3600, minute := rest / 60 % 60, second := rest % 60
    weekday := ((days + 4) % 7).toNat }

/-- A number with zeros in front. -/
def two (n : Nat) : Bytes := padLeft '0' 2 (decimal n)

/-- The hour on a clock with twelve of them. -/
def clockHour (m : Moment) : Nat := if m.hour % 12 = 0 then 12 else m.hour % 12

/-- The first letters of a name in a list. -/
def short (names : List String) (n : Nat) : Bytes := (bytes (names.getD n "")).take 3

/-- The week of the year, in which the first one begins with the first day of a kind. -/
def week (m : Moment) (firstDay : Nat) : Nat :=
  (m.yearDay + 7 - (m.weekday + 7 - firstDay) % 7) / 7

/-- What a letter after a percent sign stands for. -/
def field (m : Moment) (c : Char) : Option Bytes :=
  match c with
  | 'Y' => some (integer m.year)
  | 'C' => some (two (m.year / 100).toNat)
  | 'y' => some (two (m.year % 100).toNat)
  | 'm' => some (two m.month)
  | 'd' => some (two m.day)
  | 'e' => some (padLeft ' ' 2 (decimal m.day))
  | 'H' => some (two m.hour)
  | 'I' => some (two m.clockHour)
  | 'k' => some (padLeft ' ' 2 (decimal m.hour))
  | 'l' => some (padLeft ' ' 2 (decimal m.clockHour))
  | 'M' => some (two m.minute)
  | 'S' => some (two m.second)
  | 'N' => some (bytes "000000000")
  | 's' => some (integer m.seconds)
  | 'j' => some (padLeft '0' 3 (decimal (m.yearDay + 1)))
  | 'a' => some (short weekdays m.weekday)
  | 'A' => some (bytes (weekdays.getD m.weekday ""))
  | 'b' | 'h' => some (short months (m.month - 1))
  | 'B' => some (bytes (months.getD (m.month - 1) ""))
  | 'p' => some (bytes (if m.hour < 12 then "AM" else "PM"))
  | 'P' => some (bytes (if m.hour < 12 then "am" else "pm"))
  | 'u' => some (decimal (if m.weekday = 0 then 7 else m.weekday))
  | 'w' => some (decimal m.weekday)
  | 'U' => some (two (m.week 0))
  | 'W' => some (two (m.week 1))
  | 'Z' => some (bytes "UTC")
  | 'z' => some (bytes "+0000")
  | 'n' => some ['\n']
  | 't' => some ['\t']
  | '%' => some ['%']
  | _ => none

/-- What letters for several fields stand for. -/
def combined (c : Char) : Option Bytes :=
  match c with
  | 'F' => some (bytes "%Y-%m-%d")
  | 'T' | 'X' => some (bytes "%H:%M:%S")
  | 'D' | 'x' => some (bytes "%m/%d/%y")
  | 'R' => some (bytes "%H:%M")
  | 'r' => some (bytes "%I:%M:%S %p")
  | 'c' => some (bytes "%a %b %e %H:%M:%S %Y")
  | _ => none

/-- The text of a moment in a format. -/
def format (m : Moment) : Bytes → Bytes
  | '%' :: c :: rest =>
    let shown := match combined c, field m c with
      | some f, _ => fields f
      | none, some t => t
      | none, none => ['%', c]
    shown ++ format m rest
  | c :: rest => c :: format m rest
  | [] => []
where
  /-- The text of a format of single fields. -/
  fields : Bytes → Bytes
    | '%' :: c :: rest => (field m c).getD [] ++ fields rest
    | c :: rest => c :: fields rest
    | [] => []

end Moment

end JobLauncher.Shell
