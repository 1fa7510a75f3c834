import JobLauncher.Shell.Calendar
import JobLauncher.Shell.Real
import JobLauncher.Shell.Spelling

/-!
# Formatted output

A format is text with directives in it, each of which takes an argument and lays it out. It is gone
through again until all arguments are used.
-/

namespace JobLauncher.Shell.Printf

/-- What a directive asks for apart from its letter. -/
structure Layout where
  left : Bool := false
  zeros : Bool := false
  plus : Bool := false
  blank : Bool := false
  marked : Bool := false
  width : Nat := 0
  precision : Option Nat := none

/-- Fills a text up to the width. -/
def Layout.fill (l : Layout) (text : Bytes) : Bytes :=
  if l.left then padRight ' ' l.width text else padLeft ' ' l.width text

/-- A number as it is laid out: sign, mark, digits. -/
def Layout.number (l : Layout) (sign mark digits : Bytes) : Bytes :=
  let digits := match l.precision with
    | some 0 => if digits = ['0'] then [] else digits
    | some p => padLeft '0' p digits
    | none =>
      if l.zeros && !l.left then padLeft '0' (l.width - (sign ++ mark).length) digits else digits
  l.fill (sign ++ mark ++ digits)

/-- The sign of a number that may be below zero. -/
def Layout.sign (l : Layout) (negative : Bool) : Bytes :=
  if negative then ['-'] else if l.plus then ['+'] else if l.blank then [' '] else []

/-- A real number as it is laid out. -/
def Layout.real (l : Layout) (letter : Char) (r : Real) : Bytes :=
  let text := r.text letter.toLower l.marked l.precision
  let text := if letter.isUpper then text.map Char.toUpper else text
  let sign := l.sign r.isNegative
  let text := if l.zeros && !l.left && r.isFinite then padLeft '0' (l.width - sign.length) text
    else text
  l.fill (sign ++ text)

/-! ## Numbers -/

/-- What a text is as a number. -/
structure Numeral where
  value : Int
  /-- What the text should have been, if it is none. -/
  wrong : Option String := none

/-- The number that a text begins with; all of the text should be a number. -/
def numeral (cs : Bytes) : Numeral :=
  match cs with
  | '"' :: rest => { value := ((rest.head?.map Char.toNat).getD 0 : Nat) }
  | '\x27' :: rest => { value := ((rest.head?.map Char.toNat).getD 0 : Nat) }
  | cs =>
    let cs := skipSpace cs
    let (negative, digits) := match cs with
      | '-' :: rest => (true, rest)
      | '+' :: rest => (false, rest)
      | rest => (false, rest)
    let (n, whole, kind) := natural digits
    let value : Int := if negative then -(n : Int) else n
    if whole then { value } else { value, wrong := some kind }
where
  natural (cs : Bytes) : Nat × Bool × String :=
    let (base, cs, kind) := match cs with
      | '0' :: x :: d :: rest =>
        if (x = 'x' ∨ x = 'X') ∧ isHexDigit d then (16, d :: rest, "hex ")
        else (8, '0' :: x :: d :: rest, if x.isDigit then "octal " else "")
      | '0' :: rest => (8, '0' :: rest, if rest.head?.any Char.isDigit then "octal " else "")
      | rest => (10, rest, "")
    let r := digits base cs.length cs
    (valueIn base r.1, r.1 ≠ [] ∧ r.2 = [], "invalid " ++ kind ++ "number")

/-! ## Faults -/

/-- Who formats: the shell, the plain shell, or a tool. They know different directives and speak of
faults in words of their own. -/
inductive Voice where
  | full
  | plain
  | tool
  deriving DecidableEq, Repr

/-- What can be wrong with a format and its arguments. -/
inductive Fault where
  /-- An argument is no number, or not all of it is; `expected` says what it should have been. -/
  | notNumber (arg : Bytes) (expected : String)
  | outOfRange (arg : Bytes)
  /-- A directive has no letter. -/
  | noLetter (directive : Bytes)
  | badLetter (directive : Bytes) (letter : Char)
  | badMoment (letter : Char)
  deriving DecidableEq, Repr

/-- Whether a text begins like a number. -/
def beginsWithDigit (t : Bytes) : Bool :=
  match t with
  | '-' :: ds | '+' :: ds => ds.head?.any Char.isDigit
  | ds => ds.head?.any Char.isDigit

def Fault.message : Voice → Fault → Bytes
  | .full, notNumber arg expected => arg ++ bytes ": " ++ bytes expected
  | .plain, notNumber arg _ =>
    arg ++ bytes (if beginsWithDigit arg then ": not completely converted" else ": expected numeric value")
  | .tool, notNumber arg _ =>
    [apostrophe] ++ arg ++ [apostrophe] ++ bytes (if beginsWithDigit arg then
      ": value not completely converted" else ": expected a numeric value")
  | .full, outOfRange arg => bytes "warning: " ++ arg ++ bytes ": Numerical result out of range"
  | .plain, outOfRange arg => arg ++ bytes ": Numerical result out of range"
  | .tool, outOfRange arg =>
    [apostrophe] ++ arg ++ [apostrophe] ++ bytes ": Numerical result out of range"
  | .full, noLetter d => bytes "\x60" ++ d ++ bytes "': missing format character"
  | .plain, noLetter _ => bytes "missing format character"
  | .tool, noLetter d | .tool, badLetter d _ => d ++ bytes ": invalid conversion specification"
  | .full, badLetter _ c => bytes "\x60" ++ [c] ++ bytes "': invalid format character"
  | .plain, badLetter d _ => d ++ bytes ": invalid directive"
  | _, badMoment c => bytes "warning: \x60" ++ [c] ++ bytes "': invalid time format specification"

/-! ## Formatting -/

/-- The state of formatting. -/
structure State where
  voice : Voice := .full
  output : Bytes := []
  args : List Bytes
  /-- An argument was asked for. -/
  used : Bool := false
  stopped : Bool := false
  failed : Bool := false
  /-- What was wrong, the last first. -/
  faults : List Fault := []
  /-- Variables that are to be set to numbers, the last first. -/
  counted : List (Bytes × Nat) := []

namespace State

def write (s : State) (bs : Bytes) : State := { s with output := s.output ++ bs }

/-- The next argument, if there is one. -/
def next (s : State) : Option Bytes × State :=
  (s.args.head?, { s with args := s.args.tail, used := true })

def note (s : State) (fails : Bool) (f : Fault) : State :=
  { s with faults := f :: s.faults, failed := s.failed || fails }

/-- A number of 64 bits from the next argument: with a sign, or modulo the range. -/
def number (s : State) (signed : Bool) : Int × State :=
  let (arg, s) := s.next
  match arg with
  | none | some [] => (0, s)
  | some arg =>
    let n := numeral arg
    let s := match n.wrong with
      | some expected => s.note true (.notNumber arg expected)
      | none => s
    let low := if signed then Int64.minValue.toInt else -((UInt64.size : Int) - 1)
    let high := if signed then Int64.maxValue.toInt else (UInt64.size : Int) - 1
    let range (bound : Int) : Int × State :=
      (bound, s.note (s.voice != .full) (.outOfRange arg))
    if high < n.value then range high
    else if n.value < low then range (if signed then low else high)
    else (if signed then n.value else n.value % UInt64.size, s)

/-- A real number from the next argument. -/
def real (s : State) : Real × State :=
  let (arg, s) := s.next
  match arg with
  | none | some [] => (.finite false 0 0, s)
  | some arg =>
    let wrong : State := s.note true (.notNumber arg "invalid number")
    match arg with
    | '"' :: c :: _ | '\x27' :: c :: _ => (.finite false c.toNat 0, s)
    | _ =>
      match Real.read? arg with
      | some (r, rest) => (r, if rest = [] then s else wrong)
      | none => (.finite false 0 0, wrong)

/-- Carries out a directive that takes a text. -/
def text (s : State) (l : Layout) (letter : Char) : State :=
  let (arg, s) := s.next
  let arg := arg.getD []
  let cut (bs : Bytes) : Bytes := match l.precision with
    | some p => bs.take p
    | none => bs
  match letter with
  | 's' => s.write (l.fill (cut arg))
  | 'c' => s.write (l.fill (arg.take 1))
  | 'q' =>
    let quoted := match s.voice with
      | .tool => if arg = [] ∨ Spelling.needsQuotes arg then Spelling.quoted arg else arg
      | _ => Spelling.withBackslashes arg
    s.write (l.fill (cut quoted))
  | 'Q' => s.write (l.fill (Spelling.withBackslashes (cut arg)))
  | _ =>
    let (bs, stops) := unescapeBytes .argument (arg.length + 1) arg
    { s.write (l.fill (cut bs)) with stopped := stops }

/-- Carries out a directive that takes a whole number. -/
def whole (s : State) (l : Layout) (letter : Char) : State :=
  if letter = 'd' ∨ letter = 'i' then
    let (n, s) := s.number true
    s.write (l.number (l.sign (n < 0)) [] (decimal n.natAbs))
  else
    let (n, s) := s.number false
    let n := n.toNat
    let (digits, mark) :=
      if letter = 'o' then (Nat.toDigits 8 n, ['0'])
      else if letter = 'x' then (Nat.toDigits 16 n, ['0', 'x'])
      else if letter = 'X' then ((Nat.toDigits 16 n).map Char.toUpper, ['0', 'X'])
      else (decimal n, [])
    s.write (l.number [] (if l.marked ∧ n ≠ 0 then mark else []) digits)

/-- Writes a moment in a format of its own. -/
def moment (s : State) (l : Layout) (format : Bytes) : State :=
  let (n, s) := match s.args with
    | [] => (0, s.next.2)
    | _ => s.number true
  s.write (l.fill ((Moment.ofSeconds n).format (if format = [] then bytes "%X" else format)))

/-- The flags of a directive. -/
def flags (l : Layout) : Bytes → Layout × Bytes
  | [] => (l, [])
  | c :: rest =>
    if c = '-' then flags { l with left := true } rest
    else if c = '0' then flags { l with zeros := true } rest
    else if c = '+' then flags { l with plus := true } rest
    else if c = ' ' then flags { l with blank := true } rest
    else if c = '#' then flags { l with marked := true } rest
    else if c = apostrophe then flags l rest
    else (l, c :: rest)

/-- A size, in digits or taken from an argument. -/
def size (s : State) : Bytes → Int × Bytes × State
  | '*' :: rest =>
    let (n, s) := s.number true
    (n, rest, s)
  | cs =>
    let r := digits 10 cs.length cs
    (valueIn 10 r.1, r.2, s)

/-- The letters of directives that take texts. -/
def textLetters : Voice → String
  | .full => "sbcqQ"
  | .plain => "sbc"
  | .tool => "sbcq"

/-- Stops at a directive that is none. -/
def stopAt (s : State) (f : Fault) : State × Bytes := ({ s.note true f with stopped := true }, [])

/-- Carries out what follows a percent sign, and gives the rest of the format. -/
def percent (s : State) (directive : Bytes) : State × Bytes :=
  let (l, cs) := flags {} directive
  let (width, cs, s) := s.size cs
  let l := { l with width := width.natAbs, left := l.left || decide (width < 0) }
  let (l, cs, s) := match cs with
    | '.' :: cs =>
      let (p, cs, s) := s.size cs
      ({ l with precision := if p < 0 then none else some p.natAbs }, cs, s)
    | cs => (l, cs, s)
  let cs := if s.voice = .plain then cs else cs.dropWhile fun c => "hjlLtz".toList.contains c
  -- the directive up to what is left of the format
  let upTo (rest : Bytes) : Bytes := '%' :: directive.take (directive.length - rest.length)
  match s.voice, cs with
  | _, [] => s.stopAt (.noLetter (upTo []))
  | .full, '(' :: rest =>
    let format := rest.takeWhile (· ≠ ')')
    match rest.drop format.length with
    | ')' :: 'T' :: rest => (s.moment l format, rest)
    | ')' :: c :: rest => (s.note false (.badMoment c), rest)
    | _ => s.stopAt (.badLetter (upTo rest) '(')
  | voice, c :: rest =>
    if (textLetters voice).toList.contains c then (s.text l c, rest)
    else if "diuoxX".toList.contains c then (s.whole l c, rest)
    else if "eEfFgGaA".toList.contains c then
      let (r, s) := s.real
      (s.write (l.real c r), rest)
    else if c = 'n' ∧ voice = .full then
      let (name, s) := s.next
      ({ s with counted := (name.getD [], s.output.length) :: s.counted }, rest)
    else s.stopAt (.badLetter (upTo rest) c)

/-- Goes through the format once. -/
def pass : Nat → State → Bytes → State
  | 0, s, _ => s
  | _, s, [] => s
  | fuel + 1, s, c :: rest =>
    if s.stopped then s
    else if c = '\\' then
      match escapeOf .format rest with
      | (.bytes bs, rest) => pass fuel (s.write bs) rest
      | _ => pass fuel (s.write ['\\']) rest
    else if c = '%' then
      match rest with
      | '%' :: rest => pass fuel (s.write ['%']) rest
      | _ =>
        let (s, rest) := s.percent rest
        pass fuel s rest
    else
      let plain := (c :: rest).takeWhile fun c => c ≠ '\\' && c ≠ '%'
      pass fuel (s.write plain) ((c :: rest).drop plain.length)

/-- Goes through the format until all arguments are used. -/
def passes (format : Bytes) : Nat → State → State
  | 0, s => s
  | fuel + 1, s =>
    let s := pass (format.length + 1) { s with used := false } format
    if s.stopped || !s.used || s.args.isEmpty then s else passes format fuel s

end State

/-- What comes of arguments in a format. -/
def format (voice : Voice) (f : Bytes) (args : List Bytes) : State :=
  State.passes f (args.length + 1) { voice, args }

/-- Whether a directive was none. -/
def State.isBroken (s : State) : Bool := s.faults.any fun
  | .noLetter _ | .badLetter .. => true
  | _ => false

/-! ## Plain output -/

/-- The options of `echo`: letters that are all known. -/
def echoOption? : Bytes → Option Bytes
  | '-' :: c :: cs =>
    if (c :: cs).all fun c => c = 'n' ∨ c = 'e' ∨ c = 'E' then some (c :: cs) else none
  | _ => none

/-- What `echo` writes. -/
def echo (escapes newline : Bool) : List Bytes → Bytes
  | [] => if newline then ['\n'] else []
  | w :: rest =>
    match echoOption? w with
    | some letters =>
      let last := (letters.filter fun c => c = 'e' ∨ c = 'E').getLast?
      echo ((last.map (· == 'e')).getD escapes) (newline && !letters.contains 'n') rest
    | none =>
      let text := spaced (w :: rest)
      let (text, stopped) :=
        if escapes then unescapeBytes .echo (text.length + 1) text else (text, false)
      text ++ if newline && !stopped then ['\n'] else []

/-- What the plain shell writes: it always carries out escapes and knows one option. -/
def plainEcho (args : List Bytes) : Bytes :=
  let (newline, args) := match args with
    | ['-', 'n'] :: rest => (false, rest)
    | args => (true, args)
  let text := spaced args
  let (text, stopped) := unescapeBytes .argument (text.length + 1) text
  text ++ if newline && !stopped then ['\n'] else []

end JobLauncher.Shell.Printf
