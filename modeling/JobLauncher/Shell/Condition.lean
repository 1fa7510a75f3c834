import JobLauncher.Shell.Opening
import JobLauncher.Shell.Regex
import JobLauncher.Shell.Trace

/-!
# Conditions

The command `test`, which asks for properties of texts and files and compares texts and numbers, and
the conditions between double brackets, which also know patterns and expressions. The status is 0 if
the condition holds, 1 if it does not and 2 if it is none.
-/

namespace JobLauncher.Shell

namespace Condition

/-- Why arguments are no condition. -/
inductive Fault where
  | notNumber (arg : Bytes)
  | unaryExpected (arg : Bytes)
  | binaryExpected (left arg : Bytes)
  | unexpected (arg : Bytes)
  | argumentExpected
  | closeExpected (found : Option Bytes)
  | tooMany
  | unclosed

/-- What the full shell says about a fault. -/
def Fault.message : Fault → Bytes
  | notNumber arg => arg ++ bytes ": integer expression expected"
  | unaryExpected arg => arg ++ bytes ": unary operator expected"
  | binaryExpected _ arg => arg ++ bytes ": binary operator expected"
  | unexpected arg => bytes "syntax error: \x60" ++ arg ++ bytes "' unexpected"
  | argumentExpected => bytes "argument expected"
  | closeExpected none => bytes "\x60)' expected"
  | closeExpected (some arg) => bytes "\x60)' expected, found " ++ arg
  | tooMany => bytes "too many arguments"
  | unclosed => bytes "missing \x60]'"

/-- What the plain shell says about a fault. -/
def Fault.plainMessage : Fault → Bytes
  | notNumber arg => bytes "Illegal number: " ++ arg
  | unaryExpected arg | binaryExpected arg _ | unexpected arg => arg ++ bytes ": unexpected operator"
  | argumentExpected => bytes "argument expected"
  | closeExpected _ => bytes "closing paren expected"
  | tooMany => bytes "unexpected operator"
  | unclosed => bytes "missing ]"

/-! ## Properties -/

/-- Whether a file has a property. -/
def fileTest (m : Machine) (letter : Char) (path : Bytes) : Bool :=
  if letter = 'h' ∨ letter = 'L' then
    match m.files.find false m.directory path with
    | .ok (_, { node := .link _, .. }) => true
    | _ => false
  else
    match m.files.entry? m.directory path with
    | none => (streamOfPath? path).any (fun n => (m.streams.lookup n).isSome) && "aerwp".toList.contains letter
    | some e =>
      let bit (n : Nat) : Bool := e.mode &&& n ≠ 0
      if letter = 'd' then e.node == .directory
      else if letter = 'f' then
        match e.node with
        | .file _ | .program _ => true
        | _ => false
      else if letter = 's' then
        match e.node with
        | .file content => content ≠ []
        | .directory | .program _ => true
        | _ => false
      else if letter = 'x' then e.node == .directory || bit 0o111
      else if letter = 'c' then
        match e.node with
        | .device _ => true
        | _ => false
      else if letter = 'k' then bit 0o1000
      else if letter = 'g' then bit 0o2000
      else if letter = 'u' then bit 0o4000
      else "aerwOGN".toList.contains letter

/-- Whether a variable or an item of one is set. -/
def isSetVariable (m : Machine) (text : Bytes) : Bool :=
  let name := text.takeWhile isNameChar
  match text.drop name.length with
  | [] => (m.at? { name }).isSome
  | '[' :: rest =>
    let inside := rest.dropLast
    let v := m.value name
    if inside = ['@'] ∨ inside = ['*'] then v.texts ≠ []
    else
      match v, natural? inside with
      | .table _, _ => (v.item? (.name inside)).isSome
      | v, some n => (v.item? (.number n)).isSome
      | _, none => false
  | _ => false

/-- Properties that can be asked for, by their sign. -/
def unary? (m : Machine) (op : Bytes) : Option (Bytes → Bool) :=
  match op with
  | ['-', 'n'] => some fun a => a ≠ []
  | ['-', 'z'] => some fun a => a = []
  | ['-', 'o'] => some fun a => m.has (textOfBytes a)
  | ['-', 'v'] => some (isSetVariable m)
  | ['-', 'R'] => some fun a => (m.kept? a).any fun v => v.refers && v.value.isSet
  | ['-', 't'] => some fun _ => false
  | ['-', c] => if "abcdefghkprsuwxGLNOS".toList.contains c then some (fileTest m c) else none
  | _ => none

/-- A whole number. -/
def number (arg : Bytes) : Except Fault Int :=
  let trimmed := ((skipSpace arg).reverse.dropWhile isSpaceByte).reverse
  let digits := match trimmed with
    | '-' :: cs | '+' :: cs => cs
    | cs => cs
  match natural? digits with
  | some n =>
    let n : Int := if trimmed.head? = some '-' then -(n : Int) else n
    if Int64.minValue.toInt ≤ n ∧ n ≤ Int64.maxValue.toInt then .ok n else .error (.notNumber arg)
  | none => .error (.notNumber arg)

/-- Which of two files was changed later, if it can be said. -/
def changedAfter (m : Machine) (a b : Bytes) : Bool :=
  match m.files.entry? m.directory a, m.files.entry? m.directory b with
  | some x, some y => y.changed < x.changed
  | some _, none => true
  | _, _ => false

def sameFile (m : Machine) (a b : Bytes) : Bool :=
  match m.files.find true m.directory a, m.files.find true m.directory b with
  | .ok x, .ok y => x.1 == y.1
  | _, _ => false

/-- Comparisons of numbers, by their sign. -/
def compares? (op : Bytes) : Option (Int → Int → Bool) :=
  match textOfBytes op with
  | "-eq" => some fun a b => a == b
  | "-ne" => some fun a b => a != b
  | "-lt" => some fun a b => decide (a < b)
  | "-le" => some fun a b => decide (a ≤ b)
  | "-gt" => some fun a b => decide (b < a)
  | "-ge" => some fun a b => decide (b ≤ a)
  | _ => none

/-- Comparisons of files, by their sign. -/
def comparesFiles? (m : Machine) (op : Bytes) : Option (Bytes → Bytes → Bool) :=
  match textOfBytes op with
  | "-nt" => some (changedAfter m)
  | "-ot" => some fun a b => changedAfter m b a
  | "-ef" => some (sameFile m)
  | _ => none

/-- Comparisons, by their sign. -/
def binary? (m : Machine) (op : Bytes) : Option (Bytes → Bytes → Except Fault Bool) :=
  match textOfBytes op with
  | "=" | "==" => some fun a b => .ok (a == b)
  | "!=" => some fun a b => .ok (a != b)
  | "<" => some fun a b => .ok (decide (a < b))
  | ">" => some fun a b => .ok (decide (b < a))
  | _ =>
    match compares? op, comparesFiles? m op with
    | some p, _ => some fun a b => return p (← number a) (← number b)
    | none, some p => some fun a b => .ok (p a b)
    | none, none => none

/-! ## Arguments as a condition -/

/-- A reader of arguments. -/
abbrev Reading := StateT (List Bytes) (Except Fault)

def advance (n : Nat) : Reading Unit := modify (·.drop n)

mutual

/-- Reads conditions joined by `-o`. -/
def readAny (m : Machine) : Nat → Reading Bool
  | 0 => throw .argumentExpected
  | fuel + 1 => do
    let a ← readAll m fuel
    if (← get).head? = some ['-', 'o'] then
      advance 1
      let b ← readAny m fuel
      return a || b
    else return a

/-- Reads conditions joined by `-a`. -/
def readAll (m : Machine) : Nat → Reading Bool
  | 0 => throw .argumentExpected
  | fuel + 1 => do
    let a ← readOne m fuel
    if (← get).head? = some ['-', 'a'] then
      advance 1
      let b ← readAll m fuel
      return a && b
    else return a

/-- Reads one condition. -/
def readOne (m : Machine) : Nat → Reading Bool
  | 0 => throw .argumentExpected
  | fuel + 1 => do
    match ← get with
    | [] => throw .argumentExpected
    | ['!'] :: _ =>
      advance 1
      return !(← readOne m fuel)
    | ['('] :: rest =>
      advance 1
      if rest = [] then throw .argumentExpected
      let a ← readAny m fuel
      match (← get).head? with
      | some [')'] =>
        advance 1
        return a
      | found => throw (.closeExpected found)
    | a :: rest =>
      match rest with
      | op :: b :: _ =>
        match binary? m op, unary? m a with
        | some p, _ =>
          advance 3
          p a b
        | none, some p =>
          advance 2
          return p op
        | none, none =>
          advance 1
          return a ≠ []
      | [b] =>
        match unary? m a with
        | some p =>
          advance 2
          return p b
        | none =>
          advance 1
          return a ≠ []
      | [] =>
        advance 1
        return a ≠ []

end

/-- A condition of two arguments. -/
def ofTwo (m : Machine) (op a : Bytes) : Except Fault Bool :=
  if op = ['!'] then .ok (a = [])
  else match unary? m op with
    | some p => .ok (p a)
    | none => .error (.unaryExpected op)

/-- A condition of three arguments. -/
def ofThree (m : Machine) (a op b : Bytes) : Except Fault Bool :=
  match binary? m op with
  | some p => p a b
  | none =>
    if op = ['-', 'a'] then .ok (a ≠ [] ∧ b ≠ [])
    else if op = ['-', 'o'] then .ok (a ≠ [] ∨ b ≠ [])
    else if a = ['!'] then (ofTwo m op b).map (!·)
    else if a = ['('] ∧ b = [')'] then .ok (op ≠ [])
    else .error (.binaryExpected a op)

/-- Whether arguments are a condition that holds. Up to four are read by their number. -/
def holds (m : Machine) (args : List Bytes) : Except Fault Bool :=
  let all : Except Fault Bool := do
    let (b, rest) ← (readAny m (4 * args.length + 8)).run args
    match rest with
    | [] => return b
    | a :: _ => if a.head? = some '-' then throw (.unexpected a) else throw .tooMany
  match args with
  | [] => .ok false
  | [a] => .ok (a ≠ [])
  | [op, a] => ofTwo m op a
  | [a, op, b] => ofThree m a op b
  | [a, b, c, d] =>
    if a = ['!'] then (ofThree m b c d).map (!·)
    else if a = ['('] ∧ d = [')'] then ofTwo m b c
    else all
  | _ => all

end Condition

/-- Sets the status by whether something holds. -/
def setTruth (b : Bool) : Act Unit := setStatus (if b then 0 else 1)

/-- The command `test`; `name` is what it is called. -/
def test (name : Bytes) (args : List Bytes) : Act Unit := do
  let m ← get
  let refuse (f : Condition.Fault) : Act Unit :=
    fail 2 (name ++ bytes ": " ++ match m.dialect with
      | .full => f.message
      | .plain => f.plainMessage)
  let bracketed : Bool := name = ['[']
  if bracketed ∧ args.getLast? ≠ some [']'] then refuse .unclosed
  else
    match Condition.holds m (if bracketed then args.dropLast else args) with
    | .ok b => setTruth b
    | .error (.closeExpected none) =>
      refuse (.closeExpected (if bracketed then some [']'] else none))
    | .error f => refuse f

/-! ## Conditions between double brackets -/

/-- A text as a regular expression, with what was quoted standing for itself. -/
def regexText (p : List Guarded) : Bytes :=
  p.flatMap fun (c, guarded) =>
    if guarded ∧ ".[]*^$+?\x7b\x7d()|\\".toList.contains c then ['\\', c] else [c]

/-- The value of an expression in a condition; nothing if it is none, which is said. -/
def testNumber? (text : Bytes) : Act (Option Int) := do
  match ← Arithmetic.value text with
  | .ok n => return some n
  | .error e =>
    complain (bytes "[[: " ++ e.message .full)
    return none

/-- The name of the variable that tells what a regular expression matched. -/
def matchName : Bytes := bytes "BASH_REMATCH"

/-- Whether a text matches a regular expression; nothing if that is none. -/
def matchesRegex (text expression : Bytes) (folded : Bool) : Act (Option Bool) := do
  match Regex.parse true expression with
  | .error _ => return none
  | .ok (r, groups) =>
    let s : Regex.Subject := { chars := text.toArray, folded }
    match r.find? s with
    | none =>
      modify fun m => m.change matchName fun v => { v with value := .list [] }
      return some false
    | some (start, found) =>
      let texts := s.slice start found.finish
        :: (List.range groups).map fun n => (found.group? s (n + 1)).getD []
      modify fun m => m.change matchName fun v => { v with value := .list (Items.ofTexts texts) }
      return some true

/-- A text in a trace of a condition. -/
def tracedOperand (t : Bytes) : Bytes := if t = [] then [apostrophe, apostrophe] else t

/-- A pattern in a trace, with a backslash before what was quoted. -/
def tracedPattern (p : List Guarded) : Bytes :=
  tracedOperand (p.flatMap fun (c, guarded) => if guarded then ['\\', c] else [c])

/-- Whether a condition holds; nothing if it is none. `inverted` says whether the opposite is asked
for. -/
def testHolds (go : Perform) (inverted : Bool) : Test → Act (Option Bool)
  | .not t => return (← testHolds go true t).map (!·)
  | .and a b => do
    match ← testHolds go false a with
    | some true => testHolds go false b
    | r => return r
  | .or a b => do
    match ← testHolds go false a with
    | some false => testHolds go false b
    | r => return r
  | .text w => do
    let a ← textOfWord go w
    shown [bytes "-n", tracedOperand a]
    return some (a ≠ [])
  | .unary op w => do
    let a ← textOfWord go w
    shown [op, tracedOperand a]
    return (Condition.unary? (← get) op).map (· a)
  | .binary op a b => do
    let left ← textOfWord go a
    let folded := (← get).hasExtra "nocasematch"
    let fold (t : Bytes) : Bytes := if folded then t.map Char.toLower else t
    if ["=", "==", "!=", "=~"].contains (textOfBytes op) then
      let p ← patternOf go maxNesting b
      shown [tracedOperand left, op, tracedPattern p]
      if op = bytes "=~" then matchesRegex left (regexText p) folded
      else
        let p := if folded then p.map fun (c, g) => (c.toLower, g) else p
        let same := Glob.holds (Glob.ofText true p) (fold left)
        return some (same != (op == bytes "!="))
    else
      let right ← textOfWord go b
      shown [tracedOperand left, op, tracedOperand right]
      match textOfBytes op, Condition.compares? op with
      | "<", _ => return some (decide (left < right))
      | ">", _ => return some (decide (right < left))
      | _, some p =>
        match ← testNumber? left with
        | none => return some false
        | some x =>
          match ← testNumber? right with
          | none => return some false
          | some y => return some (p x y)
      | _, none => return (Condition.comparesFiles? (← get) op).map fun p => p left right
where
  /-- Shows what is asked. -/
  shown (words : List Bytes) : Act Unit :=
    trace go (spaced ([bytes "[["] ++ (if inverted then [['!']] else []) ++ words ++ [bytes "]]"]))

end JobLauncher.Shell
