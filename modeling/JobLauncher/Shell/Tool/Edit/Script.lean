import JobLauncher.Shell.Regex
import JobLauncher.Shell.Escape
import JobLauncher.Shell.Tool.Basic

/-!
# Scripts of the stream editor

A script is a list of steps, each with addresses that say for which lines it is. Blocks and branches
are places in the list.
-/

namespace JobLauncher.Shell.Tool.Edit

/-! ## Steps -/

/-- An expression that is searched for; none stands for the last one that was. -/
structure Search where
  regex : Option (Regex × Nat)
  folded : Bool := false
  lines : Bool := false

/-- Which lines are meant. -/
inductive Address where
  | line (n : Nat)
  | last
  /-- A line and every so many after it. -/
  | steps (first step : Nat)
  | search (s : Search)
  /-- So many lines after the first one. -/
  | more (n : Nat)
  /-- Up to a multiple of a number. -/
  | multiple (n : Nat)

/-- What changes the case of letters in a replacement. -/
inductive Case where
  | upper
  | lower
  | none
  | nextUpper
  | nextLower
  deriving DecidableEq, Repr

/-- A part of a replacement. -/
inductive Part where
  | text (t : Bytes)
  | group (n : Nat)
  | case (c : Case)

/-- An exchange of what is found. -/
structure Exchange where
  search : Search
  parts : List Part
  /-- The first match that is exchanged, and whether all after it are too. -/
  first : Nat := 1
  all : Bool := false
  prints : Bool := false
  file : Option Bytes := none

/-- What a step does. -/
inductive Command where
  /-- The beginning of a block, with the place after it. -/
  | open (after : Nat)
  | close
  | number
  | append (t : Bytes)
  | insert (t : Bytes)
  | change (t : Bytes)
  | delete
  | deleteFirst
  | name
  | get
  | getMore
  | hold
  | holdMore
  | list (width : Option Nat)
  | next
  | nextMore
  | print
  | printFirst
  | quit (status : Nat)
  | quitNow (status : Nat)
  | readFile (path : Bytes)
  | readLine (path : Bytes)
  | writeFile (path : Bytes)
  | writeFirst (path : Bytes)
  | exchange (e : Exchange)
  | branch (label : Bytes)
  /-- A branch that is taken after an exchange, or without one. -/
  | branchIf (changed : Bool) (label : Bytes)
  | label (name : Bytes)
  | swap
  | table (t : List (Char × Char))
  | clear
  | nothing

/-- A step: for which lines it is, and what it does. -/
structure Step where
  first : Option Address := none
  finish : Option Address := none
  negated : Bool := false
  command : Command

/-! ## Reading -/

/-- What is wrong with a script, and how much of it had been read. -/
structure Fault where
  message : Bytes
  read : Nat

/-- What is left of a script. -/
structure Rest where
  text : Bytes
  read : Nat := 0
  extended : Bool
  steps : Array Step := #[]
  /-- The places where blocks that are open began. -/
  blocks : List Nat := []

abbrev Reader := StateT Rest (Except Fault)

def wrong (message : String) : Reader α := do throw ⟨bytes message, (← get).read⟩

def wrongBytes (message : Bytes) : Reader α := do throw ⟨message, (← get).read⟩

/-- A fault that belongs to no place. -/
def wrongAtAll (message : String) : Reader α := throw ⟨bytes message, 0⟩

def peek : Reader (Option Char) := return (← get).text.head?

def advance : Reader Unit := modify fun s =>
  match s.text with
  | [] => s
  | _ :: rest => { s with text := rest, read := s.read + 1 }

/-- The next character, which is passed over. -/
def next : Reader (Option Char) := do
  let c ← peek
  advance
  return c

/-- Passes over characters and gives them. -/
def takeWhile (p : Char → Bool) : Reader Bytes := do
  let s ← get
  let found := s.text.takeWhile p
  set { s with text := s.text.drop found.length, read := s.read + found.length }
  return found

def number : Reader Nat := return (natural? (← takeWhile Char.isDigit)).getD 0

/-- A text up to a mark. In an expression a mark between brackets does not count, and `\n` is the end
of a line. -/
def upTo (mark : Char) (isRegex : Bool) : Nat → Bool → Bytes → Reader (Option Bytes)
  | 0, _, _ => return none
  | fuel + 1, inSet, found => do
    match ← next with
    | none => return none
    | some c =>
      if c = mark ∧ !inSet then return some found.reverse
      else if c = '\n' ∧ isRegex then return none
      else if c = '\\' then
        match ← next with
        | none => return none
        | some d =>
          if d = 'n' ∧ isRegex ∧ !inSet then upTo mark isRegex fuel inSet ('\n' :: found)
          else if d = '\n' then upTo mark isRegex fuel inSet (if isRegex then '\n' :: found else '\n' :: '\\' :: found)
          else if d = mark ∧ !(!isRegex ∧ d = '&') then upTo mark isRegex fuel inSet (d :: found)
          else upTo mark isRegex fuel inSet (d :: '\\' :: found)
      else if isRegex ∧ !inSet ∧ c = '[' then
        -- a bracket right after the first one does not close it
        let negated ← takeWhile (· = '^')
        let closing := (← get).text.head? == some ']'
        if closing then advance
        upTo mark isRegex fuel true
          ((if closing then [']'] else []) ++ negated.reverse ++ ('[' :: found))
      else if inSet ∧ c = ']' then upTo mark isRegex fuel false (c :: found)
      else if inSet ∧ c = '[' ∧ ((← get).text.head?.any fun d => ".:=".toList.contains d) then
        let name ← takeWhile (· ≠ ']')
        let ending ← takeWhile (· = ']')
        upTo mark isRegex fuel (ending.length < 2)
          (ending.reverse ++ name.reverse ++ ('[' :: found))
      else upTo mark isRegex fuel inSet (c :: found)

/-- An expression with letters for controls written out. -/
def withControls : Bytes → Bytes
  | '\\' :: c :: rest =>
    match c with
    | 't' => '\t' :: withControls rest
    | 'f' => Char.ofNat 12 :: withControls rest
    | 'v' => Char.ofNat 11 :: withControls rest
    | 'a' => Char.ofNat 7 :: withControls rest
    | 'r' => '\r' :: withControls rest
    | c => '\\' :: c :: withControls rest
  | c :: rest => c :: withControls rest
  | [] => []

/-- The expression that a text is. -/
def searchOf (text : Bytes) (folded lines : Bool) : Reader Search := do
  if text = [] then return { regex := none, folded, lines }
  match Regex.parse (← get).extended (withControls text) with
  | .ok r => return { regex := some r, folded, lines }
  | .error f => wrong f.message

/-- Letters after an expression in an address. -/
def searchFlags : Nat → Bool → Bool → Reader (Bool × Bool)
  | 0, folded, lines => return (folded, lines)
  | fuel + 1, folded, lines => do
    match ← peek with
    | some 'I' =>
      advance
      searchFlags fuel true lines
    | some 'M' =>
      advance
      searchFlags fuel folded true
    | _ => return (folded, lines)

/-- Reads an address, if there is one. -/
def address? : Reader (Option Address) := do
  match ← peek with
  | none => return none
  | some c =>
    if c.isDigit then
      let n ← number
      let _ ← takeWhile isBlank
      if (← peek) = some '~' then
        advance
        return some (.steps n (← number))
      else return some (.line n)
    else if c = '$' then
      advance
      return some .last
    else if c = '/' ∨ c = '\\' then
      advance
      let mark ← if c = '\\' then next else pure (some '/')
      let size := (← get).text.length
      match ← upTo (mark.getD '/') true (size + 1) false [] with
      | none => wrong "unterminated address regex"
      | some text =>
        let (folded, lines) ← searchFlags 8 false false
        return some (.search (← searchOf text folded lines))
    else return none

/-- Reads the address after a comma. -/
def secondAddress : Reader Address := do
  let _ ← takeWhile isBlankOrEnd
  match ← peek with
  | some '+' =>
    advance
    return .more (← number)
  | some '~' =>
    advance
    return .multiple (← number)
  | _ =>
    match ← address? with
    | some a => return a
    | none => wrong "unexpected \x60,'"

/-- Passes over what may follow a command. -/
def endCommand : Reader Unit := do
  let _ ← takeWhile isBlank
  match ← peek with
  | none | some '\x7d' | some '#' => return
  | some c =>
    advance
    if c ≠ '\n' ∧ c ≠ ';' then wrong "extra characters after command"

/-- The text of lines up to one that does not end in a backslash. -/
def textLines : Nat → Bytes → Reader Bytes
  | 0, found => return found.reverse
  | fuel + 1, found => do
    match ← next with
    | none => return found.reverse
    | some '\n' => return found.reverse
    | some '\\' =>
      match ← next with
      | none => return found.reverse
      | some c => textLines fuel (c :: found)
    | some c => textLines fuel (c :: found)

/-- The text that a command adds. -/
def addedText : Reader Bytes := do
  let _ ← takeWhile isBlank
  match ← peek with
  | none => wrong "expected \\ after \x60a', \x60c' or \x60i'"
  | some '\\' =>
    advance
    let blanks ← takeWhile isBlank
    let size := (← get).text.length
    match ← peek with
    | some '\n' =>
      advance
      return (← textLines (size + 1) []) ++ ['\n']
    | none => return []
    | some _ => return blanks ++ (← textLines (size + 1) []) ++ ['\n']
  | some _ =>
    let size := (← get).text.length
    return (← textLines (size + 1) []) ++ ['\n']

/-- The name of a file, which goes on to the end of the line. -/
def fileName : Reader Bytes := do
  let _ ← takeWhile isBlank
  let name ← takeWhile (· ≠ '\n')
  if name = [] then wrong "missing filename in r/R/w/W commands"
  advance
  return name

/-- A label that is gone to. -/
def labelName : Reader Bytes := do
  let _ ← takeWhile isBlank
  let name ← takeWhile fun c => c ≠ '\n' ∧ c ≠ ';'
  advance
  return (name.reverse.dropWhile isBlank).reverse

/-- The parts of a replacement. -/
def partsOf : Nat → Bytes → List Part
  | 0, _ | _, [] => []
  | fuel + 1, '&' :: rest => .group 0 :: partsOf fuel rest
  | fuel + 1, '\\' :: c :: rest =>
    if c.isDigit then .group (c.toNat - '0'.toNat) :: partsOf fuel rest
    else
      let part : Part := match c with
        | 'U' => .case .upper
        | 'L' => .case .lower
        | 'E' => .case .none
        | 'u' => .case .nextUpper
        | 'l' => .case .nextLower
        | 'n' => .text ['\n']
        | 't' => .text ['\t']
        | 'r' => .text ['\r']
        | 'f' => .text [Char.ofNat 12]
        | 'v' => .text [Char.ofNat 11]
        | 'a' => .text [Char.ofNat 7]
        | c => .text [c]
      part :: partsOf fuel rest
  | fuel + 1, c :: rest => .text [c] :: partsOf fuel rest

/-- Letters after an exchange. -/
def exchangeFlags : Nat → Exchange → Bool → Bool → Bool → Reader (Exchange × Bool × Bool)
  | 0, e, folded, lines, _ => return (e, folded, lines)
  | fuel + 1, e, folded, lines, numbered => do
    match ← peek with
    | none => return (e, folded, lines)
    | some c =>
      if c.isDigit then
        if numbered then
          advance
          wrong "multiple number options to \x60s' command"
        let n ← number
        if n = 0 then wrong "number option to \x60s' command may not be zero"
        exchangeFlags fuel { e with first := n } folded lines true
      else
        match c with
        | '\x7d' | '#' => return (e, folded, lines)
        | '\n' | ';' =>
          advance
          return (e, folded, lines)
        | 'w' =>
          advance
          return ({ e with file := some (← fileName) }, folded, lines)
        | _ =>
          advance
          match c with
          | 'g' =>
            if e.all then wrong "multiple \x60g' options to \x60s' command"
            exchangeFlags fuel { e with all := true } folded lines numbered
          | 'p' =>
            if e.prints then wrong "multiple \x60p' options to \x60s' command"
            exchangeFlags fuel { e with prints := true } folded lines numbered
          | 'i' | 'I' => exchangeFlags fuel e true lines numbered
          | 'm' | 'M' => exchangeFlags fuel e folded true numbered
          | 'e' | ' ' | '\t' | '\r' => exchangeFlags fuel e folded lines numbered
          | _ => wrong "unknown option to \x60s'"

/-- Reads an exchange of what is found. -/
def exchange : Reader Command := do
  let unterminated : Reader Command := wrong "unterminated \x60s' command"
  match ← next with
  | none => unterminated
  | some mark =>
    let size := (← get).text.length
    match ← upTo mark true (size + 1) false [] with
    | none => unterminated
    | some pattern =>
      match ← upTo mark false (size + 1) false [] with
      | none => unterminated
      | some replacement =>
        let parts := partsOf (replacement.length + 1) replacement
        let empty : Exchange := { search := { regex := none }, parts }
        let (e, folded, lines) ← exchangeFlags (size + 1) empty false false false
        let search ← searchOf pattern folded lines
        let groups := (search.regex.map (·.2)).getD 9
        match parts.findSome? fun p => match p with
          | .group n => if groups < n then some n else none
          | _ => none with
        | some n =>
          wrongBytes (bytes "invalid reference \\" ++ decimal n ++ bytes " on \x60s' command's RHS")
        | none => return .exchange { e with search }

/-- The characters of one side of a table. -/
def tableSide : Bytes → Bytes
  | '\\' :: '\\' :: rest => '\\' :: tableSide rest
  | '\\' :: 'n' :: rest => '\n' :: tableSide rest
  | '\\' :: 't' :: rest => '\t' :: tableSide rest
  | c :: rest => c :: tableSide rest
  | [] => []

/-- Reads an exchange of characters. -/
def table : Reader Command := do
  let unterminated : Reader Command := wrong "unterminated \x60y' command"
  match ← next with
  | none => unterminated
  | some mark =>
    let size := (← get).text.length
    match ← upTo mark false (size + 1) false [] with
    | none => unterminated
    | some a =>
      match ← upTo mark false (size + 1) false [] with
      | none => unterminated
      | some b =>
        let a := tableSide a
        let b := tableSide b
        if a.length ≠ b.length then wrong "strings for \x60y' command are different lengths"
        endCommand
        return .table (a.zip b)

/-- Reads the rest of a command after its letter. -/
def command (first finish : Option Address) (c : Char) : Reader Command := do
  let ended (k : Command) : Reader Command := do
    endCommand
    return k
  let numbered (k : Option Nat → Command) : Reader Command := do
    let _ ← takeWhile isBlank
    let digits ← takeWhile Char.isDigit
    ended (k (natural? digits))
  let single : Reader Unit := do
    if finish.isSome then wrong "command only uses one address"
  match c with
  | '\x7b' =>
    modify fun s => { s with blocks := s.steps.size :: s.blocks }
    return .open 0
  | '=' => ended .number
  | 'a' => return .append (← addedText)
  | 'i' => return .insert (← addedText)
  | 'c' => return .change (← addedText)
  | 'd' => ended .delete
  | 'D' => ended .deleteFirst
  | 'F' => ended .name
  | 'g' => ended .get
  | 'G' => ended .getMore
  | 'h' => ended .hold
  | 'H' => ended .holdMore
  | 'l' => numbered .list
  | 'n' => ended .next
  | 'N' => ended .nextMore
  | 'p' => ended .print
  | 'P' => ended .printFirst
  | 'q' =>
    single
    numbered fun n => .quit (n.getD 0)
  | 'Q' =>
    single
    numbered fun n => .quitNow (n.getD 0)
  | 'r' => return .readFile (← fileName)
  | 'R' => return .readLine (← fileName)
  | 'w' => return .writeFile (← fileName)
  | 'W' => return .writeFirst (← fileName)
  | 's' => exchange
  | 'b' => return .branch (← labelName)
  | 't' => return .branchIf true (← labelName)
  | 'T' => return .branchIf false (← labelName)
  | 'x' => ended .swap
  | 'y' => table
  | 'z' => ended .clear
  | 'v' =>
    let _ ← labelName
    return .nothing
  | ':' =>
    if first.isSome then wrong ": doesn't want any addresses"
    let _ ← takeWhile isBlank
    let name ← takeWhile fun c => !isBlankOrEnd c ∧ c ≠ ';'
    if name = [] then wrong "\":\" lacks a label"
    endCommand
    return .label name
  | c => wrongBytes (bytes "unknown command: \x60" ++ [c] ++ bytes "'")

/-- Reads one step and adds it. -/
def step : Reader Unit := do
  let first ← address?
  let _ ← takeWhile isBlank
  let finish : Option Address ← if first.isSome ∧ (← peek) = some ',' then
      advance
      pure (some (← secondAddress))
    else pure none
  let _ ← takeWhile isBlank
  let negated ← if (← peek) = some '!' then
      advance
      let _ ← takeWhile isBlank
      if (← peek) = some '!' then
        advance
        wrong "multiple \x60!'s"
      pure true
    else pure false
  match ← next with
  | none => wrong "missing command"
  | some '#' =>
    if first.isSome then wrong "comments don't accept any addresses"
    let _ ← takeWhile (· ≠ '\n')
  | some '\x7d' =>
    let s ← get
    match s.blocks with
    | [] => wrong "unexpected \x60\x7d'"
    | start :: blocks =>
      if first.isSome then wrong "\x7d doesn't want any addresses"
      let after := s.steps.size + 1
      set { s with
        blocks
        steps := (s.steps.modify start fun t => { t with command := .open after }).push
          { command := .close } }
      endCommand
  | some c =>
    let zero : Bool := match first, finish with
      | some (.line 0), some (.search _) => false
      | some (.line 0), _ => true
      | _, _ => false
    if zero then wrong "invalid usage of line address 0"
    let command ← command first finish c
    modify fun s => { s with steps := s.steps.push { first, finish, negated, command } }

/-- Reads all steps. -/
def steps : Nat → Reader Unit
  | 0 => return
  | fuel + 1 => do
    let _ ← takeWhile fun c => isSpaceByte c || c = ';'
    if (← get).text = [] then
      if (← get).blocks ≠ [] then wrongAtAll "unmatched \x60\x7b'"
    else
      step
      steps fuel

/-- The label of a branch. -/
def Command.target? : Command → Option Bytes
  | branch l | branchIf _ l => if l = [] then none else some l
  | _ => none

/-- The place of a label. -/
def place? (steps : Array Step) (name : Bytes) : Option Nat :=
  steps.findIdx? fun s => match s.command with
    | .label n => n = name
    | _ => false

/-- The steps that a script is; a label that is missing is told apart. -/
def parse (extended : Bool) (text : Bytes) : Except (Fault ⊕ Bytes) (Array Step) :=
  match (steps (text.length + 1)).run { text, extended } with
  | .error f => .error (.inl f)
  | .ok (_, s) =>
    match s.steps.findSome? fun t => t.command.target?.filter fun l => (place? s.steps l).isNone with
    | some l => .error (.inr l)
    | none => .ok s.steps

end JobLauncher.Shell.Tool.Edit
