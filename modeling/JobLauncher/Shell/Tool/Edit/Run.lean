import JobLauncher.Shell.Tool.Edit.Script

/-!
# The stream editor

`sed` runs the steps of a script on each line of its input. A line is kept in a space that the steps
change; a second space holds what is to be kept from line to line.
-/

namespace JobLauncher.Shell.Tool.Edit

/-- What is written after a line. -/
inductive Added where
  | text (t : Bytes)
  | file (path : Bytes)

/-- Where the range of a step is. -/
inductive Span where
  | before
  | inside (finish : Option Nat)
  | after
  deriving DecidableEq, Repr

/-- The state of the editor. -/
structure Editor where
  quiet : Bool := false
  mark : Char := '\n'
  name : Bytes := ['-']
  space : Bytes := []
  /-- The line at hand has an end. -/
  ended : Bool := true
  kept : Bytes := []
  line : Nat := 0
  /-- The lines to come, each with whether it has an end. -/
  rest : List (Bytes × Bool) := []
  added : List Added := []
  /-- What has been written, the last piece first. -/
  output : List Bytes := []
  /-- What was written last has no end. -/
  unended : Bool := false
  changed : Bool := false
  spans : Array Span := #[]
  /-- The files that are written, with what has been written to them. -/
  files : List (Bytes × Bytes) := []
  /-- The files that are read line by line. -/
  readers : List (Bytes × List Bytes) := []
  /-- The expression that was searched for last. -/
  last : Option (Regex × Nat) := none
  status : Nat := 0
  fault : Option Bytes := none

/-- How a line's turn ends. -/
inductive Outcome where
  /-- The line is written unless that is not wanted. -/
  | done
  | dropped
  /-- The steps begin again with what is left. -/
  | again
  | quit
  | quitNow
  deriving DecidableEq, Repr

abbrev EditAct := StateT Editor Act

/-! ## Output -/

/-- Writes a text as it is. -/
def emitText (t : Bytes) : EditAct Unit := modify fun e =>
  { e with output := t :: (if e.unended then [e.mark] :: e.output else e.output), unended := false }

/-- Writes a line, with an end if the line at hand has one. -/
def emitLine (t : Bytes) : EditAct Unit := do
  let e ← get
  emitText (if e.ended then t ++ [e.mark] else t)
  modify fun e' => { e' with unended := !e.ended }

/-- Writes to a file, or to the output. -/
def emitTo (path t : Bytes) : EditAct Unit := do
  if path = bytes "/dev/stdout" then emitText t
  else modify fun e => { e with
    files := e.files.map fun f => if f.1 = path then (path, f.2 ++ t) else f }

/-- Writes what belongs after the line at hand. -/
def flush : EditAct Unit := do
  let e ← get
  set { e with added := [] }
  for a in e.added.reverse do
    match a with
    | .text t => emitText t
    | .file path =>
      match ← contentOf path with
      | .ok t => if t ≠ [] then emitText t
      | .error _ => pure ()

/-- A line so that it can be seen, in pieces of a width. -/
def listed (width : Nat) (t : Bytes) : Bytes :=
  go 0 [] (t.map shown)
where
  shown (c : Char) : Bytes :=
    match c with
    | '\\' => bytes "\\\\"
    | '\n' => bytes "\\n"
    | '\t' => bytes "\\t"
    | '\r' => bytes "\\r"
    | c =>
      if c.toNat = 7 then bytes "\\a"
      else if c.toNat = 8 then bytes "\\b"
      else if c.toNat = 12 then bytes "\\f"
      else if c.toNat = 11 then bytes "\\v"
      else if isGraph c || c = ' ' then [c]
      else '\\' :: padLeft '0' 3 (Nat.toDigits 8 c.toNat)
  go (column : Nat) (done : Bytes) : List Bytes → Bytes
    | [] => done.reverse ++ bytes "$\n"
    | p :: rest =>
      if 1 < width ∧ width - 1 < column + p.length then
        go p.length (p.reverse ++ ('\n' :: '\\' :: done)) rest
      else go (column + p.length) (p.reverse ++ done) rest

/-! ## Searching -/

/-- The expression of a search: an empty one stands for the last one. -/
def regexOf (s : Search) : EditAct (Option (Regex × Nat)) := do
  match s.regex with
  | some r =>
    modify fun e => { e with last := some r }
    return some r
  | none =>
    let e ← get
    if e.last.isNone then set { e with fault := some (bytes "no previous regular expression") }
    return e.last

def subjectOf (s : Search) (t : Bytes) : Regex.Subject :=
  { chars := t.toArray, folded := s.folded, lines := s.lines }

def found (s : Search) : EditAct Bool := do
  match ← regexOf s with
  | none => return false
  | some r => return (r.1.find? (subjectOf s (← get).space)).isSome

/-- Whether an address means the line at hand. -/
def addressHolds (a : Address) : EditAct Bool := do
  let e ← get
  match a with
  | .line n => return e.line = n
  | .last => return e.rest.isEmpty
  | .steps first step =>
    return if step = 0 then e.line = first else first ≤ e.line ∧ (e.line - first) % step = 0
  | .search s => found s
  | .more _ | .multiple _ => return false

/-- Whether a step is for the line at hand. -/
def selects (place : Nat) (s : Step) : EditAct Bool := do
  let e ← get
  let put (span : Span) : EditAct Unit := modify fun e =>
    { e with spans := e.spans.setIfInBounds place span }
  match s.first, s.finish with
  | none, _ => return true
  | some a, none => addressHolds a
  | some a, some z =>
    match (e.spans[place]?).getD .before with
    | .inside (some finish) =>
      if finish ≤ e.line then put .after
      return e.line ≤ finish
    | .inside none =>
      if ← addressHolds z then put .after
      return true
    | span =>
      let starts ← match a with
        | .line n => pure (decide (n ≤ e.line) && span == .before)
        | a => addressHolds a
      if !starts then return false
      let isLine : Bool := a matches .line _
      match z with
      | .line n =>
        put (if n ≤ e.line then (if isLine then .after else .before) else .inside (some n))
      | .more n => put (if n = 0 then (if isLine then .after else .before) else .inside (some (e.line + n)))
      | .multiple n =>
        let finish := if n = 0 then e.line else (e.line + n - 1) / n * n
        put (if finish ≤ e.line then (if isLine then .after else .before) else .inside (some finish))
      | _ => put (.inside none)
      return true

/-! ## Exchanges -/

/-- A text with the case of its letters changed; a change of one letter comes before one of all. -/
def cased (all one : Case) (t : Bytes) : Bytes :=
  let change (k : Case) (c : Char) : Char := match k with
    | .upper | .nextUpper => c.toUpper
    | .lower | .nextLower => c.toLower
    | .none => c
  match t with
  | [] => []
  | c :: rest =>
    (if one = .none then change all c else change one c) :: rest.map (change all)

/-- The text of a replacement for a match. -/
def replacement (s : Regex.Subject) (start : Nat) (m : Regex.Match) (parts : List Part) : Bytes :=
  go .none .none parts
where
  go (all one : Case) : List Part → Bytes
    | [] => []
    | .case c :: rest =>
      match c with
      | .nextUpper | .nextLower => go all c rest
      | c => go c .none rest
    | .text t :: rest => cased all one t ++ go all (if t = [] then one else .none) rest
    | .group n :: rest =>
      let t := if n = 0 then s.slice start m.finish else (m.group? s n).getD []
      cased all one t ++ go all (if t = [] then one else .none) rest

/-- A text with matches exchanged, and whether there was one. -/
def exchanged (r : Regex) (s : Regex.Subject) (e : Exchange) :
    Nat → Nat → Nat → Bool → Option Nat → Bytes × Bool
  | 0, start, _, any, _ => (s.slice start s.size, any)
  | fuel + 1, start, count, any, before =>
    match r.findFrom s start with
    | none => (s.slice start s.size, any)
    | some (a, m) =>
      -- nothing is not found right after a match
      let counts := !(a = m.finish && before == some a)
      let count := if counts then count + 1 else count
      let takes : Bool := counts && (if e.all then e.first ≤ count else count = e.first)
      let shown := if takes then replacement s a m e.parts else s.slice a m.finish
      let (step, next) := if a = m.finish then (s.slice a (a + 1), a + 1) else ([], m.finish)
      let done : Bool := (takes && !e.all) || s.size < next
      let (rest, any) :=
        if done then (s.slice next s.size, any || takes)
        else exchanged r s e fuel next count (any || takes) (some m.finish)
      (s.slice start a ++ shown ++ step ++ rest, any)

/-! ## Steps -/

/-- Reads the next line; false if there is none. -/
def readNext (joined : Bool) : EditAct Bool := do
  match (← get).rest with
  | [] => return false
  | _ :: _ =>
    flush
    let e ← get
    match e.rest with
    | (t, ended) :: rest =>
      set { e with
        space := if joined then e.space ++ [e.mark] ++ t else t, ended, rest, line := e.line + 1 }
      return true
    | [] => return false

/-- The part of a text before the end of its first line. -/
def firstLine (t : Bytes) : Bytes := t.takeWhile (· ≠ '\n')

/-- Carries a command out: the place of the next step, or how the turn ends. -/
def carryOut (steps : Array Step) (place : Nat) (s : Step) : EditAct (Nat ⊕ Outcome) := do
  let e ← get
  let go : EditAct (Nat ⊕ Outcome) := return .inl (place + 1)
  let target (name : Bytes) : Nat := if name = [] then steps.size else (place? steps name).getD steps.size
  match s.command with
  | .open _ | .close | .label _ | .nothing => go
  | .number =>
    emitText (decimal e.line ++ ['\n'])
    go
  | .append t =>
    set { e with added := .text t :: e.added }
    go
  | .insert t =>
    emitText t
    go
  | .change t =>
    let atEnd : Bool := match s.finish with
      | none => true
      | some _ => s.negated || (e.spans[place]?).getD .before != .inside none
          && !((e.spans[place]?).any fun x => x matches .inside _)
    if atEnd then emitText t
    return .inr .dropped
  | .delete => return .inr .dropped
  | .deleteFirst =>
    if e.space.contains '\n' then
      set { e with space := e.space.drop ((firstLine e.space).length + 1) }
      return .inr .again
    else return .inr .dropped
  | .name =>
    emitText (e.name ++ ['\n'])
    go
  | .get =>
    set { e with space := e.kept }
    go
  | .getMore =>
    set { e with space := e.space ++ ['\n'] ++ e.kept }
    go
  | .hold =>
    set { e with kept := e.space }
    go
  | .holdMore =>
    set { e with kept := e.kept ++ ['\n'] ++ e.space }
    go
  | .list width =>
    emitText (listed (width.getD 70) e.space)
    go
  | .next =>
    if e.rest.isEmpty then return .inr .quit
    if !e.quiet then emitLine e.space
    let _ ← readNext false
    go
  | .nextMore =>
    if ← readNext true then go else return .inr .quit
  | .print =>
    emitLine e.space
    go
  | .printFirst =>
    emitText (firstLine e.space ++ ['\n'])
    go
  | .quit status =>
    set { e with status }
    return .inr .quit
  | .quitNow status =>
    set { e with status }
    return .inr .quitNow
  | .readFile path =>
    set { e with added := .file path :: e.added }
    go
  | .readLine path =>
    let lines ← match e.readers.lookup path with
      | some lines => pure lines
      | none => pure (linesOf ((← contentOf path).toOption.getD []))
    let readers := (path, lines.tail) :: e.readers.filter (·.1 ≠ path)
    match lines with
    | line :: _ => set { e with readers, added := .text (chomp line ++ ['\n']) :: e.added }
    | [] => set { e with readers }
    go
  | .writeFile path =>
    emitTo path (e.space ++ ['\n'])
    go
  | .writeFirst path =>
    emitTo path (firstLine e.space ++ ['\n'])
    go
  | .exchange x =>
    match ← regexOf x.search with
    | none => return .inr .quitNow
    | some r =>
      let s := subjectOf x.search e.space
      let (t, any) := exchanged r.1 s x (s.size + 2) 0 0 false none
      if any then
        modify fun e => { e with space := t, changed := true }
        if x.prints then emitLine t
        match x.file with
        | some path => emitTo path (t ++ ['\n'])
        | none => pure ()
      go
  | .branch name => return .inl (target name)
  | .branchIf wanted name =>
    set { e with changed := false }
    return .inl (if e.changed = wanted then target name else place + 1)
  | .swap =>
    set { e with space := e.kept, kept := e.space }
    go
  | .table t =>
    set { e with space := e.space.map fun c => (t.lookup c).getD c }
    go
  | .clear =>
    set { e with space := [] }
    go

/-- Runs the steps from a place on. -/
def runFrom (steps : Array Step) : Nat → Nat → EditAct Outcome
  | 0, _ => return .quitNow
  | fuel + 1, place => do
    match steps[place]? with
    | none => return .done
    | some s =>
      let chosen ← selects place s
      if (← get).fault.isSome then return .quitNow
      if chosen != s.negated then
        match ← carryOut steps place s with
        | .inl next => runFrom steps fuel next
        | .inr outcome => return outcome
      else
        match s.command with
        | .open after => runFrom steps fuel after
        | _ => runFrom steps fuel (place + 1)

/-- How many steps one line may take. -/
def mostSteps : Nat := 200000

/-- Runs the steps on line after line. -/
def runLines (steps : Array Step) : Nat → Bool → EditAct Bool
  | 0, _ => return false
  | fuel + 1, again => do
    let more ← if again then pure true else readNext false
    if !more then return false
    let outcome ← runFrom steps mostSteps 0
    let e ← get
    match outcome with
    | .done | .quit =>
      if !e.quiet then emitLine e.space
    | _ => pure ()
    flush
    match outcome with
    | .quit | .quitNow => return true
    | .again => runLines steps fuel true
    | _ =>
      modify fun e => { e with changed := false }
      runLines steps fuel false

/-! ## The tool -/

/-- The lines of a text, each with whether it has an end. -/
def markedLines (mark : Char) (t : Bytes) : List (Bytes × Bool) :=
  let parts := splitAt mark t
  let whole := (parts.dropLast).map fun p => (p, true)
  match parts.getLast? with
  | some [] | none => whole
  | some p => whole ++ [(p, false)]

/-- The files that steps write. -/
def writtenFiles (steps : Array Step) : List Bytes :=
  (steps.toList.filterMap fun s => match s.command with
    | .writeFile p | .writeFirst p => some p
    | .exchange e => e.file
    | _ => none).eraseDups

/-- The state before the first line: a range that begins with no line has begun. -/
def startSpans (steps : Array Step) : Array Span :=
  steps.map fun s => match s.first with
    | some (.line 0) => .inside none
    | _ => .before

/-- Says how the tool is used. -/
def usage (said : Bytes) : Act Unit := do
  if said ≠ [] then say "sed" said
  warn (bytes "Usage: sed [OPTION]... \x7bscript-only-if-no-other-script\x7d [input-file]...\n\n")
  setStatus 1

def options : Options :=
  { letters := "nErsuz!", valued := "efli"
    optional := "i"
    long := [("quiet", 'n'), ("silent", 'n'), ("expression", 'e'), ("file", 'f'),
      ("regexp-extended", 'E'), ("separate", 's'), ("unbuffered", 'u'), ("null-data", 'z'),
      ("in-place", 'i'), ("line-length", 'l'), ("posix", '!'), ("debug", '!'), ("sandbox", '!'),
      ("follow-symlinks", '!')] }

/-- The number of an expression of a script, and how much of it has been read. -/
def located (read : Nat) : Nat → List Bytes → Nat × Nat
  | n, [_] | n, [] => (n, read)
  | n, t :: rest => if read ≤ t.length then (n, read) else located (read - t.length - 1) (n + 1) rest

/-- Says what is wrong with a script. -/
def refuseScript (pieces : List Bytes) (f : Fault) : Act Unit := do
  let (n, read) := if f.read = 0 then (1, 0) else located f.read 1 pieces
  refuse 1 "sed" (bytes "-e expression #" ++ decimal n ++ bytes ", char " ++ decimal read ++ bytes ": "
    ++ f.message)

/-- Runs steps on an input and gives the state after it. -/
def runOn (steps : Array Step) (e : Editor) (text : Bytes) : Act (Bool × Editor) := do
  let e := { e with rest := markedLines e.mark text }
  (runLines steps (2 * text.length + 2) false).run e

/-- Edits files in their places. -/
def editInPlace (steps : Array Step) (start : Editor) (ending : Bytes) (paths : List Bytes) :
    Act Unit := do
  let mut e := start
  for path in paths do
    let m ← get
    match m.files.find true m.directory path with
    | .error f =>
      refuse 4 "sed" (bytes "can't read " ++ path ++ bytes ": " ++ bytes f.message)
    | .ok (_, { node := .file text, .. }) =>
      let (_, after) ← runOn steps
        { e with line := 0, output := [], unended := false, name := path, spans := startSpans steps } text
      if ending ≠ [] then
        let name := if ending.contains '*' then
            ending.flatMap fun c => if c = '*' then path else [c]
          else path ++ ending
        let _ ← writeFile name text false
      let _ ← writeFile path after.output.reverse.flatten false
      e := after
    | .ok _ => refuse 4 "sed" (bytes "couldn't edit " ++ path ++ bytes ": not a regular file")

/-- Edits its input. -/
def edit (g : Given) : Act Unit := do
  let mut given : List Bytes := []
  let mut missing : Option Bytes := none
  for (c, t) in g.options do
    if c = 'e' then given := given ++ [t]
    if c = 'f' then
      match ← contentOf t with
      | .ok text => given := given ++ [chomp text]
      | .error f => missing := some (bytes "couldn't open file " ++ t ++ bytes ": " ++ bytes f.message)
  let scripted := g.has 'e' || g.has 'f'
  match missing, scripted, g.operands with
  | some e, _, _ => refuse 1 "sed" e
  | none, false, [] => usage []
  | none, scripted, operands =>
    let pieces := if scripted then given else operands.take 1
    let paths := if scripted then operands else operands.drop 1
    match parse (g.has 'E' || g.has 'r') (List.intercalate ['\n'] pieces) with
    | .error (.inl f) => refuseScript pieces f
    | .error (.inr label) => refuse 1 "sed" (bytes "can't find label for jump to \x60" ++ label ++ bytes "'")
    | .ok steps =>
      setStatus 0
      let quiet := g.has 'n' || ((pieces.head?.map fun t => (bytes "#n\n").isPrefixOf t || t = bytes "#n").getD false)
      let start : Editor :=
        { quiet, mark := if g.has 'z' then Char.ofNat 0 else '\n', spans := startSpans steps
          files := (writtenFiles steps).map fun p => (p, []) }
      for (path, _) in start.files do
        let _ ← writeFile path [] false
      if g.has 'i' then editInPlace steps start ((g.value? 'i').getD []) paths
      else
        let mut found : List (Bytes × Bytes) := []
        for path in if paths = [] then [['-']] else paths do
          match ← contentOf path with
          | .ok text => found := (path, text) :: found
          | .error .isDirectory =>
            refuse 2 "sed" (bytes "couldn't edit " ++ path ++ bytes ": not a regular file")
          | .error f => refuse 2 "sed" (bytes "can't read " ++ path ++ bytes ": " ++ bytes f.message)
        let texts := found.reverse
        let mut e := start
        if g.has 's' then
          for (path, text) in texts do
            let (_, after) ← runOn steps { e with line := 0, name := path, spans := startSpans steps } text
            e := after
        else
          -- a line without an end is ended by the next file
          let all := (texts.zip (List.range texts.length)).flatMap fun ((_, t), i) =>
            if i + 1 < texts.length ∧ t ≠ [] ∧ t.getLast? ≠ some '\n' then t ++ ['\n'] else t
          let (_, after) ← runOn steps { e with name := (texts.head?.map (·.1)).getD ['-'] } all
          e := after
        for (path, text) in e.files do
          let _ ← writeFile path text false
        output "sed" e.output.reverse.flatten
        if e.status ≠ 0 then setStatus e.status
        match e.fault with
        | some f => refuse 1 "sed" (bytes "-e expression #1, char 0: " ++ f)
        | none => pure ()

/-- The editor of streams. -/
def sed : Program := fun _ args =>
  -- the ending for copies may be left out
  let args := args.flatMap fun a =>
    match a with
    | '-' :: cs =>
      let letters := cs.takeWhile "nErsuz".toList.contains
      match cs.drop letters.length with
      | 'i' :: ending =>
        (if letters = [] then [] else ['-' :: letters]) ++ [bytes "--in-place=" ++ ending]
      | _ => if a = bytes "--in-place" then [bytes "--in-place="] else [a]
    | a => [a]
  match options.given args with
  | .error e => usage e.message
  | .ok g => edit g

end JobLauncher.Shell.Tool.Edit
