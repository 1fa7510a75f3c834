import JobLauncher.Shell.Alignment
import JobLauncher.Shell.Calendar
import JobLauncher.Shell.Tool.Basic

/-!
# Differences

Tools that say where two files differ: `cmp` byte by byte, `diff` line by line.
-/

namespace JobLauncher.Shell.Tool.Differences

/-- Says that a tool needs something else, and where help is, both in its name. -/
def misused (name : String) (text : Bytes) : Act Unit := do
  refuse 2 name text
  say name (bytes "Try '" ++ (← calledName name) ++ bytes " --help' for more information.")

/-- Carries a tool out with its options and operands, in the way of these tools. -/
def withOptions (name : String) (o : Options) (args : List Bytes) (run : Given → Act Unit) :
    Act Unit :=
  match o.given args with
  | .ok g => run g
  | .error e => misused name e.message

/-! ## Bytes -/

/-- A byte as it can be seen. -/
def visible (c : Char) : Bytes :=
  let low (n : Nat) : Bytes :=
    if n < 32 then ['^', Char.ofNat (n + 64)] else if n = 127 then bytes "^?" else [Char.ofNat n]
  if c.toNat < 128 then low c.toNat else bytes "M-" ++ low (c.toNat - 128)

/-- How two texts are compared. -/
structure ByteForm where
  each : Bool
  shown : Bool
  width : Nat

/-- Two different bytes; if they are shown as they can be seen, the first one fills a width. -/
def ByteForm.pair (f : ByteForm) (width : Nat) (a b : Char) : Bytes :=
  let one (c : Char) : Bytes :=
    padLeft ' ' 3 (Nat.toDigits 8 c.toNat) ++ if f.shown then ' ' :: visible c else []
  padRight ' ' (if f.shown then width + 4 else 0) (one a) ++ [' '] ++ one b ++ ['\n']

/-- The line that shows two different bytes. -/
def ByteForm.line (f : ByteForm) (place : Nat) (a b : Char) : Bytes :=
  padLeft ' ' f.width (decimal place) ++ [' '] ++ f.pair 4 a b

/-- The places, counted from one, where two texts differ as far as both go. -/
def differing (place : Nat) : Bytes → Bytes → List (Nat × Char × Char)
  | a :: as, b :: bs =>
    if a = b then differing (place + 1) as bs else (place, a, b) :: differing (place + 1) as bs
  | _, _ => []

/-- Where a text is at its end. -/
def endText (each : Bool) (name text : Bytes) : Bytes :=
  bytes "EOF on " ++ name ++
    if text = [] then bytes " which is empty"
    else
      let lines := text.count '\n'
      bytes " after byte " ++ decimal text.length ++
        if each then []
        else if text.getLast? = some '\n' then bytes ", line " ++ decimal lines
        else bytes ", in line " ++ decimal (lines + 1)

/-- The numbers of bytes that are passed over. -/
def skips? (t : Bytes) : Option (Nat × Nat) :=
  match splitAt ':' t with
  | [a] => do let n ← natural? a; return (n, n)
  | [a, b] => do return (← natural? a, ← natural? b)
  | _ => none

/-- Compares two files byte by byte. -/
def cmp : Program := fun _ args =>
  let options : Options :=
    { letters := "bls", valued := "in"
      long := [("print-bytes", 'b'), ("verbose", 'l'), ("quiet", 's'), ("silent", 's'),
        ("ignore-initial", 'i'), ("bytes", 'n')] }
  withOptions "cmp" options args fun g => do
    let skipped (given : Option Bytes) : Except Bytes (Option Nat) :=
      match given with
      | none => .ok none
      | some t => match natural? t with
        | some n => .ok (some n)
        | none => .error t
    match g.operands, (g.value? 'i').map fun t => (t, skips? t), skipped (g.value? 'n') with
    | [], _, _ => misused "cmp" (bytes "missing operand after 'cmp'")
    | _, some (t, none), _ => misused "cmp" (bytes "invalid --ignore-initial value " ++ quoted t)
    | _, _, .error t => misused "cmp" (bytes "invalid --bytes value " ++ quoted t)
    | path :: others, skip, .ok limit =>
      if g.has 'l' && g.has 's' then
        misused "cmp" (bytes "options -l and -s are incompatible")
      else
        match skipped others[1]?, skipped others[2]?, others.drop 3 with
        | .error t, _, _ | _, .error t, _ =>
          misused "cmp" (bytes "invalid --ignore-initial value " ++ quoted t)
        | _, _, extra :: _ => misused "cmp" (bytes "extra operand " ++ quoted extra)
        | .ok first, .ok second, [] =>
          let usual := (skip.bind (·.2)).getD (0, 0)
          let skip := (first.getD usual.1, second.getD usual.2)
          run g path (others.headD ['-']) skip limit
where
  run (g : Given) (path other : Bytes) (skip : Nat × Nat) (limit : Option Nat) : Act Unit := do
    let fault (p : Bytes) (e : FileFault) : Act Unit := do
      if !g.has 's' ∨ !(e matches .missing) then say "cmp" (p ++ bytes ": " ++ bytes e.message)
      setStatus 2
    match ← contentOf path with
    | .error e => fault path e
    | .ok a =>
      match ← (if path = other then pure (.ok a) else contentOf other) with
      | .error e => fault other e
      | .ok b =>
        let cut (t : Bytes) (n : Nat) : Bytes := match limit with
          | some most => (t.drop n).take most
          | none => t.drop n
        let a := cut a skip.1
        let b := cut b skip.2
        let places := differing 1 a b
        let sizes := (← [path, other].mapM sizeOf?).filterMap fun n => n
        let width := (decimal (sizes.foldl min (limit.getD Int64.maxValue.toInt.toNat))).length
        let form : ByteForm := { each := g.has 'l', shown := g.has 'b', width }
        let shorter := if a.length < b.length then some (path, a)
          else if b.length < a.length then some (other, b) else none
        setStatus (if places = [] ∧ shorter.isNone then 0 else 1)
        if g.has 's' then return
        if form.each then output "cmp" (places.flatMap fun (n, x, y) => form.line n x y)
        match places.head?, form.each with
        | some (n, x, y), false =>
          let line := (a.take (n - 1)).count '\n' + 1
          output "cmp" (path ++ [' '] ++ other ++ bytes " differ: "
            ++ bytes (if form.shown then "byte " else "char ") ++ decimal n ++ bytes ", line "
            ++ decimal line
            ++ (if form.shown then bytes " is " ++ form.pair 0 x y else ['\n']))
        | _, _ =>
          match shorter with
          | some (name, text) => say "cmp" (endText form.each name text)
          | none => pure ()
  /-- The size of a file that is known beforehand. -/
  sizeOf? (path : Bytes) : Act (Option Nat) := do
    let m ← get
    return match m.files.entry? m.directory path with
      | some { node := .file content, .. } => some content.length
      | _ => none

/-! ## Lines -/

/-- How differences are shown. -/
inductive Layout where
  | normal
  /-- Both sides in one, with so many lines around each change. -/
  | unified (around : Nat)
  /-- Each side for itself. -/
  | context (around : Nat)
  deriving DecidableEq, Repr

/-- How many lines are shown around changes. -/
def Layout.around : Layout → Nat
  | normal => 0
  | unified n | context n => n

/-- What is the same to a comparison. -/
structure Likeness where
  folded : Bool := false
  /-- Blanks count only as the end of a word. -/
  blanksJoined : Bool := false
  blanksIgnored : Bool := false
  lastBlanksIgnored : Bool := false
  blankLines : Bool := false

/-- A line so that lines that are the same become equal. -/
def Likeness.key (l : Likeness) (line : Bytes) : Bytes :=
  let loose := l.blanksIgnored || l.blanksJoined || l.lastBlanksIgnored
  let line := if loose then chomp line else line
  let line := if l.blanksIgnored then line.filter fun c => !isSpaceByte c
    else if l.blanksJoined then dropLast (joined line)
    else if l.lastBlanksIgnored then dropLast line
    else line
  if l.folded then line.map Char.toLower else line
where
  dropLast (t : Bytes) : Bytes := (t.reverse.dropWhile isSpaceByte).reverse
  joined : Bytes → Bytes
    | a :: b :: rest =>
      if isSpaceByte a then if isSpaceByte b then joined (b :: rest) else ' ' :: joined (b :: rest)
      else a :: joined (b :: rest)
    | [a] => if isSpaceByte a then [' '] else [a]
    | [] => []

/-- A file to compare. -/
structure Side where
  label : Bytes
  lines : Array Bytes

/-- A line behind a sign; that it has no end is said. -/
def shownLine (sign line : Bytes) : Bytes :=
  sign ++ if line.getLast? = some '\n' then line
    else line ++ bytes "\n\\ No newline at end of file\n"

/-- Some lines of a side, each behind a sign. -/
def Side.part (s : Side) (sign : Bytes) (first count : Nat) : Bytes :=
  ((s.lines.extract first (first + count)).toList).flatMap (shownLine sign)

/-- Lines as a place in a script: the line before, if they are none. -/
def place (first count : Nat) : Bytes :=
  if count = 0 then decimal first
  else if count = 1 then decimal (first + 1)
  else decimal (first + 1) ++ [','] ++ decimal (first + count)

/-- Lines by the first of them and their number. -/
def extent (first count : Nat) : Bytes :=
  if count = 0 then decimal first ++ bytes ",0"
  else if count = 1 then decimal (first + 1)
  else decimal (first + 1) ++ [','] ++ decimal count

/-- Changes with at most so many lines between them, together. -/
def grouped (around : Nat) : List Alignment.Hunk → List (List Alignment.Hunk)
  | [] => []
  | h :: rest =>
    match grouped around rest with
    | (g :: gs) :: groups =>
      if g.left - (h.left + h.leftCount) ≤ 2 * around then (h :: g :: gs) :: groups
      else [h] :: (g :: gs) :: groups
    | groups => [h] :: groups

/-- A change as a script shows it. -/
def normalHunk (a b : Side) (h : Alignment.Hunk) : Bytes :=
  let letter := if h.leftCount = 0 then 'a' else if h.rightCount = 0 then 'd' else 'c'
  place h.left h.leftCount ++ [letter] ++ place h.right h.rightCount ++ ['\n']
    ++ a.part (bytes "< ") h.left h.leftCount ++ (if letter = 'c' then bytes "---\n" else [])
    ++ b.part (bytes "> ") h.right h.rightCount

/-- What a group of changes covers, with the lines around it: the first line and the number of lines
on each side. -/
def cover (a : Side) (around : Nat) (first last : Alignment.Hunk) : Nat × Nat × Nat × Nat :=
  let before := min around first.left
  let after := min around (a.lines.size - (last.left + last.leftCount))
  let left := first.left - before
  let right := first.right - before
  (left, last.left + last.leftCount + after - left, right,
    last.right + last.rightCount + after - right)

def unifiedGroup (a b : Side) (around : Nat) (g : List Alignment.Hunk) : Bytes :=
  match g.head?, g.getLast? with
  | some first, some last =>
    let (left, leftCount, right, rightCount) := cover a around first last
    let (body, reached) := g.foldl (fun (done, i) h =>
      (done ++ a.part [' '] i (h.left - i) ++ a.part ['-'] h.left h.leftCount
        ++ b.part ['+'] h.right h.rightCount, h.left + h.leftCount)) (([] : Bytes), left)
    bytes "@@ -" ++ extent left leftCount ++ bytes " +" ++ extent right rightCount ++ bytes " @@\n"
      ++ body ++ a.part [' '] reached (left + leftCount - reached)
  | _, _ => []

def contextGroup (a b : Side) (around : Nat) (g : List Alignment.Hunk) : Bytes :=
  match g.head?, g.getLast? with
  | some first, some last =>
    let (left, leftCount, right, rightCount) := cover a around first last
    let half (s : Side) (sign : Char) (start count : Nat) (runs : List (Nat × Nat × Bool)) : Bytes :=
      if runs.all fun r => r.2.1 = 0 then []
      else
        let (body, reached) := runs.foldl (fun (done, i) (k, n, both) =>
          (done ++ s.part (bytes "  ") i (k - i) ++ s.part [if both then '!' else sign, ' '] k n,
            k + n)) (([] : Bytes), start)
        body ++ s.part (bytes "  ") reached (start + count - reached)
    let both (h : Alignment.Hunk) : Bool := h.leftCount ≠ 0 && h.rightCount ≠ 0
    bytes "***************\n*** " ++ place left leftCount ++ bytes " ****\n"
      ++ half a '-' left leftCount (g.map fun h => (h.left, h.leftCount, both h))
      ++ bytes "--- " ++ place right rightCount ++ bytes " ----\n"
      ++ half b '+' right rightCount (g.map fun h => (h.right, h.rightCount, both h))
  | _, _ => []

/-- All differences of two sides. -/
def shown (layout : Layout) (a b : Side) (hs : List Alignment.Hunk) : Bytes :=
  match layout with
  | .normal => hs.flatMap (normalHunk a b)
  | .unified n =>
    bytes "--- " ++ a.label ++ bytes "\n+++ " ++ b.label ++ ['\n']
      ++ (grouped n hs).flatMap (unifiedGroup a b n)
  | .context n =>
    bytes "*** " ++ a.label ++ bytes "\n--- " ++ b.label ++ ['\n']
      ++ (grouped n hs).flatMap (contextGroup a b n)

/-- How many lines two lists have in common at their beginning. -/
def common : List Bytes → List Bytes → Nat
  | x :: xs, y :: ys => if x = y then common xs ys + 1 else 0
  | _, _ => 0

/-- Whether the last line has an end. -/
def isEnded (a : Array Bytes) : Bool := (a.back?.getD ['\n']).getLast? = some '\n'

/-- The changes between two lists of lines; those of blank lines may be left out. Lines that are the
same at both ends are left alone, apart from so many of them. -/
def changed (l : Likeness) (around : Nat) (a b : Array Bytes) : List Alignment.Hunk :=
  let start := common a.toList b.toList - around
  let finish := if isEnded a = isEnded b then
      common (a.toList.drop start).reverse (b.toList.drop start).reverse - around
    else 0
  let left := a.extract start (a.size - finish)
  let right := b.extract start (b.size - finish)
  let keys := (left ++ right).toList.map l.key
  let numbers := (keys.map fun k => keys.findIdx (· == k)).toArray
  let pair : Alignment.Pair := ⟨numbers.extract 0 left.size, numbers.extract left.size numbers.size⟩
  let hs := (Alignment.hunks (Alignment.changes pair)).map fun h =>
    { h with left := h.left + start, right := h.right + start }
  if l.blankLines then
    hs.filter fun h =>
      (a.extract h.left (h.left + h.leftCount)).any (chomp · ≠ [])
        || (b.extract h.right (h.right + h.rightCount)).any (chomp · ≠ [])
  else hs

/-! ## Files and directories -/

/-- How files are compared. -/
structure Plan where
  layout : Layout
  likeness : Likeness
  brief : Bool
  reportsSame : Bool
  text : Bool
  recursive : Bool
  /-- Files that are not there count as empty. -/
  newFiles : Bool
  labels : List Bytes
  /-- The options as they were given. -/
  options : List Bytes

/-- When a file was changed, as it is shown. -/
def stamp (path : Bytes) : Act Bytes := do
  let m ← get
  let seconds := match m.files.entry? m.directory path with
    | some { node := .file _, changed, .. } => changed
    | _ => m.clock
  return (Moment.ofSeconds seconds).format (bytes "%Y-%m-%d %H:%M:%S.%N %z")

/-- Says what is the case with two files, and gives the status. -/
def compareTexts (p : Plan) (inside : Bool) (a b : Bytes) (s t : Bytes) : Act Nat := do
  let nul := Char.ofNat 0
  let say (text : Bytes) : Act Unit := output "diff" text
  let differ (opening : String) : Act Nat := do
    say (bytes opening ++ a ++ bytes " and " ++ b ++ bytes " differ\n")
    return 1
  let isBinary := !p.text && (s.contains nul || t.contains nul)
  let lines (x : Bytes) : Array Bytes := (linesOf x).toArray
  if s = t then
    if p.reportsSame then say (bytes "Files " ++ a ++ bytes " and " ++ b ++ bytes " are identical\n")
    return 0
  else if isBinary then differ (if p.brief then "Files " else "Binary files ")
  else
    match changed p.likeness p.layout.around (lines s) (lines t) with
    | [] =>
      if p.reportsSame then
        say (bytes "Files " ++ a ++ bytes " and " ++ b ++ bytes " are identical\n")
      return 0
    | hs =>
      if p.brief then differ "Files "
      else
        if inside then
          say (spaced ([bytes "diff"] ++ p.options ++ [a, b]) ++ ['\n'])
        let label (i : Nat) (path : Bytes) : Act Bytes := do
          match p.labels[i]? with
          | some l => return l
          | none => return path ++ ['\t'] ++ (← stamp path)
        say (shown p.layout ⟨← label 0 a, lines s⟩ ⟨← label 1 b, lines t⟩ hs)
        return 1

/-- A name in a directory. -/
def within (directory name : Bytes) : Bytes :=
  directory ++ (if directory.getLast? = some '/' then [] else ['/']) ++ name

/-- The kind of what is at a path, as it is called. -/
def kindText (isDirectory : Bool) : Bytes :=
  bytes (if isDirectory then "a directory" else "a regular file")

/-- Compares what is at two paths; `inside` says that they are in directories that are compared. -/
def compare (p : Plan) : Nat → Bool → Bytes → Bytes → Act Nat
  | 0, _, _, _ => return 2
  | fuel + 1, inside, a, b => do
    let m ← get
    let isDirectory (path : Bytes) : Bool := m.files.isDirectory m.directory path
    let isThere (path : Bytes) : Bool :=
      path = ['-'] || (m.files.entry? m.directory path).isSome || (m.openInput path).toOption.isSome
    let there := (isThere a, isThere b)
    if isDirectory a && isDirectory b then
      let names (path : Bytes) : List Bytes :=
        match m.files.locate true m.directory path with
        | .ok place => m.files.children place
        | .error _ => []
      let both := ((names a ++ names b).mergeSort Files.before).eraseDups
      let mut worst := 0
      for name in both do
        let x := within a name
        let y := within b name
        let mine := (names a).contains name
        let theirs := (names b).contains name
        let n ← if (mine && theirs) || (p.newFiles && p.recursive) || (p.newFiles && !isDirectory x && !isDirectory y) then
            if !p.recursive && isDirectory x && isDirectory y then
              output "diff" (bytes "Common subdirectories: " ++ x ++ bytes " and " ++ y ++ ['\n'])
              pure 0
            else compare p fuel true x y
          else do
            output "diff" (bytes "Only in " ++ (if mine then a else b) ++ bytes ": " ++ name ++ ['\n'])
            pure 1
        worst := max worst n
      return worst
    else if inside && there.1 && there.2 && isDirectory a != isDirectory b then
      output "diff" (bytes "File " ++ a ++ bytes " is " ++ kindText (isDirectory a)
        ++ bytes " while file " ++ b ++ bytes " is " ++ kindText (isDirectory b) ++ ['\n'])
      return 1
    else if isDirectory a && there.2 && !inside then
      compare p fuel inside (within a (Files.baseName b)) b
    else if isDirectory b && there.1 && !inside then
      compare p fuel inside a (within b (Files.baseName a))
    else
      let content (path : Bytes) (here other : Bool) : Act (Option Bytes) := do
        if p.newFiles && !here && other then return some []
        match ← contentOf path with
        | .ok t => return some t
        | .error e =>
          say "diff" (path ++ bytes ": " ++ bytes e.message)
          return none
      let s ← content a there.1 there.2
      let t ← if a = b then pure s else content b there.2 there.1
      match s, t with
      | some s, some t => compareTexts p inside a b s t
      | _, _ => return 2


/-- Letters of options that have long names only. -/
def normal : Char := '1'
def color : Char := '2'

def options : Options :=
  { letters := String.ofList ("qsiwbBZaurNcdptTEH".toList ++ [normal])
    valued := "UCL", optional := String.ofList ['U', 'C', color]
    long := [("brief", 'q'), ("report-identical-files", 's'), ("ignore-case", 'i'),
      ("ignore-all-space", 'w'), ("ignore-space-change", 'b'), ("ignore-blank-lines", 'B'),
      ("ignore-trailing-space", 'Z'), ("text", 'a'), ("recursive", 'r'), ("new-file", 'N'),
      ("unified", 'U'), ("context", 'C'), ("label", 'L'), ("normal", normal), ("color", color),
      ("minimal", 'd')] }

/-- An option with a number behind its letter, as the option that takes a number. -/
def withNumber (arg : Bytes) : Bytes :=
  match arg with
  | '-' :: c :: d :: rest =>
    if (d :: rest).all Char.isDigit && (c = 'u' || c = 'c') then '-' :: c.toUpper :: d :: rest
    else arg
  | arg => arg

/-- The plan that options ask for. -/
def plan (g : Given) (args : List Bytes) : Plan :=
  { layout := match g.options.reverse.find? fun o => "uUcC".toList.contains o.1 with
      | some (c, t) => if c = 'u' ∨ c = 'U' then .unified ((natural? t).getD 3)
        else .context ((natural? t).getD 3)
      | none => .normal
    likeness :=
      { folded := g.has 'i', blanksJoined := g.has 'b', blanksIgnored := g.has 'w'
        lastBlanksIgnored := g.has 'Z', blankLines := g.has 'B' }
    brief := g.has 'q', reportsSame := g.has 's', text := g.has 'a', recursive := g.has 'r'
    newFiles := g.has 'N', labels := g.values 'L'
    options := args.filter fun a => !g.operands.contains a }

/-- Compares two files or directories line by line. -/
def diff : Program := fun _ args =>
  withOptions "diff" options (args.map withNumber) fun g =>
    let p := plan g args
    if 2 < p.labels.length then do refuse 2 "diff" (bytes "too many file label options")
    else
      match g.operands with
      | [a, b] => do setStatus (← compare p 64 false a b)
      | [] => misused "diff" (bytes "missing operand after 'diff'")
      | [a] => misused "diff" (bytes "missing operand after " ++ quoted a)
      | _ :: _ :: extra :: _ => misused "diff" (bytes "extra operand " ++ quoted extra)

end JobLauncher.Shell.Tool.Differences
