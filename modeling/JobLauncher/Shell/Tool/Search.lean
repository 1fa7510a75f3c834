import JobLauncher.Shell.Glob
import JobLauncher.Shell.Regex
import JobLauncher.Shell.Tool.Basic

/-!
# Searching texts

`grep` selects the lines of texts in which patterns are found.
-/

namespace JobLauncher.Shell.Tool.Search

/-! ## Patterns -/

/-- A pattern: a text that stands for itself, or an expression. -/
inductive Pattern where
  | plain (t : Bytes)
  | regex (r : Regex)

/-- How patterns are to be found. -/
structure Request where
  patterns : List Pattern
  folded : Bool := false
  /-- A match is whole words. -/
  words : Bool := false
  /-- A match is a whole line. -/
  lines : Bool := false

/-- The end of the longest match of a pattern at a place. -/
def Pattern.endAt? (p : Pattern) (mayEnd : Nat → Bool) (s : Regex.Subject) (i : Nat) : Option Nat :=
  match p with
  | .plain t =>
    let finish := i + t.length
    if finish ≤ s.size ∧ mayEnd finish
        ∧ (List.zip t (s.slice i finish)).all fun (a, b) => s.same a b then some finish
    else none
  | .regex r => (r.matchWhere mayEnd s i).map (·.finish)

/-- Where the longest match at a place ends. -/
def Request.endAt? (q : Request) (s : Regex.Subject) (i : Nat) : Option Nat :=
  let mayEnd (j : Nat) : Bool :=
    (!q.lines || j = s.size) && (!q.words || !s.isWordAt j)
  if (q.lines ∧ i ≠ 0) ∨ (q.words ∧ s.isWordBefore i) then none
  else
    q.patterns.foldl (fun best p =>
      match p.endAt? mayEnd s i, best with
      | some j, some k => some (max j k)
      | found, best => found.or best) none

/-- The first match at a place or after it. -/
def Request.find? (q : Request) (s : Regex.Subject) (start : Nat) : Option (Nat × Nat) :=
  (List.range (s.size + 1 - start)).findSome? fun k =>
    (q.endAt? s (start + k)).map fun finish => (start + k, finish)

/-- All matches that are not empty, one after another. -/
def Request.all (q : Request) (s : Regex.Subject) : Nat → Nat → List (Nat × Nat)
  | 0, _ => []
  | fuel + 1, start =>
    match q.find? s start with
    | none => []
    | some (a, b) =>
      if a = b then if b < s.size then all q s fuel (b + 1) else []
      else (a, b) :: all q s fuel b

/-- Whether a text is a class without the brackets around it. -/
def isBareClass (t : Bytes) : Bool :=
  (bytes "[:").isPrefixOf t && (bytes ":]").isSuffixOf t && !(t.drop 2).contains '['

/-- An expression with letters for classes that only one kind of expression has. -/
def withClasses : Bytes → Bytes
  | '\\' :: 'd' :: rest => bytes "[0-9]" ++ withClasses rest
  | '\\' :: 'D' :: rest => bytes "[^0-9]" ++ withClasses rest
  | '\\' :: 't' :: rest => '\t' :: withClasses rest
  | '\\' :: c :: rest => '\\' :: c :: withClasses rest
  | '(' :: '?' :: ':' :: rest => '(' :: withClasses rest
  | c :: rest => c :: withClasses rest
  | [] => []

/-- The patterns that texts are. -/
def patternsOf (kind : Char) (ts : List Bytes) : Except Bytes (List Pattern) :=
  ts.mapM fun t =>
    if kind = 'F' then .ok (.plain t)
    else if isBareClass t then
      .error (bytes "character class syntax is [[:space:]], not [:space:]")
    else
      match Regex.parse (kind ≠ 'G') (if kind = 'P' then withClasses t else t) with
      | .ok (r, _) => .ok (.regex r)
      | .error f => .error (bytes f.message)

/-! ## Output -/

/-- What is shown of lines. -/
structure Shown where
  name : Option Bytes
  number : Bool
  offset : Bool
  before : Nat
  after : Nat

/-- A line of a text: its number, where it begins, and whether it is selected. -/
structure Line where
  number : Nat
  offset : Nat
  text : Bytes
  selected : Bool

/-- What stands before a line. -/
def Shown.label (s : Shown) (mark : Char) (number offset : Nat) : Bytes :=
  (s.name.map fun n => n ++ [mark]).getD []
    ++ (if s.number then decimal number ++ [mark] else [])
    ++ if s.offset then decimal offset ++ [mark] else []

/-- The lines that are shown: those that are selected and those around them. -/
def withContext (s : Shown) (lines : List Line) : List Line :=
  let found := lines.filter (·.selected)
  let chosen := found.map (·.number)
  if s.before = 0 ∧ s.after = 0 then found
  else lines.filter fun l =>
    chosen.any fun n => l.number ≤ n + s.after && n ≤ l.number + s.before

/-- The text of lines; where some are left out between two, that is marked. -/
def contextText (s : Shown) (lines : List Line) : Bytes :=
  go none (withContext s lines)
where
  go (last : Option Nat) : List Line → Bytes
    | [] => []
    | l :: rest =>
      let gap := (s.before ≠ 0 || s.after ≠ 0) && last.any (· + 1 < l.number)
      (if gap then bytes "--\n" else [])
        ++ s.label (if l.selected then ':' else '-') l.number l.offset ++ l.text ++ ['\n']
        ++ go (some l.number) rest

/-- The lines of a text with what is selected; no more than so many are. -/
def selectLines (q : Request) (opposite : Bool) (most : Option Nat) : Nat → Nat → Nat → List Bytes →
    List Line
  | _, _, _, [] => []
  | count, number, offset, text :: rest =>
    let s : Regex.Subject := { chars := text.toArray, folded := q.folded }
    let open_ : Bool := most.all (count < ·)
    let selected := open_ && ((q.find? s 0).isSome != opposite)
    { number, offset, text, selected }
      :: selectLines q opposite most (if selected then count + 1 else count) (number + 1)
        (offset + text.length + 1) rest

/-! ## The tool -/

/-- Files below a path, for a search through directories. -/
def filesBelow (m : Machine) : Nat → Bytes → Path → List Bytes
  | 0, _, _ => []
  | fuel + 1, path, place =>
    match m.files.at? place with
    | some { node := .directory, .. } =>
      (m.files.children place).flatMap fun name =>
        filesBelow m fuel (if path.getLast? = some '/' then path ++ name else path ++ ['/'] ++ name)
          (place ++ [name])
    | some { node := .link _, .. } | none => []
    | some _ => [path]

/-- Says how the tool is used. -/
def usage (said : Bytes) : Act Unit := do
  if said ≠ [] then say "grep" said
  warn (bytes "Usage: " ++ (← calledName "grep") ++ bytes " [OPTION]... PATTERNS [FILE]...\n")
  hint "grep"
  setStatus 2

def options : Options :=
  { letters := "EFGPabcHhiILlnoqRrsTUvwxyZz", valued := "ABCdDefm!@#%"
    long := [("extended-regexp", 'E'), ("fixed-strings", 'F'), ("basic-regexp", 'G'),
      ("perl-regexp", 'P'), ("text", 'a'), ("byte-offset", 'b'), ("count", 'c'),
      ("with-filename", 'H'), ("no-filename", 'h'), ("ignore-case", 'i'),
      ("files-without-match", 'L'), ("files-with-matches", 'l'), ("line-number", 'n'),
      ("only-matching", 'o'), ("quiet", 'q'), ("silent", 'q'), ("recursive", 'r'),
      ("no-messages", 's'), ("invert-match", 'v'), ("word-regexp", 'w'), ("line-regexp", 'x'),
      ("null-data", 'z'), ("after-context", 'A'), ("before-context", 'B'), ("context", 'C'),
      ("regexp", 'e'), ("file", 'f'), ("max-count", 'm'), ("include", '!'), ("exclude", '@'),
      ("exclude-dir", '#'), ("label", '%')] }

/-- A number that an option gives. -/
def number (g : Given) (c : Char) (wrong : String) : Except Bytes (Option Nat) :=
  match g.value? c with
  | none => .ok none
  | some t =>
    match natural? t with
    | some n => .ok (some n)
    | none => .error (if c = 'm' then bytes wrong else t ++ bytes ": " ++ bytes wrong)

/-- Searches one text and shows what is found; says whether something was selected. -/
def searchText (g : Given) (q : Request) (shown : Shown) (name text : Bytes) (most : Option Nat) :
    Act Bool := do
  let stop := if g.has 'z' then Char.ofNat 0 else '\n'
  let parts := splitAt stop text
  let parts := if parts.getLast? = some [] then parts.dropLast else parts
  let lines := selectLines q (g.has 'v') most 0 1 0 parts
  let count := (lines.filter (·.selected)).length
  let isBinary := text.contains (Char.ofNat 0) && !g.has 'a' && !g.has 'z'
  if g.has 'q' then pure ()
  else if g.has 'l' || g.has 'L' then
    if (0 < count) != g.has 'L' then put (name ++ ['\n'])
  else if g.has 'c' then put ((shown.name.map (· ++ [':'])).getD [] ++ decimal count ++ ['\n'])
  else if isBinary && 0 < count then say "grep" (name ++ bytes ": binary file matches")
  else if g.has 'o' then
    if !g.has 'v' then
      put ((lines.filter (·.selected)).flatMap fun l =>
        let s : Regex.Subject := { chars := l.text.toArray, folded := q.folded }
        (q.all s (s.size + 1) 0).flatMap fun (a, b) =>
          shown.label ':' l.number (l.offset + a) ++ s.slice a b ++ ['\n'])
  else
    let t := contextText shown lines
    put (if g.has 'z' then t.map fun c => if c = '\n' then Char.ofNat 0 else c else t)
  return 0 < count

/-- Searches texts with options and operands. -/
def search (g : Given) (kind : Char) : Act Unit := do
  let m ← get
  let named := g.values 'e'
  let (patterns, paths) := if g.has 'e' ∨ g.has 'f' then (named, g.operands)
    else (g.operands.take 1, g.operands.drop 1)
  if patterns = [] ∧ !g.has 'f' then usage []
  else
    let mut texts : List Bytes := patterns.flatMap (splitAt '\n')
    let mut fault : Option Bytes := none
    for path in g.values 'f' do
      match ← contentOf path with
      | .ok text => texts := texts ++ bareLines text
      | .error e => fault := some (path ++ bytes ": " ++ bytes e.message)
    let numbers : Except Bytes (Option Nat × Option Nat × Option Nat × Option Nat) := do
      return (← number g 'm' "invalid max count", ← number g 'A' "invalid context length argument",
        ← number g 'B' "invalid context length argument",
        ← number g 'C' "invalid context length argument")
    match fault, numbers, patternsOf kind texts with
    | some e, _, _ | none, .error e, _ | none, .ok _, .error e => refuse 2 "grep" e
    | none, .ok (most, after, before, around), .ok patterns =>
      let q : Request :=
        { patterns, folded := g.has 'i' || g.has 'y', words := g.has 'w', lines := g.has 'x' }
      let deep := g.has 'r' || g.has 'R'
      let starts := if paths = [] then [if deep then ['.'] else ['-']] else paths
      let fitting (c : Char) (path : Bytes) : Bool :=
        (g.values c).any fun p =>
          Glob.holds (Glob.ofText false (p.map fun c => (c, false))) (Files.baseName path)
      let inputs := if deep then starts.flatMap fun p =>
          match m.files.find true m.directory p with
          | .ok (place, _) =>
            ((filesBelow m 64 p place).filter fun f =>
              (!g.has '!' || fitting '!' f) && !fitting '@' f).map
              fun f => if paths = [] then f.drop 2 else f
          | .error _ => [p]
        else starts
      let several := (1 < inputs.length || deep || g.has 'H') && !g.has 'h'
      let mut any := false
      let mut wrong := false
      for path in inputs do
        let name := if path = ['-'] then (g.value? '%').getD (bytes "(standard input)") else path
        if m.files.isDirectory m.directory path ∧ path ≠ ['-'] then
          wrong := true
          if !g.has 's' then say "grep" (path ++ bytes ": Is a directory")
        else
          match ← contentOf path with
          | .error e =>
            wrong := true
            if !g.has 's' then say "grep" (path ++ bytes ": " ++ bytes e.message)
          | .ok text =>
            let shown : Shown :=
              { name := if several then some name else none
                number := g.has 'n', offset := g.has 'b'
                before := (before.or around).getD 0, after := (after.or around).getD 0 }
            let found ← searchText g q shown name text most
            any := any || found
      setStatus (if wrong ∧ !(any ∧ g.has 'q') then 2 else if any then 0 else 1)

/-- Selects lines; `usual` is the kind of patterns unless options name another one. -/
def grep (usual : Char) : Program := fun _ args =>
  -- an option that is a number is that of lines around
  let args := args.map fun a => match a with
    | '-' :: c :: cs => if (c :: cs).all Char.isDigit then bytes "-C" ++ c :: cs else a
    | a => a
  let args := args.filter fun a => !(bytes "--color").isPrefixOf a ∧ !(bytes "--colour").isPrefixOf a
    ∧ a ≠ bytes "--line-buffered"
  match options.given args with
  | .error e => usage e.message
  | .ok g => search g ((g.last? "EFGP").getD usual)

end JobLauncher.Shell.Tool.Search
