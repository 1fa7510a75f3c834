import JobLauncher.Shell.Glob
import JobLauncher.Shell.Regex
import JobLauncher.Shell.Tool.Places

/-!
# Listings of files

Tools that show what is in directories, and that look for files that fit an expression.
-/

namespace JobLauncher.Shell.Tool.Listing

/-! ## Directories -/

/-- A name and what it stands for. -/
structure Named where
  name : Bytes
  place : Path
  entry : Entry

/-- The mark after a name that tells what it stands for. -/
def mark (all : Bool) (n : Named) : Bytes := match n.entry.node with
  | .directory => ['/']
  | .link _ => if all then ['@'] else []
  | .device _ => []
  | _ => if all ∧ n.entry.mode &&& 0o111 ≠ 0 then ['*'] else []

/-- Names in the order that options ask for. -/
def ordered (g : Given) (ns : List Named) : List Named :=
  let byName := ns.mergeSort fun a b => !decide (b.name < a.name)
  let sorted := match g.last? "StU" with
    | some 'S' => byName.mergeSort fun a b => Places.sizeOf b.entry ≤ Places.sizeOf a.entry
    | some 't' => byName.mergeSort fun a b => b.entry.changed ≤ a.entry.changed
    | _ => byName
  if g.has 'r' then sorted.reverse else sorted

/-- The lines of names in full. -/
def longLines (ns : List Named) (shown : Named → Bytes) : List Bytes :=
  let sizes := ns.map fun n => decimal (Places.sizeOf n.entry)
  let width := (sizes.map List.length).foldl max 1
  (ns.zip sizes).map fun (n, size) =>
    Places.kindLetter n.entry :: Mode.text n.entry.mode ++ bytes " 1 root root "
      ++ padLeft ' ' width size ++ bytes " Jan  1  1970 " ++ shown n
      ++ match n.entry.node with
        | .link t => bytes " -> " ++ t
        | _ => []

/-- The text of names as options ask for it. -/
def namesText (g : Given) (ns : List Named) : Bytes :=
  let shown (n : Named) : Bytes :=
    (if g.has 'Q' then ['"'] ++ n.name ++ ['"'] else n.name)
      ++ if g.has 'F' then mark true n else if g.has 'p' then mark false n else []
  match g.last? "lm1n" with
  | some 'm' =>
    if ns = [] then [] else List.intercalate (bytes ", ") (ns.map shown) ++ ['\n']
  | some '1' | none => unlines (ns.map shown)
  | _ => unlines (longLines ns shown)

/-- What is in a directory. -/
def inside (m : Machine) (g : Given) (p : Path) : List Named :=
  let children := (m.files.children p).filterMap fun name =>
    (m.files.at? (p ++ [name])).map fun entry => ({ name, place := p ++ [name], entry } : Named)
  let visible := if g.has 'a' || g.has 'A' then children
    else children.filter fun n => n.name.head? ≠ some '.'
  let points := if g.has 'a' then
      [(['.'], p), (['.', '.'], p.dropLast)].filterMap fun (name, q) =>
        (m.files.at? q).map fun entry => ({ name, place := q, entry } : Named)
    else []
  ordered g (points ++ visible)

/-- The listing of a directory, and of those in it if that is asked for. -/
def directoryText (m : Machine) (g : Given) (headed : Bool) : Nat → Bytes → Path → List Bytes
  | 0, _, _ => []
  | fuel + 1, path, p =>
    let ns := inside m g p
    let own := (if headed then path ++ bytes ":\n" else [])
      ++ (if g.has 'l' then bytes "total 0\n" else []) ++ namesText g ns
    let below := if g.has 'R' then
        ns.filter fun n => n.entry.node = .directory ∧ n.name ≠ ['.'] ∧ n.name ≠ ['.', '.']
      else []
    let slash : Bytes := if path.getLast? = some '/' then [] else ['/']
    own :: below.flatMap fun n => directoryText m g headed fuel (path ++ slash ++ n.name) n.place

/-- Shows what is in directories. -/
def ls : Program := fun _ args =>
  let options : Options :=
    { letters := "1aAbBcCdfFgGhHiIklLmnNopqQrRsStuUvxXZ", valued := "wT"
      optional := "GF"
      long := [("all", 'a'), ("almost-all", 'A'), ("directory", 'd'), ("classify", 'F'),
        ("human-readable", 'h'), ("reverse", 'r'), ("recursive", 'R'), ("color", 'G'),
        ("quote-name", 'Q'), ("inode", 'i'), ("size", 's')] }
  withGiven "ls" options 2 args fun g => do
    let m ← get
    setStatus 0
    let paths := if g.operands = [] then [['.']] else g.operands
    let mut found : List Named := []
    for path in paths do
      let follow := !(g.has 'l' || g.has 'd' || g.has 'F') || path.getLast? = some '/'
      match (m.files.find follow m.directory path).toOption.or
          (m.files.find false m.directory path).toOption with
      | some (place, entry) => found := { name := path, place, entry } :: found
      | none =>
        let e : FileFault := match m.files.find follow m.directory path with
          | .error e => e
          | .ok _ => .missing
        refuse 2 "ls" (bytes "cannot access " ++ quoted path ++ bytes ": " ++ bytes e.message)
    let (directories, files) := (ordered g found.reverse).partition fun n =>
      n.entry.node = .directory ∧ !g.has 'd'
    put (namesText g files)
    let headed := 1 < paths.length || g.has 'R'
    let texts := directories.flatMap fun n => directoryText m g headed 64 n.name n.place
    put ((if files.isEmpty || texts = [] then [] else ['\n']) ++ List.intercalate ['\n'] texts)

/-! ## Looking for files -/

/-- A condition on a file. -/
inductive Find where
  | always
  | never
  | name (folded : Bool) (p : List Glob)
  | path (folded : Bool) (p : List Glob)
  | regex (folded : Bool) (r : Regex)
  | kind (letters : Bytes)
  | empty
  /-- A size in units, compared as a sign says. -/
  | size (sign : Char) (n unit : Nat)
  | mode (sign : Char) (n : Nat)
  | newer (path : Bytes)
  | print (finish : Char)
  | printf (format : Bytes)
  | delete
  | prune
  | quit
  | exec (words : List Bytes) (together inFolder : Bool)
  | not (f : Find)
  | both (a b : Find)
  | either (a b : Find)
  | comma (a b : Find)

/-- A pattern that a text is. -/
def patternOf (t : Bytes) : List Glob :=
  Glob.ofText false (go t)
where
  go : Bytes → List Guarded
    | '\\' :: c :: rest => (c, true) :: go rest
    | c :: rest => (c, false) :: go rest
    | [] => []

/-- How deep is looked, and how. -/
structure Search where
  least : Nat := 0
  most : Option Nat := none
  /-- What is in a directory comes before it. -/
  deep : Bool := false
  acts : Bool := false

/-- The words of an expression that are left, and how it is looked. -/
structure Words where
  words : List Bytes
  search : Search := {}

abbrev FindReader := StateT Words (Except Bytes)

/-- The sign of a number and the rest of it. -/
def signed (t : Bytes) : Char × Bytes := match t with
  | '+' :: ds => ('+', ds)
  | '-' :: ds => ('-', ds)
  | ds => ('=', ds)

/-- The next word, which goes with an option. -/
def argument (option : Bytes) : FindReader Bytes := do
  let s ← get
  match s.words with
  | [] => throw (bytes "missing argument to \x60" ++ option ++ bytes "'")
  | w :: rest =>
    set { s with words := rest }
    return w

/-- The words of a command up to its end, and whether files are given to it together. -/
def commandOf (option : Bytes) : List Bytes → List Bytes → Except Bytes (List Bytes × Bool × List Bytes)
  | found, w :: rest =>
    if w = [';'] then .ok (found.reverse, false, rest)
    else if w = ['+'] ∧ found.head? = some (bytes "\x7b\x7d") then
      .ok (found.tail.reverse, true, rest)
    else commandOf option (w :: found) rest
  | _, [] => .error (bytes "missing argument to \x60" ++ option ++ bytes "'")

mutual

/-- Reads conditions of which one is enough. -/
def readEither : Nat → FindReader Find
  | 0 => return .always
  | fuel + 1 => do
    let a ← readBoth fuel
    let s ← get
    match s.words with
    | w :: rest =>
      if w = bytes "-o" ∨ w = bytes "-or" then
        set { s with words := rest }
        return .either a (← readEither fuel)
      else if w = [','] then
        set { s with words := rest }
        return .comma a (← readEither fuel)
      else return a
    | [] => return a

/-- Reads conditions that all have to hold. -/
def readBoth : Nat → FindReader Find
  | 0 => return .always
  | fuel + 1 => do
    let a ← readOne fuel
    let s ← get
    match s.words with
    | [] => return a
    | w :: rest =>
      if ["-o", "-or", ")", ","].any fun t => bytes t = w then return a
      else
        if w = bytes "-a" ∨ w = bytes "-and" then set { s with words := rest }
        return .both a (← readBoth fuel)

/-- Reads one condition. -/
def readOne : Nat → FindReader Find
  | 0 => return .always
  | fuel + 1 => do
    let s ← get
    match s.words with
    | [] => return .always
    | w :: rest =>
      set { s with words := rest }
      let act (f : Find) : FindReader Find := do
        modify fun s => { s with search := { s.search with acts := true } }
        return f
      let number : FindReader Nat := do
        let t ← argument w
        match natural? t with
        | some n => return n
        | none =>
          throw (bytes "Expected a positive decimal integer argument to " ++ w ++ bytes ", but got "
            ++ quoted t)
      match textOfBytes w with
      | "(" =>
        let f ← readEither fuel
        let s ← get
        match s.words with
        | c :: rest =>
          if c = [')'] then
            set { s with words := rest }
            return f
          else throw (bytes "invalid expression")
        | [] => throw (bytes "invalid expression; I was expecting to find a ')' somewhere but did not see one.")
      | "!" | "-not" => return .not (← readOne fuel)
      | "-true" => return .always
      | "-false" => return .never
      | "-name" => return .name false (patternOf (← argument w))
      | "-iname" => return .name true (patternOf ((← argument w).map Char.toLower))
      | "-path" | "-wholename" => return .path false (patternOf (← argument w))
      | "-ipath" | "-iwholename" => return .path true (patternOf ((← argument w).map Char.toLower))
      | "-regex" => return .regex false (← expression (← argument w))
      | "-iregex" => return .regex true (← expression (← argument w))
      | "-type" | "-xtype" =>
        let t ← argument w
        match (splitAt ',' t).find? fun k => k.length ≠ 1 ∨ !"bcdpfls".toList.contains (k.headD 'x') with
        | some k =>
          throw (bytes (if k.length ≤ 1 then "Unknown argument to -type: "
            else "Must separate multiple arguments to -type using: ','")
            ++ if k.length ≤ 1 then k else [])
        | none => return .kind t
      | "-empty" => return .empty
      | "-size" =>
        let t ← argument w
        let (sign, rest) := signed t
        let digits := rest.takeWhile Char.isDigit
        let unit := match rest.drop digits.length with
          | ['c'] => some 1
          | ['w'] => some 2
          | ['b'] | [] => some 512
          | ['k'] => some 1024
          | ['M'] => some 1048576
          | ['G'] => some 1073741824
          | _ => none
        match natural? digits, unit with
        | some n, some unit => return .size sign n unit
        | _, _ => throw (bytes "Invalid argument \x60" ++ t ++ bytes "' to -size")
      | "-perm" =>
        let t ← argument w
        let (sign, rest) := match t with
          | '-' :: ds => ('-', ds)
          | '/' :: ds => ('/', ds)
          | ds => ('=', ds)
        match (Mode.ofDigits? rest).or (Mode.change false 0 0 rest).toOption with
        | some n => return .mode sign n
        | none => throw (bytes "invalid mode " ++ quoted t)
      | "-newer" => return .newer (← argument w)
      | "-print" => act (.print '\n')
      | "-print0" => act (.print (Char.ofNat 0))
      | "-printf" => act (.printf (← argument w))
      | "-delete" =>
        modify fun s => { s with search := { s.search with deep := true } }
        act .delete
      | "-prune" => return .prune
      | "-quit" => act .quit
      | "-exec" | "-execdir" | "-ok" | "-okdir" =>
        let s ← get
        match commandOf w [] s.words with
        | .error e => throw e
        | .ok (words, together, rest) =>
          set { s with words := rest }
          act (.exec words together (w = bytes "-execdir" ∨ w = bytes "-okdir"))
      | "-maxdepth" =>
        let n ← number
        modify fun s => { s with search := { s.search with most := some n } }
        return .always
      | "-mindepth" =>
        let n ← number
        modify fun s => { s with search := { s.search with least := n } }
        return .always
      | "-depth" =>
        modify fun s => { s with search := { s.search with deep := true } }
        return .always
      | "-mount" | "-xdev" | "-noleaf" | "-follow" | "-daystart" => return .always
      | "-user" | "-group" | "-uid" | "-gid" =>
        let t ← argument w
        return if t = bytes "root" ∨ t = ['0'] then .always else .never
      | _ =>
        if w.head? = some '-' then throw (bytes "unknown predicate \x60" ++ w ++ bytes "'")
        else throw (bytes "paths must precede expression: \x60" ++ w ++ bytes "'")
where
  expression (t : Bytes) : FindReader Regex :=
    match Regex.parse false t with
    | .ok (r, _) => return r
    | .error f => throw (bytes f.message)

end

/-- A file that has been found: how it is called, how deep it is, and what it is. -/
structure Finding where
  path : Bytes
  start : Bytes
  depth : Nat
  place : Path
  entry : Entry

/-- What is known while files are looked for. -/
structure Found where
  /-- Files that commands get together, the last one first. -/
  together : List (List Bytes × List Bytes) := []
  pruned : Bool := false
  quits : Bool := false
  failed : Bool := false

abbrev FindAct := StateT Found Act

/-- The text of a file in a format. -/
def formatted (f : Finding) : Nat → Bytes → Bytes
  | 0, _ => []
  | fuel + 1, '%' :: c :: rest =>
    (match c with
      | 'p' => f.path
      | 'f' => Files.baseName f.path
      | 'h' => Files.directoryName f.path
      | 'P' => (f.path.drop f.start.length).dropWhile (· = '/')
      | 'H' => f.start
      | 'd' => decimal f.depth
      | 's' => decimal (Places.sizeOf f.entry)
      | 'm' => Nat.toDigits 8 f.entry.mode
      | 'M' => Places.kindLetter f.entry :: Mode.text f.entry.mode
      | 'y' => [letterOf f.entry]
      | 'u' | 'g' => bytes "root"
      | 'U' | 'G' => ['0']
      | 'l' => match f.entry.node with
        | .link t => t
        | _ => []
      | '%' => ['%']
      | c => ['%', c]) ++ formatted f fuel rest
  | fuel + 1, '\\' :: rest =>
    match escapeOf .format rest with
    | (.bytes bs, rest) => bs ++ formatted f fuel rest
    | (_, rest) => '\\' :: formatted f fuel rest
  | fuel + 1, c :: rest => c :: formatted f fuel rest
  | _, [] => []
where
  letterOf (e : Entry) : Char := match Places.kindLetter e with
    | '-' => 'f'
    | c => c

/-- A word with a path in place of each mark. -/
def withPath (path : Bytes) : Bytes → Bytes
  | '\x7b' :: '\x7d' :: rest => path ++ withPath path rest
  | c :: rest => c :: withPath path rest
  | [] => []

/-- Whether a file fits a condition; some conditions do something. -/
def fits (go : Perform) (f : Finding) : Find → FindAct Bool
  | .always => return true
  | .never => return false
  | .name folded p =>
    let name := Files.baseName f.path
    return Glob.holds p (if folded then name.map Char.toLower else name)
  | .path folded p => return Glob.holds p (if folded then f.path.map Char.toLower else f.path)
  | .regex folded r =>
    let s : Regex.Subject := { chars := f.path.toArray, folded }
    return (r.matchAt s 0).any fun m => m.finish = f.path.length
  | .kind letters =>
    let c := Places.kindLetter f.entry
    return letters.contains (if c = '-' then 'f' else c)
  | .empty => do
    match f.entry.node with
    | .file [] => return true
    | .directory => return (← getThe Machine).files.children f.place = []
    | _ => return false
  | .size sign n unit =>
    let units := (Places.sizeOf f.entry + unit - 1) / unit
    return if sign = '+' then n < units else if sign = '-' then units < n else units = n
  | .mode sign n =>
    let mode := f.entry.mode
    return if sign = '-' then mode &&& n = n
      else if sign = '/' then n = 0 ∨ mode &&& n ≠ 0 else mode = n
  | .newer path => do
    let m ← getThe Machine
    return (m.files.entry? m.directory path).any fun e => e.changed < f.entry.changed
  | .print finish => do
    put (f.path ++ [finish])
    return true
  | .printf format => do
    put (formatted f (format.length + 1) format)
    return true
  | .delete => do
    let m ← getThe Machine
    if f.path = ['.'] then return true
    else if f.entry.node = .directory ∧ m.files.children f.place ≠ [] then
      say "find" (bytes "cannot delete " ++ quoted f.path ++ bytes ": Directory not empty")
      modify fun s => { s with failed := true }
      return false
    else
      Places.changeFiles (·.remove f.place)
      return true
  | .prune => do
    modify fun s => { s with pruned := true }
    return true
  | .quit => do
    modify fun s => { s with quits := true }
    return true
  | .exec words together inFolder => do
    if together then
      modify fun s =>
        match s.together.lookup words with
        | some paths => { s with
            together := s.together.map fun e => if e.1 = words then (words, f.path :: paths) else e }
        | none => { s with together := (words, [f.path]) :: s.together }
      return true
    else
      let shown := if inFolder then bytes "./" ++ Files.baseName f.path else f.path
      go (.program (words.map (withPath shown)))
      return (← getThe Machine).status = 0
  | .not a => do return !(← fits go f a)
  | .both a b => do if ← fits go f a then fits go f b else return false
  | .either a b => do if ← fits go f a then return true else fits go f b
  | .comma a b => do
    let _ ← fits go f a
    fits go f b

/-- Goes through what is at and below a place. -/
def visit (go : Perform) (search : Search) (condition : Find) (start : Bytes) :
    Nat → Nat → Bytes → Path → FindAct Unit
  | 0, _, _, _ => return
  | fuel + 1, depth, path, place => do
    let m ← getThe Machine
    match m.files.at? place with
    | none => return
    | some entry =>
      if (← get).quits then return
      let f : Finding := { path, start, depth, place, entry }
      let own : FindAct Unit := do
        if search.least ≤ depth then
          let _ ← fits go f condition
      let below : FindAct Unit := do
        if entry.node = .directory ∧ search.most.all (depth < ·) then
          for name in (← getThe Machine).files.children place do
            let slash : Bytes := if path.getLast? = some '/' then [] else ['/']
            visit go search condition start fuel (depth + 1) (path ++ slash ++ name) (place ++ [name])
      modify fun s => { s with pruned := false }
      if search.deep then
        below
        own
      else
        own
        if !(← get).pruned then below

/-- Looks for files. -/
def find : Program := fun go args => do
  let args := args.dropWhile fun a => ["-H", "-L", "-P"].any fun o => bytes o = a
  let isExpression (a : Bytes) : Bool :=
    (a.head? = some '-' && 1 < a.length) || a = ['('] || a = ['!']
  let starts := args.takeWhile fun a => !isExpression a
  let words := args.drop starts.length
  match (readEither (4 * words.length + 8)).run { words } with
  | .error e => refuse 1 "find" e
  | .ok (condition, s) =>
    match s.words with
    | _ :: _ => refuse 1 "find" (bytes "invalid expression; you have too many ')'")
    | [] =>
      let condition := if s.search.acts then condition else .both condition (.print '\n')
      setStatus 0
      let mut failed := false
      let mut state : Found := {}
      for start in if starts = [] then [['.']] else starts do
        let m ← get
        match m.files.find false m.directory start with
        | .error e =>
          say "find" (quoted start ++ bytes ": " ++ bytes e.message)
          failed := true
        | .ok (place, _) =>
          let ((), after) ← (visit go s.search condition start 64 0 start place).run state
          state := after
      for (words, paths) in state.together.reverse do
        go (.program (words ++ paths.reverse))
        if (← get).status ≠ 0 then failed := true
      setStatus (if failed || state.failed then 1 else 0)

end JobLauncher.Shell.Tool.Listing
