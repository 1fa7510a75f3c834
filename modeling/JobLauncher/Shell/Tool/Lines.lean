import JobLauncher.Shell.Tool.Basic

/-!
# Lines

Tools that copy texts line by line, whole or in part, number their lines, count them and fold them.
-/

namespace JobLauncher.Shell.Tool.Lines

/-! ## Counts -/

/-- The factor that letters after a number stand for. -/
def factor? (unit : Bytes) : Option Nat :=
  match textOfBytes unit with
  | "" => some 1
  | "b" => some 512
  | "kB" | "KB" => some 1000
  | "k" | "K" | "KiB" => some 1024
  | "MB" => some 1000000
  | "M" | "MiB" => some 1048576
  | "GB" => some 1000000000
  | "G" | "GiB" => some 1073741824
  | _ => none

/-- The number that a text is, with a unit after it. -/
def count? (t : Bytes) : Option Nat := do
  let digits := t.takeWhile Char.isDigit
  let n ← natural? digits
  return n * (← factor? (t.drop digits.length))

/-- How much is asked for, and from which end. -/
structure Extent where
  /-- The unit is a byte. -/
  isBytes : Bool := false
  /-- Counted from the other end. -/
  opposite : Bool := false
  count : Nat := 10

/-- A part of a text in units. -/
def Extent.units (e : Extent) (text : Bytes) : List Bytes :=
  if e.isBytes then text.map fun c => [c] else linesOf text

/-- The first part of a text. -/
def Extent.first (e : Extent) (text : Bytes) : Bytes :=
  if e.isBytes then text.take (if e.opposite then text.length - e.count else e.count)
  else
    let lines := linesOf text
    (lines.take (if e.opposite then lines.length - e.count else e.count)).flatten

/-- The last part of a text. -/
def Extent.last (e : Extent) (text : Bytes) : Bytes :=
  let part (n : Nat) : Nat := if e.opposite then e.count - 1 else n - e.count
  if e.isBytes then text.drop (part text.length)
  else
    let lines := linesOf text
    (lines.drop (part lines.length)).flatten

/-- What an old option of one number asks for, as a new one. -/
def modern (args : List Bytes) : List Bytes :=
  match args with
  | ('-' :: c :: cs) :: rest =>
    let digits := (c :: cs).takeWhile Char.isDigit
    if digits = [] then args
    else
      let unit := (c :: cs).drop digits.length
      let letter := if unit.contains 'c' then 'c' else 'n'
      ('-' :: letter :: digits) :: rest
  | args => args

/-- The extent that options ask for; none with what is wrong. -/
def extent? (sign : Char) (g : Given) : Except Bytes Extent :=
  match g.last? "nc" with
  | none => .ok {}
  | some letter =>
    let t := (g.value? letter).getD []
    let isBytes := letter = 'c'
    let (opposite, digits) := match t with
      | c :: rest =>
        if c = sign then (true, rest) else if c = '-' ∨ c = '+' then (false, rest) else (false, t)
      | [] => (false, [])
    match count? digits with
    | some count => .ok { isBytes, opposite, count }
    | none => .error (bytes (if isBytes then "invalid number of bytes: " else "invalid number of lines: ")
        ++ quoted digits)

/-- The name of an input in a header. -/
def inputName (path : Bytes) : Bytes := if path = ['-'] then bytes "standard input" else path

/-- How much a tool reads at once. -/
def blockSize : Nat := 8192

/-- Does something with parts of files, each under a header if there are several. `use` gives what of
a text is shown and how much of it is read. -/
def parts (name : String) (g : Given) (use : Bytes → Bytes × Nat) (needed : Nat) : Act Unit := do
  setStatus 0
  let paths := if g.operands = [] then [['-']] else g.operands
  let headed := (1 < paths.length && !g.has 'q') || g.has 'v'
  let mut first := true
  for path in paths do
    match ← openText path needed with
    | .error e =>
      match e with
      | .isDirectory =>
        refuse 1 name (bytes "error reading " ++ quoted (inputName path) ++ bytes ": Is a directory")
      | e =>
        refuse 1 name (bytes "cannot open " ++ quoted path ++ bytes " for reading: " ++ bytes e.message)
    | .ok (text, channel) =>
      if headed then
        put ((if first then [] else ['\n']) ++ bytes "==> " ++ inputName path ++ bytes " <==\n")
      first := false
      let (shown, read) := use text
      modify fun m => m.pass channel read
      output name shown
where
  /-- The text at a path and the channel it comes from. -/
  openText (path : Bytes) (needed : Nat) : Act (Except FileFault (Bytes × Nat)) := do
    let m ← get
    let opened : Except FileFault (Nat × Machine) :=
      if path = ['-'] then
        match m.streams.lookup 0 with
        | some n => .ok (n, m)
        | none => .error .badStream
      else
        match m.openInput path with
        | .error e => .error e
        | .ok (.shared n) => .ok (n, m)
        | .ok (.fresh c) => .ok (m.openChannel c)
    match opened with
    | .error e => return .error e
    | .ok (n, opened) =>
      match opened.rest n needed with
      | .error e => return .error e
      | .ok text =>
        set opened
        return .ok (text, n)

/-- How much is read of a text of which a part is shown: files go back to where the part ends, and
others are read in blocks. -/
def consumed (isFile : Bool) (e : Extent) (shown text : Bytes) : Nat :=
  if isFile || e.isBytes then shown.length
  else min text.length ((shown.length / blockSize + 1) * blockSize)

/-- The first lines or bytes. -/
def head : Program := fun _ args =>
  let options : Options :=
    { letters := "qvz", valued := "nc"
      long := [("lines", 'n'), ("bytes", 'c'), ("quiet", 'q'), ("silent", 'q'), ("verbose", 'v')] }
  withGiven "head" options 1 (modern args) fun g => do
    match extent? '-' g with
    | .error e => refuse 1 "head" e
    | .ok e =>
      let m ← get
      let isFile := (m.channel? 0).any (· matches .file ..)
      parts "head" g (fun text =>
        let shown := e.first text
        (shown, consumed isFile e shown text)) e.count

/-- The last lines or bytes. -/
def tail : Program := fun _ args =>
  let options : Options :=
    { letters := "fFqvz", valued := "ncs"
      long := [("lines", 'n'), ("bytes", 'c'), ("quiet", 'q'), ("silent", 'q'), ("verbose", 'v')] }
  withGiven "tail" options 1 (modern args) fun g => do
    match extent? '+' g with
    | .error e => refuse 1 "tail" e
    | .ok e => parts "tail" g (fun text => (e.last text, text.length)) Machine.endless

/-! ## Copying -/

/-- A character so that it can be seen. -/
def visible (tabs breaks : Bool) (c : Char) : Bytes :=
  if c = '\t' then if tabs then bytes "^I" else [c]
  else if c = '\n' then if breaks then bytes "$\n" else [c]
  else if isControl c then ['^', Char.ofNat ((c.toNat + 64) % 128)]
  else if c.toNat < 128 then [c]
  else bytes "M-" ++ low (Char.ofNat (c.toNat - 128))
where
  low (c : Char) : Bytes := if isControl c then ['^', Char.ofNat ((c.toNat + 64) % 128)] else [c]

/-- Leaves one of several empty lines. -/
def squeezeEmpty : List Bytes → List Bytes
  | a :: b :: rest =>
    if a = ['\n'] ∧ b = ['\n'] then squeezeEmpty (b :: rest) else a :: squeezeEmpty (b :: rest)
  | rest => rest

/-- Copies files one after another. -/
def cat : Program := fun _ args =>
  let options : Options :=
    { letters := "AbeEnstTuv"
      long := [("show-all", 'A'), ("number-nonblank", 'b'), ("show-ends", 'E'), ("number", 'n'),
        ("squeeze-blank", 's'), ("show-tabs", 'T'), ("show-nonprinting", 'v')] }
  withGiven "cat" options 1 args fun g => do
    let text ← allText "cat" g.operands 1
    let status := (← get).status
    let ends := g.has 'E' || g.has 'e' || g.has 'A'
    let tabs := g.has 'T' || g.has 't' || g.has 'A'
    let controls := g.has 'v' || g.has 'e' || g.has 't' || g.has 'A'
    let changed :=
      if g.options = [] then text
      else
        let lines := linesOf text
        let lines := if g.has 's' then squeezeEmpty lines else lines
        let shown (c : Char) : Bytes :=
          if controls then visible tabs ends c
          else if c = '\t' && tabs then bytes "^I"
          else if c = '\n' && ends then bytes "$\n"
          else [c]
        let lines := lines.map fun line => (line, line.flatMap shown)
        let lines := if g.has 'b' then number false 1 lines
          else if g.has 'n' then number true 1 lines
          else lines.map (·.2)
        lines.flatten
    output "cat" changed
    if status ≠ 0 then setStatus status
where
  /-- Numbers lines as they are shown. -/
  number (all : Bool) : Nat → List (Bytes × Bytes) → List Bytes
    | _, [] => []
    | n, (line, shown) :: rest =>
      if all || line ≠ ['\n'] then
        (padLeft ' ' 6 (decimal n) ++ '\t' :: shown) :: number all (n + 1) rest
      else shown :: number all n rest

/-- Copies its input to files and to its output. -/
def tee : Program := fun _ args =>
  let options : Options :=
    { letters := "aip", long := [("append", 'a'), ("ignore-interrupts", 'i')] }
  withGiven "tee" options 1 args fun g => do
    let text ← readInput
    setStatus 0
    for path in g.operands do
      match ← writeFile path text (g.has 'a') with
      | none => pure ()
      | some e => refuse 1 "tee" (path ++ bytes ": " ++ bytes e.message)
    output "tee" text

/-- The lines of each file, the last one first. -/
def tac : Program := fun _ args =>
  withGiven "tac" { letters := "br", valued := "s" } 1 args fun g => do
    setStatus 0
    for path in if g.operands = [] then [['-']] else g.operands do
      match ← contentOf path with
      | .ok text => output "tac" (linesOf text).reverse.flatten
      | .error .isDirectory =>
        refuse 1 "tac" (path ++ bytes ": read error: Is a directory")
      | .error e =>
        refuse 1 "tac" (bytes "failed to open " ++ quoted path ++ bytes " for reading: "
          ++ bytes e.message)

/-- The characters of each line, the last one first. -/
def rev : Program := fun _ args =>
  withGiven "rev" { letters := "0" } 1 args fun g => do
    setStatus 0
    for path in if g.operands = [] then [['-']] else g.operands do
      match ← contentOf path with
      | .ok text =>
        output "rev" ((linesOf text).flatMap fun line =>
          (chomp line).reverse ++ line.drop (chomp line).length)
      | .error e => refuse 1 "rev" (bytes "cannot open " ++ path ++ bytes ": " ++ bytes e.message)

/-! ## Counting -/

/-- What can be counted in a text. -/
structure Count where
  lines : Nat := 0
  words : Nat := 0
  bytes : Nat := 0
  longest : Nat := 0

/-- Counts in a text. -/
def countIn (text : Bytes) : Count :=
  let (c, _, width) := text.foldl (fun (c, inWord, width) (ch : Char) =>
    let c := { c with bytes := c.bytes + 1 }
    if ch = '\n' then ({ c with lines := c.lines + 1, longest := max c.longest width }, false, 0)
    else if ch = '\t' then (c, false, (width / 8 + 1) * 8)
    else if ch = ' ' then (c, false, width + 1)
    else if isSpaceByte ch then
      ({ c with longest := max c.longest width }, false, if ch.toNat = 11 then width else 0)
    else
      let shows : Bool := isGraph ch
      ({ c with words := if inWord || !(shows || 128 ≤ ch.toNat) then c.words else c.words + 1 },
        inWord || shows || 128 ≤ ch.toNat, if shows then width + 1 else width))
    (({} : Count), false, 0)
  { c with longest := max c.longest width }

/-- Counts lines, words and bytes. -/
def wc : Program := fun _ args =>
  let options : Options :=
    { letters := "clmLw"
      long := [("bytes", 'c'), ("chars", 'm'), ("lines", 'l'), ("max-line-length", 'L'), ("words", 'w')] }
  withGiven "wc" options 1 args fun g => do
    let wants (c : Char) : Bool := if g.options = [] then "lwc".toList.contains c else g.has c
    let shownOf (c : Count) : List Nat :=
      (if wants 'l' then [c.lines] else []) ++ (if wants 'w' then [c.words] else [])
        ++ (if wants 'm' then [c.bytes] else []) ++ (if wants 'c' then [c.bytes] else [])
        ++ (if wants 'L' then [c.longest] else [])
    let paths := if g.operands = [] then [['-']] else g.operands
    let m ← get
    let sizes := paths.map (sizeOf? m)
    let single : Bool := paths.length = 1 ∧ (shownOf {}).length = 1
    let total := (sizes.filterMap fun s => s.bind id).foldl (· + ·) 0
    let other : Bool := sizes.any (· == some none)
    let width := if single then 1 else max (decimal total).length (if other then 7 else 1)
    let line (c : Count) (name : Bytes) : Bytes :=
      spaced ((shownOf c).map fun n => padLeft ' ' width (decimal n)) ++ name ++ ['\n']
    setStatus 0
    let mut all : Count := {}
    for path in paths do
      let name := if g.operands = [] then [] else ' ' :: path
      match ← contentOf path with
      | .ok text =>
        let c := countIn text
        all := { lines := all.lines + c.lines, words := all.words + c.words
                 bytes := all.bytes + c.bytes, longest := max all.longest c.longest }
        put (line c name)
      | .error e =>
        refuse 1 "wc" (path ++ bytes ": " ++ bytes e.message)
        if e = .isDirectory then put (line {} name)
    if 1 < paths.length then put (line all (bytes " total"))
where
  /-- The size of what is at a path: nothing if there is nothing, and no number if it has no size. -/
  sizeOf? (m : Machine) (path : Bytes) : Option (Option Nat) :=
    if path = ['-'] then
      match m.channel? 0 with
      | some (.file p ..) =>
        match m.files.at? p with
        | some { node := .file text, .. } => some (some text.length)
        | _ => some none
      | _ => some none
    else
      match m.files.entry? m.directory path with
      | some { node := .file text, .. } => some (some text.length)
      | some _ => some none
      | none => none

/-! ## Laying lines out -/

/-- Numbers the lines of its input. -/
def nl : Program := fun _ args =>
  withGiven "nl" { letters := "p", valued := "bdfhilnsvw" } 1 args fun g => do
    let text ← allText "nl" g.operands 1
    let number (c : Char) (usual : Nat) : Nat := ((g.value? c).bind natural?).getD usual
    let width := number 'w' 6
    let mark := (g.value? 's').getD ['\t']
    let style := (g.value? 'b').getD ['t']
    let layout (n : Nat) : Bytes :=
      match g.value? 'n' with
      | some ['l', 'n'] => padRight ' ' width (decimal n)
      | some ['r', 'z'] => padLeft '0' width (decimal n)
      | _ => padLeft ' ' width (decimal n)
    let step := number 'i' 1
    let (lines, _) := (bareLines text).foldl (fun (done, n) line =>
      if style = ['a'] ∨ (style = ['t'] ∧ line ≠ []) then
        ((layout n ++ mark ++ line) :: done, n + step)
      else ((List.replicate (width + mark.length) ' ' ++ line) :: done, n)) ([], number 'v' 1)
    output "nl" (unlines lines.reverse)

/-- Breaks a line into pieces of a width; after a blank if `atBlanks`. -/
def foldLine (width : Nat) (atBlanks : Bool) : Nat → Bytes → List Bytes
  | 0, line => [line]
  | fuel + 1, line =>
    if line.length ≤ width then [line]
    else
      let piece := line.take width
      let cut := if atBlanks then
          match piece.reverse.findIdx? isBlank with
          | some i => width - i
          | none => width
        else width
      line.take cut :: foldLine width atBlanks fuel (line.drop cut)

/-- Breaks long lines. -/
def fold : Program := fun _ args =>
  let options : Options :=
    { letters := "bs", valued := "w", long := [("bytes", 'b'), ("spaces", 's'), ("width", 'w')] }
  let old : List Bytes := args.map fun a => match a with
    | '-' :: cs => if cs ≠ [] ∧ cs.all Char.isDigit then bytes "-w" ++ cs else a
    | a => a
  withGiven "fold" options 1 old fun g => do
    let asked := (g.value? 'w').getD (bytes "80")
    match natural? asked with
    | none | some 0 => refuse 1 "fold" (bytes "invalid number of columns: " ++ quoted asked)
    | some width =>
      let text ← allText "fold" g.operands 1
      output "fold" ((linesOf text).flatMap fun line =>
        let bare := chomp line
        List.intercalate ['\n'] (foldLine width (g.has 's') bare.length bare)
          ++ line.drop bare.length)

/-- Puts blanks in place of tabs. -/
def expandTabs (stop : Nat) (line : Bytes) : Bytes :=
  (line.foldl (fun (done, column) c =>
    if c = '\t' then
      let n := stop - column % stop
      (List.replicate n ' ' ++ done, column + n)
    else (c :: done, column + 1)) (([] : Bytes), 0)).1.reverse

def expand : Program := fun _ args =>
  withGiven "expand" { letters := "i", valued := "t", long := [("tabs", 't')] } 1 args fun g => do
    let stop := max 1 (((g.value? 't').bind natural?).getD 8)
    let text ← allText "expand" g.operands 1
    output "expand" ((linesOf text).flatMap (expandTabs stop))

/-- Puts tabs in place of blanks that reach a stop: those at the beginning, or all. -/
def tabBlanks (stop : Nat) (all : Bool) (line : Bytes) : Bytes :=
  let (done, blanks, _, _) := line.foldl (fun (done, blanks, column, active) c =>
    if active && c = ' ' then
      let blanks := blanks + 1
      let column := column + 1
      if column % stop = 0 ∧ 1 < blanks then ('\t' :: done, 0, column, active)
      else if column % stop = 0 then (' ' :: done, 0, column, active)
      else (done, blanks, column, active)
    else if active && c = '\t' then ('\t' :: done, 0, (column / stop + 1) * stop, active)
    else (c :: (List.replicate blanks ' ' ++ done), 0, column + 1, active && all))
    (([] : Bytes), 0, 0, true)
  (List.replicate blanks ' ' ++ done).reverse

def unexpand : Program := fun _ args =>
  withGiven "unexpand" { letters := "a", valued := "t", long := [("all", 'a'), ("tabs", 't')] } 1 args
    fun g => do
      let stop := max 1 (((g.value? 't').bind natural?).getD 8)
      let text ← allText "unexpand" g.operands 1
      output "unexpand" ((linesOf text).flatMap (tabBlanks stop (g.has 'a' || g.has 't')))

end JobLauncher.Shell.Tool.Lines
