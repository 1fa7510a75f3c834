import JobLauncher.Shell.Real
import JobLauncher.Shell.Tool.Basic

/-!
# Order of lines

Tools that sort lines, compare neighbours, and go through two sorted files side by side.
-/

namespace JobLauncher.Shell.Tool.Order

/-! ## Comparisons -/

/-- How texts are compared. -/
inductive Measure where
  | text
  | number
  | general
  | human
  | version
  | month
  deriving DecidableEq, Repr

/-- How the keys of lines are compared. -/
structure Style where
  measure : Measure := .text
  reverse : Bool := false
  folds : Bool := false
  /-- Only blanks, letters and digits count. -/
  dictionary : Bool := false
  /-- Only characters that show count. -/
  printing : Bool := false
  skipsStart : Bool := false
  skipsEnd : Bool := false
  deriving DecidableEq, Repr

/-- A number with a fraction: its sign, the digits before the point without zeros in front, and those
after it without zeros at the end. -/
structure Numeral where
  negative : Bool
  whole : Bytes
  fraction : Bytes
  /-- The rank of the unit after it. -/
  unit : Nat := 0

/-- The number that a text begins with; zero if there is none. -/
def numeral (t : Bytes) : Numeral :=
  let t := t.dropWhile isBlank
  let (negative, t) := match t with
    | '-' :: rest => (true, rest)
    | t => (false, t)
  let whole := t.takeWhile Char.isDigit
  let rest := t.drop whole.length
  let (fraction, rest) := match rest with
    | '.' :: more => let ds := more.takeWhile Char.isDigit; (ds, more.drop ds.length)
    | rest => ([], rest)
  let unit := match rest with
    | c :: _ => ("KMGTPEZYRQ".toList.idxOf? c.toUpper).map (· + 1)
    | [] => none
  { negative, whole := whole.dropWhile (· = '0'), unit := unit.getD 0
    fraction := (fraction.reverse.dropWhile (· = '0')).reverse }

def Numeral.isZero (n : Numeral) : Bool := n.whole = [] && n.fraction = []

/-- Compares two numbers by their size. -/
def Numeral.compareSize (a b : Numeral) : Ordering :=
  (compare a.whole.length b.whole.length).then
    ((compareOfLessAndEq a.whole b.whole).then (compareOfLessAndEq a.fraction b.fraction))

def Numeral.compare (units : Bool) (a b : Numeral) : Ordering :=
  let zero (n : Numeral) : Bool := n.isZero
  if zero a && zero b then .eq
  else
    let sign (n : Numeral) : Int := if n.isZero then 0 else if n.negative then -1 else 1
    (Ord.compare (sign a) (sign b)).then
      (let bySize := if units then (Ord.compare a.unit b.unit).then (a.compareSize b)
        else a.compareSize b
      if a.negative then bySize.swap else bySize)

/-- The rank of a month by its first three letters; zero if there is none. -/
def monthRank (t : Bytes) : Nat :=
  let start := ((t.dropWhile isBlank).take 3).map Char.toUpper
  ((["JAN", "FEB", "MAR", "APR", "MAY", "JUN", "JUL", "AUG", "SEP", "OCT", "NOV", "DEC"].map
    bytes).idxOf? start).map (· + 1) |>.getD 0

/-- The rank of a character in the name of a version: a tilde comes first, letters before signs. -/
def versionRank (c : Char) : Int :=
  if c = '~' then -1 else if c.isDigit then 0 else if c.isAlpha then c.toNat else (c.toNat : Int) + 256

/-- Compares names of versions: texts and numbers in turn. -/
def compareVersions : Nat → Bytes → Bytes → Ordering
  | 0, _, _ => .eq
  | fuel + 1, a, b =>
    if a = [] ∧ b = [] then .eq
    else
      let ta := a.takeWhile fun c => !c.isDigit
      let tb := b.takeWhile fun c => !c.isDigit
      (compareTexts (max ta.length tb.length) ta tb).then <|
        let a := a.drop ta.length
        let b := b.drop tb.length
        let na := a.takeWhile Char.isDigit
        let nb := b.takeWhile Char.isDigit
        (compare ((natural? na).getD 0) ((natural? nb).getD 0)).then
          (compareVersions fuel (a.drop na.length) (b.drop nb.length))
where
  /-- Compares texts without digits; the end is like a digit. -/
  compareTexts : Nat → Bytes → Bytes → Ordering
    | 0, _, _ => .eq
    | n + 1, a, b =>
      (compare ((a.head?.map versionRank).getD 0) ((b.head?.map versionRank).getD 0)).then
        (compareTexts n a.tail b.tail)

/-- Compares what two texts are as real numbers: first what is none. -/
def compareReals (a b : Bytes) : Ordering :=
  let value (t : Bytes) : Option Numeral := real? (t.dropWhile isBlank)
  match value a, value b with
  | none, none => .eq
  | none, some _ => .lt
  | some _, none => .gt
  | some a, some b => a.compare false b
where
  /-- The number that a text begins with, with an exponent. -/
  real? (t : Bytes) : Option Numeral :=
    let (negative, body) := match t with
      | '-' :: rest => (true, rest)
      | '+' :: rest => (false, rest)
      | t => (false, t)
    let whole := body.takeWhile Char.isDigit
    let rest := body.drop whole.length
    let (fraction, rest) := match rest with
      | '.' :: more => let ds := more.takeWhile Char.isDigit; (ds, more.drop ds.length)
      | rest => ([], rest)
    if whole = [] ∧ fraction = [] then none
    else
      let shift : Int := match rest with
        | e :: more =>
          if e = 'e' ∨ e = 'E' then
            match more with
            | '-' :: ds => -(((natural? (ds.takeWhile Char.isDigit)).getD 0 : Nat) : Int)
            | '+' :: ds => ((natural? (ds.takeWhile Char.isDigit)).getD 0 : Nat)
            | ds => ((natural? (ds.takeWhile Char.isDigit)).getD 0 : Nat)
          else 0
        | [] => 0
      let shift := max (-400) (min 400 shift)
      let digits := whole ++ fraction
      let point := (whole.length : Int) + shift
      let (whole, fraction) :=
        if point ≤ 0 then ([], List.replicate (-point).toNat '0' ++ digits)
        else (padRight '0' point.toNat (digits.take point.toNat), digits.drop point.toNat)
      some { negative, whole := whole.dropWhile (· = '0')
             fraction := (fraction.reverse.dropWhile (· = '0')).reverse }

/-- Compares two keys. -/
def Style.compare (s : Style) (a b : Bytes) : Ordering :=
  let prepared (t : Bytes) : Bytes :=
    let t := if s.dictionary then t.filter fun c => isBlank c || c.isAlphanum else t
    let t := if s.printing then t.filter fun c => isGraph c || c = ' ' else t
    if s.folds then t.map Char.toUpper else t
  let order := match s.measure with
    | .text => compareOfLessAndEq (prepared a) (prepared b)
    | .number => (numeral a).compare false (numeral b)
    | .general => compareReals a b
    | .human => (numeral a).compare true (numeral b)
    | .version => compareVersions (a.length + b.length + 1) a b
    | .month => Ord.compare (monthRank a) (monthRank b)
  if s.reverse then order.swap else order

/-! ## Keys -/

/-- A place in a line: a field and a character in it, counted from one. -/
structure Place where
  field : Nat
  char : Nat
  deriving DecidableEq, Repr

/-- A key: what is compared of a line. -/
structure Key where
  start : Place
  finish : Option Place := none
  style : Style
  deriving DecidableEq, Repr

/-- What a letter says about a comparison. -/
def styleOfLetter? (s : Style) (c : Char) : Option Style :=
  match c with
  | 'n' => some { s with measure := .number }
  | 'g' => some { s with measure := .general }
  | 'h' => some { s with measure := .human }
  | 'V' => some { s with measure := .version }
  | 'M' => some { s with measure := .month }
  | 'r' => some { s with reverse := true }
  | 'f' => some { s with folds := true }
  | 'd' => some { s with dictionary := true }
  | 'i' => some { s with printing := true }
  | _ => none

/-- Reads the letters after a place; the last one that is none stays. -/
def letters (atEnd : Bool) : Style → Bytes → Style × Bytes
  | s, c :: rest =>
    if c = 'b' then
      letters atEnd (if atEnd then { s with skipsEnd := true } else { s with skipsStart := true }) rest
    else
      match styleOfLetter? s c with
      | some s => letters atEnd s rest
      | none => (s, c :: rest)
  | s, [] => (s, [])

/-- The number of a place, or what is wrong. -/
def placeNumber (what : String) (t : Bytes) : Except Bytes (Nat × Bytes) :=
  let digits := t.takeWhile Char.isDigit
  match natural? digits with
  | some n => .ok (n, t.drop digits.length)
  | none => .error (bytes what ++ bytes ": invalid count at start of " ++ quoted t)

/-- Reads a key. -/
def key (t : Bytes) : Except Bytes Key := do
  let invalid (what : String) : Bytes :=
    bytes what ++ bytes ": invalid field specification " ++ quoted t
  let (field, rest) ← placeNumber "invalid number at field start" t
  if field = 0 then throw (invalid "field number is zero")
  let (char, rest) ← match rest with
    | '.' :: more => placeNumber "invalid number after '.'" more
    | rest => pure (1, rest)
  if char = 0 then throw (invalid "character offset is zero")
  let (style, rest) := letters false {} rest
  match rest with
  | [] => return { start := ⟨field, char⟩, style }
  | ',' :: more =>
    let (last, rest) ← placeNumber "invalid number after ','" more
    if last = 0 then throw (invalid "field number is zero")
    let (lastChar, rest) ← match rest with
      | '.' :: more => placeNumber "invalid number after '.'" more
      | rest => pure (0, rest)
    let (style, rest) := letters true style rest
    if rest ≠ [] then throw (invalid "stray character in field spec")
    return { start := ⟨field, char⟩, finish := some ⟨last, lastChar⟩, style }
  | _ => throw (invalid "stray character in field spec")

/-- The lengths of the fields of a line, each with the mark that parts it from the next one. A field
begins with the blanks before it unless a mark is given. -/
def fieldLengths (mark : Option Char) : Nat → Bytes → List (Nat × Nat)
  | 0, _ => []
  | fuel + 1, line =>
    match mark with
    | some c =>
      let n := (line.takeWhile (· ≠ c)).length
      if n < line.length then (n, 1) :: fieldLengths mark fuel (line.drop (n + 1)) else [(n, 0)]
    | none =>
      if line = [] then []
      else
        let blanks := (line.takeWhile isBlank).length
        let n := blanks + ((line.drop blanks).takeWhile fun c => !isBlank c).length
        (n, 0) :: fieldLengths mark fuel (line.drop n)

/-- Where a field begins; behind the last one it is the end. -/
def fieldStart (lengths : List (Nat × Nat)) (n size : Nat) : Nat :=
  if lengths.length < n then size
  else ((lengths.take (n - 1)).map fun f => f.1 + f.2).foldl (· + ·) 0

/-- What a key takes of a line. -/
def Key.of (k : Key) (mark : Option Char) (line : Bytes) : Bytes :=
  let lengths := fieldLengths mark (line.length + 1) line
  let skip (from_ : Nat) : Nat := from_ + ((line.drop from_).takeWhile isBlank).length
  let start := fieldStart lengths k.start.field line.length
  let start := (if k.style.skipsStart then skip start else start) + (k.start.char - 1)
  let finish := match k.finish with
    | none => line.length
    | some p =>
      if p.char = 0 then
        let first := fieldStart lengths p.field line.length
        first + ((lengths[p.field - 1]?).map (·.1)).getD 0
      else
        let first := fieldStart lengths p.field line.length
        (if k.style.skipsEnd then skip first else first) + p.char
  (line.take (min finish line.length)).drop start

/-! ## Sorting -/

/-- Compares two lines by keys. -/
def compareKeys (mark : Option Char) (keys : List Key) (a b : Bytes) : Ordering :=
  keys.foldl (fun found k => found.then (k.style.compare (k.of mark a) (k.of mark b))) .eq

/-- Why a text is no mark between fields. -/
def markOf (t : Option Bytes) : Except Bytes (Option Char) :=
  match t with
  | none => .ok none
  | some [c] => .ok (some c)
  | some [] => .error (bytes "empty tab")
  | some ['\\', '0'] => .ok (some (Char.ofNat 0))
  | some t => .error (bytes "multi-character tab " ++ quoted t)

/-- The first line that is out of order, and its number. -/
def disorder? (bad : Bytes → Bytes → Bool) : Nat → List Bytes → Option (Nat × Bytes)
  | n, a :: b :: rest => if bad a b then some (n + 1, b) else disorder? bad (n + 1) (b :: rest)
  | _, _ => none

/-- Leaves the first of lines that are equal. -/
def distinct (same : Bytes → Bytes → Bool) : List Bytes → List Bytes
  | a :: b :: rest =>
    if same a b then distinct same (a :: rest) else a :: distinct same (b :: rest)
  | rest => rest
termination_by l => l.length

/-- The order of lines: by keys, and by the lines themselves where the keys are equal. -/
structure Sorting where
  mark : Option Char
  keys : List Key
  style : Style
  stable : Bool
  unique : Bool

def Sorting.compareKeyed (s : Sorting) (a b : Bytes) : Ordering :=
  if s.keys = [] then
    let skip (t : Bytes) : Bytes := if s.style.skipsStart then t.dropWhile isBlank else t
    s.style.compare (skip a) (skip b)
  else compareKeys s.mark s.keys a b

def Sorting.compare (s : Sorting) (a b : Bytes) : Ordering :=
  (s.compareKeyed a b).then <|
    if s.stable || s.unique then .eq
    else
      let whole := compareOfLessAndEq a b
      if s.style.reverse then whole.swap else whole

/-- Sorts lines. -/
def sort : Program := fun _ args =>
  let options : Options :=
    { letters := "bcCdfghiMmnrRsuVz", valued := "koStT"
      optional := "c"
      long := [("ignore-leading-blanks", 'b'), ("dictionary-order", 'd'), ("ignore-case", 'f'),
        ("general-numeric-sort", 'g'), ("ignore-nonprinting", 'i'), ("month-sort", 'M'),
        ("human-numeric-sort", 'h'), ("numeric-sort", 'n'), ("reverse", 'r'), ("version-sort", 'V'),
        ("check", 'c'), ("key", 'k'), ("merge", 'm'), ("output", 'o'), ("stable", 's'),
        ("field-separator", 't'), ("unique", 'u'), ("zero-terminated", 'z')] }
  withGiven "sort" options 2 args fun g => do
    let style := g.options.foldl (fun s o =>
      if o.1 = 'b' then { s with skipsStart := true, skipsEnd := true }
      else (styleOfLetter? s o.1).getD s) ({} : Style)
    let found : Except Bytes (Option Char × List Key) := do
      return (← markOf (g.value? 't'), ← (g.values 'k').mapM key)
    match found with
    | .error e => refuse 2 "sort" e
    | .ok (mark, keys) =>
      let keys := keys.map fun k => if k.style = {} then { k with style } else k
      let s : Sorting := { mark, keys, style, stable := g.has 's', unique := g.has 'u' }
      let paths := if g.operands = [] then [['-']] else g.operands
      setStatus 0
      let mut lines : List Bytes := []
      for path in paths do
        match ← contentOf path with
        | .ok text =>
          lines := lines ++ (if g.has 'z' then ended (Char.ofNat 0) text else bareLines text)
        | .error e =>
          if (← get).status = 0 then
            let what := if e = .isDirectory then "read failed: " else "cannot read: "
            refuse 2 "sort" (bytes what ++ path ++ bytes ": " ++ bytes e.message)
      if (← get).status = 0 then
        if g.has 'c' || g.has 'C' then
          let bad (a b : Bytes) : Bool := match s.compare a b with
            | .gt => true
            | .eq => s.unique
            | .lt => false
          match disorder? bad 1 lines with
          | none => return
          | some (n, line) =>
            if !g.has 'C' then
              say "sort" (paths.headD [] ++ [':'] ++ decimal n ++ bytes ": disorder: " ++ line)
            setStatus 1
        else
          let sorted := lines.mergeSort fun a b => s.compare a b != .gt
          let sorted := if s.unique then distinct (fun a b => s.compareKeyed a b == .eq) sorted
            else sorted
          let text := sorted.flatMap (· ++ [if g.has 'z' then Char.ofNat 0 else '\n'])
          match g.value? 'o' with
          | none => output "sort" text
          | some path =>
            match ← writeFile path text false with
            | none => return
            | some e =>
              refuse 2 "sort" (bytes "open failed: " ++ path ++ bytes ": " ++ bytes e.message)
where
  /-- The parts of a text that a character ends. -/
  ended (mark : Char) (text : Bytes) : List Bytes :=
    let parts := splitAt mark text
    if parts.getLast? = some [] then parts.dropLast else parts

/-! ## Neighbours -/

/-- Lines in groups of neighbours that are equal. -/
def grouped (same : Bytes → Bytes → Bool) (lines : List Bytes) : List (List Bytes) :=
  go [] lines
where
  /-- Goes on after a group that has begun, the last line first. -/
  go (group : List Bytes) : List Bytes → List (List Bytes)
    | [] => if group = [] then [] else [group.reverse]
    | line :: rest =>
      match group with
      | [] => go [line] rest
      | before :: _ =>
        if same before line then go (line :: group) rest else group.reverse :: go [line] rest

/-- What is compared of a line after some fields and characters. -/
def afterFields : Nat → Bytes → Bytes
  | 0, line => line
  | n + 1, line => afterFields n ((line.dropWhile isBlank).dropWhile fun c => !isBlank c)

/-- Leaves one of equal neighbours. -/
def uniq : Program := fun _ args =>
  let options : Options :=
    { letters := "cdDiuz", valued := "fsw"
      long := [("count", 'c'), ("repeated", 'd'), ("ignore-case", 'i'), ("unique", 'u'),
        ("skip-fields", 'f'), ("skip-chars", 's'), ("check-chars", 'w')] }
  withGiven "uniq" options 1 args fun g => do
    let number (c : Char) (what : String) : Except Bytes (Option Nat) :=
      match g.value? c with
      | none => .ok none
      | some t =>
        match natural? t with
        | some n => .ok (some n)
        | none => .error (t ++ bytes ": invalid number of " ++ bytes what)
    let numbers : Except Bytes (Nat × Nat × Option Nat) := do
      return ((← number 'f' "fields to skip").getD 0, (← number 's' "bytes to skip").getD 0,
        ← number 'w' "bytes to compare")
    match numbers, g.operands with
    | .error e, _ => refuse 1 "uniq" e
    | .ok _, _ :: _ :: extra :: _ => misuse 1 "uniq" (bytes "extra operand " ++ quoted extra)
    | .ok (fields, chars, width), operands =>
      let shownOf (line : Bytes) : Bytes :=
        let t := (afterFields fields line).drop chars
        let t := (width.map t.take).getD t
        if g.has 'i' then t.map Char.toLower else t
      match ← contentOf (operands.headD ['-']) with
      | .error e => refuse 1 "uniq" (operands.headD [] ++ bytes ": " ++ bytes e.message)
      | .ok text =>
        setStatus 0
        let groups := grouped (fun a b => shownOf a = shownOf b) (bareLines text)
        let groups := groups.filter fun group =>
          if g.has 'D' || (g.has 'd' && !g.has 'u') then 1 < group.length
          else if g.has 'u' && !g.has 'd' then group.length = 1
          else !(g.has 'u' && g.has 'd')
        let lines := groups.flatMap fun group =>
          if g.has 'D' then group
          else
            let line := group.headD []
            [if g.has 'c' then padLeft ' ' 7 (decimal group.length) ++ ' ' :: line else line]
        match operands.tail with
        | path :: _ =>
          match ← writeFile path (unlines lines) false with
          | none => return
          | some e => refuse 1 "uniq" (path ++ bytes ": " ++ bytes e.message)
        | [] => output "uniq" (unlines lines)

/-! ## Two files -/

/-- The two texts that a tool compares; nothing if they cannot be read, which is said. -/
def twoTexts (name : String) (operands : List Bytes) : Act (Option (Bytes × Bytes)) := do
  match operands with
  | [] =>
    misuse 1 name (bytes "missing operand")
    return none
  | [a] =>
    misuse 1 name (bytes "missing operand after " ++ quoted a)
    return none
  | a :: b :: rest =>
    match rest with
    | extra :: _ =>
      misuse 1 name (bytes "extra operand " ++ quoted extra)
      return none
    | [] =>
      match ← contentOf a with
      | .error e =>
        refuse 1 name (a ++ bytes ": " ++ bytes e.message)
        return none
      | .ok s =>
        match ← contentOf b with
        | .error e =>
          refuse 1 name (b ++ bytes ": " ++ bytes e.message)
          return none
        | .ok t => return some (s, t)

/-- Lines of two sorted lists: each with the column that it belongs to. -/
def merge : List Bytes → List Bytes → List (Nat × Bytes)
  | a :: as, b :: bs =>
    if a = b then (2, a) :: merge as bs
    else if a < b then (0, a) :: merge as (b :: bs)
    else (1, b) :: merge (a :: as) bs
  | as, [] => as.map ((0, ·))
  | [], bs => bs.map ((1, ·))
termination_by as bs => as.length + bs.length

def isSorted : List Bytes → Bool
  | a :: b :: rest => !decide (b < a) && isSorted (b :: rest)
  | _ => true

/-- Shows in columns what two sorted files have alone and what they share. -/
def comm : Program := fun _ args =>
  withGiven "comm" { letters := "123z" } 1 args fun g => do
    match ← twoTexts "comm" g.operands with
    | none => return
    | some (s, t) =>
      setStatus 0
      let hides (n : Nat) : Bool := g.has (Char.ofNat ('1'.toNat + n))
      let a := bareLines s
      let b := bareLines t
      output "comm" ((merge a b).flatMap fun (n, line) =>
        if hides n then []
        else List.replicate ((List.range n).filter fun k => !hides k).length '\t' ++ line ++ ['\n'])
      let wrong := (if isSorted a then [] else [1]) ++ (if isSorted b then [] else [2])
      for n in wrong do say "comm" (bytes "file " ++ decimal n ++ bytes " is not in sorted order")
      if wrong ≠ [] then refuse 1 "comm" (bytes "input is not in sorted order")

/-- A line of a table: its key and the fields. -/
structure Row where
  key : Bytes
  fields : List Bytes

/-- Joins rows of the same key. -/
def matchRows : Nat → List Row → List Row → List (Option Row × Option Row)
  | 0, _, _ => []
  | fuel + 1, as, bs =>
    match as, bs with
    | a :: as', b :: bs' =>
      if a.key < b.key then (some a, none) :: matchRows fuel as' bs
      else if b.key < a.key then (none, some b) :: matchRows fuel as bs'
      else
        let sameA := as.takeWhile fun r => r.key = a.key
        let sameB := bs.takeWhile fun r => r.key = a.key
        (sameA.flatMap fun r => sameB.map fun s => (some r, some s))
          ++ matchRows fuel (as.drop sameA.length) (bs.drop sameB.length)
    | as, [] => as.map fun r => (some r, none)
    | [], bs => bs.map fun r => (none, some r)

/-- Joins the lines of two sorted files that have a field in common. -/
def join : Program := fun _ args =>
  withGiven "join" { letters := "iz", valued := "12aejotv" } 1 args fun g => do
    match ← twoTexts "join" g.operands with
    | none => return
    | some (s, t) =>
      setStatus 0
      let mark := (g.value? 't').bind List.head?
      let field (c : Char) : Nat := (((g.value? c).or (g.value? 'j')).bind natural?).getD 1
      let split (line : Bytes) : List Bytes := match mark with
        | some c => splitAt c line
        | none => (line.splitOnP isBlank).filter (· ≠ [])
      let table (n : Nat) (text : Bytes) : List Row := (bareLines text).map fun line =>
        let fields := split line
        { key := fields.getD (n - 1) [], fields }
      let n := field '1'
      let k := field '2'
      let empty := (g.value? 'e').getD []
      let others (r : Row) (n : Nat) : List Bytes := r.fields.take (n - 1) ++ r.fields.drop n
      let line (a b : Option Row) : List Bytes := match g.value? 'o' with
        | some list =>
          ((splitAt ',' list).flatMap (splitAt ' ')).map fun place =>
            match splitAt '.' place with
            | [f, i] =>
              let row := if f = ['1'] then a else b
              (row.bind fun r => r.fields[(natural? i).getD 1 - 1]?).getD empty
            | _ => ((a.or b).map (·.key)).getD []
        | none =>
          ((a.or b).map (·.key)).getD [] :: ((a.map (others · n)).getD []
            ++ (b.map (others · k)).getD [])
      let alone (c : Char) (k : Bytes) : Bool := (g.values c).contains k
      let chosen (a b : Option Row) : Bool := match a, b with
        | some _, some _ => !g.has 'v'
        | some _, none => alone 'a' ['1'] || alone 'v' ['1']
        | none, _ => alone 'a' ['2'] || alone 'v' ['2']
      let found := matchRows (s.length + t.length + 1) (table n s) (table k t)
      output "join" (unlines ((found.filter fun p => chosen p.1 p.2).map fun p =>
        List.intercalate [mark.getD ' '] (line p.1 p.2)))

end JobLauncher.Shell.Tool.Order
