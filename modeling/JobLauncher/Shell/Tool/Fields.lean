import JobLauncher.Shell.Tool.Basic

/-!
# Fields of lines

Tools that take columns and fields out of lines, and that put lines side by side.
-/

namespace JobLauncher.Shell.Tool.Fields

/-! ## Selections -/

/-- A range of places, counted from one; without an end it goes on for ever. -/
structure Range where
  first : Nat
  last : Option Nat
  deriving DecidableEq, Repr

def Range.holds (r : Range) (n : Nat) : Bool := r.first ≤ n && r.last.all (n ≤ ·)

/-- What places are called in errors. -/
structure Wording where
  zero : String
  value : String

def fieldWords : Wording := ⟨"fields are numbered from 1", "invalid field value "⟩

def byteWords : Wording :=
  ⟨"byte/character positions are numbered from 1", "invalid byte/character position "⟩

/-- Reads one range. -/
def range (w : Wording) (t : Bytes) : Except Bytes Range := do
  let number (digits : Bytes) : Except Bytes Nat :=
    match natural? digits with
    | some n => if n = 0 then .error (bytes w.zero) else .ok n
    | none => .error (bytes w.value ++ quoted (digits.dropWhile Char.isDigit))
  match splitAt '-' t with
  | [a] =>
    if a = [] then throw (bytes w.zero)
    let n ← number a
    return ⟨n, some n⟩
  | [a, b] =>
    if a = [] ∧ b = [] then throw (bytes "invalid range with no endpoint: -")
    let first ← if a = [] then pure 1 else number a
    if b = [] then return ⟨first, none⟩
    let last ← if natural? b = some 0 then throw (bytes "invalid decreasing range") else number b
    if last < first then throw (bytes "invalid decreasing range")
    return ⟨first, some last⟩
  | _ => throw (bytes (if w.zero = fieldWords.zero then "invalid field range"
      else "invalid byte or character range"))

/-- Reads a list of ranges. -/
def ranges (w : Wording) (t : Bytes) : Except Bytes (List Range) :=
  ((splitAt ',' t).flatMap (splitAt ' ')).mapM (range w)

/-- The items that a selection takes, in runs; a run ends where an item is left out. -/
def runs (taken : Nat → Bool) (items : List α) : List (List α) :=
  go 1 [] items
where
  go (n : Nat) (run : List α) : List α → List (List α)
    | [] => closed run
    | x :: rest =>
      if taken n then go (n + 1) (x :: run) rest else closed run ++ go (n + 1) [] rest
  closed : List α → List (List α)
    | [] => []
    | run => [run.reverse]

/-- Ranges in the order of their first places, those that overlap as one. -/
def joined : List Range → List Range
  | r :: s :: rest =>
    if r.last.all (s.first ≤ ·) then
      joined ({ r with last := do return max (← r.last) (← s.last) } :: rest)
    else r :: joined (s :: rest)
  | rest => rest
termination_by rs => rs.length

def merged (rs : List Range) : List Range := joined (rs.mergeSort fun a b => a.first ≤ b.first)

/-- The items that ranges take, those of each range for itself; or those that they leave out. -/
def selected (rs : List Range) (complement : Bool) (items : List α) : List (List α) :=
  if complement then runs (fun n => !rs.any (·.holds n)) items
  else ((merged rs).map fun r => ((runs r.holds items).flatten)).filter fun run => !run.isEmpty

/-- Takes columns or fields out of each line. -/
def cut : Program := fun _ args =>
  let options : Options :=
    { letters := "nsz!", valued := "bcdf@"
      long := [("bytes", 'b'), ("characters", 'c'), ("delimiter", 'd'), ("fields", 'f'),
        ("complement", '!'), ("only-delimited", 's'), ("output-delimiter", '@')] }
  withGiven "cut" options 1 args fun g => do
    let lists := g.options.filter fun o => "bcf".toList.contains o.1
    let bad (t : String) : Act Unit := misuse 1 "cut" (bytes t)
    match lists with
    | [] => bad "you must specify a list of bytes, characters, or fields"
    | _ :: _ :: _ => bad "only one list may be specified"
    | [(kind, t)] =>
      let mark := g.value? 'd'
      if mark.any fun d => 1 < d.length then bad "the delimiter must be a single character"
      else if kind ≠ 'f' ∧ mark.isSome then
        bad "an input delimiter may be specified only when operating on fields"
      else if kind ≠ 'f' ∧ g.has 's' then
        bad "suppressing non-delimited lines makes sense\n\tonly when operating on fields"
      else
        match ranges (if kind = 'f' then fieldWords else byteWords) t with
        | .error e => misuse 1 "cut" e
        | .ok rs =>
          let mark := match mark with
            | some (c :: _) => c
            | some [] => Char.ofNat 0
            | none => '\t'
          let text ← allText "cut" g.operands 1
          output "cut" (unlines ((bareLines text).filterMap (line rs kind mark g)))
where
  /-- What is taken out of a line. -/
  line (rs : List Range) (kind mark : Char) (g : Given) (line : Bytes) : Option Bytes :=
    if kind = 'f' then
      let fields := splitAt mark line
      if fields.length ≤ 1 then (if g.has 's' then none else some line)
      else
        some (List.intercalate ((g.value? '@').getD [mark])
          (selected rs (g.has '!') fields).flatten)
    else some (List.intercalate ((g.value? '@').getD []) (selected rs (g.has '!') line))

/-! ## Side by side -/

/-- The marks between fields that an option asks for; an empty one stands for none. -/
def marks : Bytes → List Bytes
  | '\\' :: c :: rest =>
    (match c with
      | 'n' => ['\n']
      | 't' => ['\t']
      | '0' => []
      | '\\' => ['\\']
      | c => [c]) :: marks rest
  | c :: rest => [c] :: marks rest
  | [] => []

/-- Fields with marks between them, which are used in turn. -/
def marked (ms : List Bytes) (fields : List Bytes) : Bytes :=
  (fields.zip (List.range fields.length)).flatMap fun (field, i) =>
    (if i = 0 then [] else if ms = [] then [] else ms.getD ((i - 1) % ms.length) []) ++ field

/-- The rows of columns; a column that several take from is shared. -/
def rows (ms : List Bytes) (width : Nat) : Nat → List (Nat × List Bytes) → List Nat → List Bytes
  | 0, _, _ => []
  | fuel + 1, sources, order =>
    let (fields, sources, any) := order.foldl (fun (fields, sources, any) k =>
      match List.lookup k sources with
      | some (x :: rest) =>
        (x :: fields, (k, rest) :: sources.filter (·.1 ≠ k), true)
      | _ => ([] :: fields, sources, any)) (([] : List Bytes), sources, false)
    if any then marked ms fields.reverse :: rows ms width fuel sources order else []

/-- Puts the lines of files side by side. -/
def paste : Program := fun _ args =>
  let options : Options :=
    { letters := "sz", valued := "d", long := [("delimiters", 'd'), ("serial", 's')] }
  withGiven "paste" options 1 args fun g => do
    let paths := if g.operands = [] then [['-']] else g.operands
    let ms := marks ((g.value? 'd').getD ['\t'])
    setStatus 0
    if g.has 's' then
      for path in paths do
        match ← contentOf path with
        | .ok text => output "paste" (marked ms (bareLines text) ++ ['\n'])
        | .error e => refuse 1 "paste" (path ++ bytes ": " ++ bytes e.message)
    else
      let mut sources : List (Nat × List Bytes) := []
      let mut order : List Nat := []
      let mut wrong := false
      for (path, i) in paths.zip (List.range paths.length) do
        let k := (paths.findIdx? fun p => p = ['-'] ∧ path = ['-']).getD i
        order := k :: order
        if (sources.lookup k).isNone && !wrong then
          match ← contentOf path with
          | .ok text => sources := (k, bareLines text) :: sources
          | .error e =>
            refuse 1 "paste" (path ++ bytes ": " ++ bytes e.message)
            wrong := true
      if !wrong then
        let count := (sources.map fun s => s.2.length).foldl (· + ·) 0
        output "paste" (unlines (rows ms paths.length (count + 1) sources order.reverse))

end JobLauncher.Shell.Tool.Fields
