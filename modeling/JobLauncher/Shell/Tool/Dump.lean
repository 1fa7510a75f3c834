import JobLauncher.Shell.Digest
import JobLauncher.Shell.Tool.Basic

/-!
# Dumps

`od` shows the bytes of a text in rows: as characters, by their names, or as numbers of one or more
bytes, the least byte first. A row may be shown in several ways, each on a line of its own.
-/

namespace JobLauncher.Shell.Tool.Dump

/-- How bytes are shown. -/
inductive View where
  | character
  | named
  | signed
  | unsigned
  | octal
  | hex
  deriving DecidableEq, Repr

/-- A view of so many bytes at a time, perhaps with what can be seen of them behind each row. -/
structure Kind where
  view : View
  size : Nat := 1
  trailed : Bool := false

namespace Kind

/-- The width of the widest number, or of a character. -/
def width (k : Kind) : Nat :=
  let top := Nat.pow 256 k.size
  match k.view with
  | .character | .named => 3
  | .signed => (decimal (top / 2)).length + 1
  | .unsigned => (decimal (top - 1)).length
  | .octal => (Nat.toDigits 8 (top - 1)).length
  | .hex => 2 * k.size

/-- The names of the controls. -/
def controls : List String :=
  ["nul", "soh", "stx", "etx", "eot", "enq", "ack", "bel", "bs", "ht", "nl", "vt", "ff", "cr", "so",
    "si", "dle", "dc1", "dc2", "dc3", "dc4", "nak", "syn", "etb", "can", "em", "sub", "esc", "fs",
    "gs", "rs", "us", "sp"]

/-- How some bytes are shown. -/
def shown (k : Kind) (bs : List Nat) : Bytes :=
  let n := Digest.valueOf bs.reverse
  match k.view with
  | .character =>
    let c := Char.ofNat n
    match n with
    | 0 => bytes "\\0"
    | 7 => bytes "\\a"
    | 8 => bytes "\\b"
    | 9 => bytes "\\t"
    | 10 => bytes "\\n"
    | 11 => bytes "\\v"
    | 12 => bytes "\\f"
    | 13 => bytes "\\r"
    | _ => if isGraph c || c = ' ' then [c] else padLeft '0' 3 (Nat.toDigits 8 n)
  | .named =>
    let n := n % 128
    match controls[n]? with
    | some name => bytes name
    | none => if n = 127 then bytes "del" else [Char.ofNat n]
  | .signed => integer (if 2 * n < Nat.pow 256 k.size then n else n - Nat.pow 256 k.size)
  | .unsigned => decimal n
  | .octal => padLeft '0' k.width (Nat.toDigits 8 n)
  | .hex => padLeft '0' k.width (Nat.toDigits 16 n)

/-- A row of bytes, of which `blank` fields are missing. `spare` is how many blanks there are in a
whole row; they are shared out so that each field ends where fields of other kinds may end. -/
def row (k : Kind) (fields blank spare : Nat) (bs : List Nat) : Bytes :=
  let cells := Digest.pieces k.size (fields + 1) bs
  let text := (cells.take (fields - blank)).zip (List.range fields) |>.flatMap fun (cell, i) =>
    let before := spare * (fields - i) / fields
    let after := spare * (fields - i - 1) / fields
    padLeft ' ' (before - after + k.width) (k.shown cell)
  if k.trailed then
    text ++ List.replicate (blank * k.width + spare * blank / fields) ' '
  else text

end Kind

/-- Bytes as far as they can be seen. -/
def visible (bs : Bytes) : Bytes :=
  bytes "  >" ++ (bs.map fun c => if isGraph c || c = ' ' then c else '.') ++ ['<']

/-! ## What is asked for -/

/-- How places are counted; none are shown if it is none. -/
def base? : Char → Option (Option Nat)
  | 'd' => some (some 10)
  | 'o' => some (some 8)
  | 'x' => some (some 16)
  | 'n' => some none
  | _ => none

def addressWidth : Option Nat → Nat
  | none => 0
  | some 16 => 6
  | some _ => 7

/-- A place, as it is shown before a row. -/
def address (base : Option Nat) (n : Nat) : Bytes :=
  match base with
  | none => []
  | some b => padLeft '0' (addressWidth base) (Nat.toDigits b n)

/-- The number of bytes that a letter or digits stand for, and what follows. -/
def size : Bytes → Except Bytes (Nat × Bytes)
  | 'C' :: rest => .ok (1, rest)
  | 'S' :: rest => .ok (2, rest)
  | 'I' :: rest => .ok (4, rest)
  | 'L' :: rest => .ok (8, rest)
  | t =>
    let ds := t.takeWhile Char.isDigit
    match natural? ds with
    | none => .ok (4, t)
    | some n => if [1, 2, 4, 8].contains n then .ok (n, t.drop ds.length) else .error ds

/-- Reads the kinds that a text writes. -/
def kinds (whole : Bytes) : Nat → Bytes → Except Bytes (List Kind)
  | 0, _ | _, [] => .ok []
  | fuel + 1, c :: rest => do
    let (kind, rest) ← match c with
      | 'a' => pure ({ view := .named }, rest)
      | 'c' => pure ({ view := .character }, rest)
      | 'd' => sized .signed rest
      | 'u' => sized .unsigned rest
      | 'o' => sized .octal rest
      | 'x' => sized .hex rest
      | c => throw (bytes "invalid character '" ++ [c] ++ bytes "' in type string " ++ quoted whole)
    match rest with
    | 'z' :: rest => return { kind with trailed := true } :: (← kinds whole fuel rest)
    | rest => return kind :: (← kinds whole fuel rest)
where
  sized (view : View) (t : Bytes) : Except Bytes (Kind × Bytes) :=
    match size t with
    | .ok (n, rest) => .ok ({ view, size := n }, rest)
    | .error ds => .error (bytes "invalid type string " ++ quoted whole
        ++ bytes ";\nthis system doesn't provide a " ++ ds ++ bytes "-byte integral type")

/-- The type that a letter of its own stands for. -/
def typeOf? : Char → Option String
  | 'a' => some "a"
  | 'b' => some "o1"
  | 'c' => some "c"
  | 'd' => some "u2"
  | 'i' => some "dI"
  | 'l' => some "dL"
  | 'o' => some "o2"
  | 's' => some "d2"
  | 'x' => some "x2"
  | _ => none

/-- The number that a text is, with a unit after it; it may be octal or in base 16. -/
def count? (t : Bytes) : Option Nat :=
  let (base, ds) := match t with
    | '0' :: 'x' :: rest => (16, rest)
    | '0' :: 'X' :: rest => (16, rest)
    | '0' :: _ :: _ => (8, t)
    | _ => (10, t)
  let (read, rest) := digits base ds.length ds
  if read = [] then none
  else
    let factor := match textOfBytes rest with
      | "" => some 1
      | "b" => some 512
      | "k" | "K" => some 1024
      | "m" | "M" => some 1048576
      | _ => none
    factor.map (· * valueIn base read)

/-! ## Rows -/

/-- How texts are dumped. -/
structure Form where
  kinds : List Kind
  base : Option Nat
  width : Nat
  /-- Equal rows are shown each. -/
  all : Bool

namespace Form

/-- The lines of one row. -/
def row (f : Form) (place : Nat) (bs : Bytes) : Bytes :=
  let ns := bs.map Char.toNat
  let fieldsOf (k : Kind) : Nat := f.width / k.size
  let width := (f.kinds.map fun k => (k.width + 1) * fieldsOf k).foldl max 0
  (f.kinds.zip (List.range f.kinds.length)).flatMap fun (k, i) =>
    let fields := fieldsOf k
    let blank := (f.width - bs.length) / k.size
    let filled := ns ++ List.replicate (f.width - ns.length) 0
    (if i = 0 then address f.base place else List.replicate (addressWidth f.base) ' ')
      ++ k.row fields blank (width - k.width * fields) filled
      ++ (if k.trailed then visible bs else []) ++ ['\n']

/-- All rows from a place on; `last` is the row before, and `starred` says that it was not shown. -/
def rows (f : Form) : Nat → Nat → Option Bytes → Bool → Bytes → Bytes
  | 0, _, _, _, _ => []
  | fuel + 1, place, last, starred, t =>
    let bs := t.take f.width
    if bs = [] then
      if f.base.isSome then address f.base place ++ ['\n'] else []
    else
      let rest := t.drop f.width
      if !f.all && bs.length = f.width && last = some bs then
        (if starred then [] else bytes "*\n") ++ rows f fuel (place + f.width) last true rest
      else f.row place bs ++ rows f fuel (place + bs.length) (some bs) false rest

end Form

/-- An option for the width that has no text has the usual one. -/
def withWidths (args : List Bytes) : List Bytes :=
  args.map fun a => if a = bytes "-w" then bytes "-w32" else a

def options : Options :=
  { letters := "abcdilosxv", valued := "AjNtw", optional := "w"
    long := [("address-radix", 'A'), ("skip-bytes", 'j'), ("read-bytes", 'N'), ("format", 't'),
      ("output-duplicates", 'v'), ("width", 'w')] }

/-- The form that options ask for; with what has to be said about the width. -/
def form (g : Given) : Except Bytes (Form × Option Bytes) := do
  let base ← match g.value? 'A' with
    | none => pure (some 8)
    | some t =>
      match t.head?.bind base? with
      | some b => pure b
      | none => throw (bytes "invalid output address radix '" ++ t.take 1
          ++ bytes "'; it must be one character from [doxn]")
  let types := g.options.filterMap fun (c, t) =>
    if c = 't' then some t else (typeOf? c).map bytes
  let kinds ← (if types = [] then [bytes "o2"] else types).mapM fun t => kinds t (t.length + 1) t
  let kinds := kinds.flatten
  let unit := (kinds.map (·.size)).foldl max 1
  let usual := if unit < 16 then unit * (16 / unit) else unit
  let (width, note) ← match g.value? 'w' with
    | none => pure (usual, none)
    | some t =>
      match count? (if t = [] then bytes "32" else t) with
      | none => throw (bytes "invalid -w argument " ++ quoted t)
      | some n =>
        if n ≠ 0 ∧ n % unit = 0 then pure (n, none)
        else pure (unit, some (bytes "warning: invalid width " ++ decimal n ++ bytes "; using "
          ++ decimal unit ++ bytes " instead"))
  return ({ kinds, base, width, all := g.has 'v' }, note)

/-- A number that goes with an option. -/
def amount? (g : Given) (c : Char) : Except Bytes (Option Nat) :=
  match g.value? c with
  | none => .ok none
  | some t =>
    match count? t with
    | some n => .ok (some n)
    | none => .error (bytes "invalid -" ++ [c] ++ bytes " argument " ++ quoted t)

/-- Shows the bytes of files. -/
def od : Program := fun _ args =>
  withGiven "od" options 1 (withWidths args) fun g => do
    let asked : Except Bytes (Form × Option Bytes × Nat × Option Nat) := do
      let (f, note) ← form g
      return (f, note, (← amount? g 'j').getD 0, ← amount? g 'N')
    match asked with
    | .error e => refuse 1 "od" e
    | .ok (f, note, skipped, limit) =>
      match note with
      | some t => say "od" t
      | none => pure ()
      let text ← allText "od" g.operands 1
      if text.length < skipped then
        refuse 1 "od" (bytes "cannot skip past end of combined input")
      else
        let text := text.drop skipped
        let text := match limit with
          | some n => text.take n
          | none => text
        if (← get).status = 0 ∨ text ≠ [] then
          output "od" (f.rows (text.length + 2) skipped none false text)

end JobLauncher.Shell.Tool.Dump
