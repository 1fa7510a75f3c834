import JobLauncher.Json.Reader
import JobLauncher.Yaml.Cursor

/-!
# YAML scalars

The three ways of writing a text: plain, between quotes, and as a block of indented lines. Each
reader takes the place where the scalar begins and gives its text and the place after it.

Within plain and quoted scalars lines are folded: a single break becomes a blank, of several the
first is dropped. `Gap` is what stands between two words until it is known whether a word follows.
-/

namespace JobLauncher.Yaml

/-- Blanks and breaks between words. -/
structure Gap where
  /-- Blanks before the first break. -/
  blanks : List Char := []
  /-- The first break; empty if the break was taken away by a backslash. -/
  first : Option (List Char) := none
  /-- The breaks after it. -/
  more : List Char := []

namespace Gap

/-- Whether the gap goes over the end of a line. -/
def spansLines (g : Gap) : Bool := g.first.isSome

/-- What the gap becomes between two words. -/
def fold (g : Gap) : List Char :=
  match g.first with
  | none => g.blanks
  | some ['\n'] => if g.more = [] then [' '] else g.more
  | some first => first ++ g.more

/-- Reads a gap on from where it has got. Blanks that begin a line are not kept; a tab among them
before column `indent` is refused, if there is such a limit. -/
def scan (indent : Option Int) : Nat → Gap → Cursor → Except Fault (Gap × Cursor)
  | 0, g, p => .ok (g, p)
  | fuel + 1, g, p =>
    match p.peek with
    | none => .ok (g, p)
    | some c =>
      if isBlank c then
        if g.spansLines then
          if c == '\t' && indent.any fun limit => (p.column : Int) < limit then .error .tab
          else scan indent fuel g p.step
        else scan indent fuel { g with blanks := g.blanks ++ [c] } p.step
      else if isBreak c then
        if g.spansLines then scan indent fuel { g with more := g.more ++ p.breakHere } p.step
        else scan indent fuel { g with blanks := [], first := some p.breakHere } p.step
      else .ok (g, p)

end Gap

/-! ## Plain scalars -/

/-- Characters that end a plain scalar within brackets. -/
def isFlowEnd (c : Char) : Bool :=
  c == ',' || c == '[' || c == ']' || c == '{' || c == '}'

/-- The characters of one word of a plain scalar. Within brackets a colon may not touch the
character that ends the item. -/
def plainWord (inFlow : Bool) : List Char → Except Fault (List Char)
  | [] => .ok []
  | c :: rest =>
    if isGap (some c) then .ok []
    else if inFlow && c == ':' && rest.head?.any fun d => isFlowEnd d || d == '?' then
      .error (.unexpected (some c))
    else if (c == ':' && isGap rest.head?) || (inFlow && isFlowEnd c) then .ok []
    else (plainWord inFlow rest).map (c :: ·)

/-- Reads a plain scalar word by word; `acc` is its text so far and `gap` what comes before the next
word. The result also says whether the reading has gone over the end of a line. -/
def scanPlain (inFlow : Bool) (indent : Int) :
    Nat → List Char → Gap → Cursor → Except Fault (List Char × Bool × Cursor)
  | 0, acc, gap, p => .ok (acc, gap.spansLines, p)
  | fuel + 1, acc, gap, p => do
    if p.atDocumentEdge || p.peek = some '#' then return (acc, gap.spansLines, p)
    let word ← plainWord inFlow p.rest
    let acc := if word.isEmpty then acc else acc ++ gap.fold ++ word
    let gap := if word.isEmpty then gap else {}
    let p := p.skip word.length
    if !(p.peek.any fun c => isBlank c || isBreak c) then return (acc, gap.spansLines, p)
    let (gap, p) ← Gap.scan (some indent) (p.rest.length + 1) gap p
    if !inFlow && (p.column : Int) < indent then return (acc, gap.spansLines, p)
    scanPlain inFlow indent fuel acc gap p

/-! ## Quoted scalars -/

/-- The character that a letter after a backslash stands for. -/
def namedEscape? : Char → Option Char
  | '0' => some (Char.ofNat 0)
  | 'a' => some (Char.ofNat 7)
  | 'b' => some (Char.ofNat 8)
  | 't' | '\t' => some '\t'
  | 'n' => some '\n'
  | 'v' => some (Char.ofNat 0x0B)
  | 'f' => some (Char.ofNat 0x0C)
  | 'r' => some '\r'
  | 'e' => some (Char.ofNat 0x1B)
  | ' ' => some ' '
  | '"' => some '"'
  | '/' => some '/'
  | '\\' => some '\\'
  | 'N' => some (Char.ofNat 0x85)
  | '_' => some (Char.ofNat 0xA0)
  | 'L' => some (Char.ofNat 0x2028)
  | 'P' => some (Char.ofNat 0x2029)
  | _ => none

/-- How many hexadecimal digits follow a letter after a backslash. -/
def escapeWidth? : Char → Option Nat
  | 'x' => some 2
  | 'u' => some 4
  | 'U' => some 8
  | _ => none

/-- The number that hexadecimal digits write. -/
def hexNumber? (digits : List Char) : Option Nat :=
  digits.foldlM (fun n c => (Json.hexValue? c).map (n * 16 + ·)) 0

/-- What a backslash and the characters after it stand for, and how many characters that takes. -/
def escape? : List Char → Option (Char × Nat)
  | [] => none
  | letter :: rest =>
    match namedEscape? letter with
    | some c => some (c, 2)
    | none => do
      let width ← escapeWidth? letter
      let digits := rest.take width
      let n ← if digits.length = width then hexNumber? digits else none
      if (0xD800 ≤ n ∧ n ≤ 0xDFFF) ∨ n > 0x10FFFF then none
      else some (Char.ofNat n, width + 2)

/-- A word between quotes: its text, the place after it, and whether a backslash joins the next line
to it. -/
def quotedWord (quote : Char) : Nat → List Char → Cursor → Except Fault (List Char × Bool × Cursor)
  | 0, acc, p => .ok (acc, false, p)
  | fuel + 1, acc, p =>
    match p.peek with
    | none => .ok (acc, false, p)
    | some c =>
      if isBlank c || isBreak c then .ok (acc, false, p)
      else if quote == '\x27' && c == quote && p.peekAt 1 == some quote then
        quotedWord quote fuel (acc ++ [c]) (p.skip 2)
      else if c == quote then .ok (acc, false, p)
      else if quote == '"' && c == '\\' then
        if (p.peekAt 1).any isBreak then .ok (acc, true, p.skip 2)
        else match escape? p.step.rest with
          | none => .error (.unexpected (p.peekAt 1))
          | some (d, taken) => quotedWord quote fuel (acc ++ [d]) (p.skip taken)
      else quotedWord quote fuel (acc ++ [c]) p.step

/-- Reads what follows an opening quote up to and with the closing one. -/
def scanQuoted (quote : Char) : Nat → List Char → Cursor → Except Fault (List Char × Cursor)
  | 0, _, p => .error (.unexpected p.peek)
  | fuel + 1, acc, p => do
    if p.atDocumentEdge then throw (.unexpected p.peek)
    if p.atEnd then throw (.unexpected none)
    let (word, joined, p) ← quotedWord quote (p.rest.length + 1) [] p
    let acc := acc ++ word
    if !joined && p.peek = some quote then return (acc, p.step)
    -- a joined line has lost its break, so nothing takes the place of it
    let gap : Gap := if joined then { first := some [] } else {}
    let (gap, p) ← Gap.scan none (p.rest.length + 1) gap p
    scanQuoted quote fuel (acc ++ gap.fold) p

/-! ## Block scalars -/

/-- What becomes of the breaks at the end of a block. -/
inductive Chomping where
  | strip
  | clip
  | keep
  deriving DecidableEq

/-- The sign of a chomping. -/
def Chomping.ofChar? : Char → Option Chomping
  | '+' => some .keep
  | '-' => some .strip
  | _ => none

/-- A depth of indentation as a digit; it cannot be zero. -/
def depthDigit? (c : Option Char) : Except Fault (Option Nat) :=
  match c with
  | some c =>
    if !c.isDigit then .ok none
    else if c = '0' then .error (.unexpected (some c))
    else .ok (some (c.toNat - '0'.toNat))
  | none => .ok none

/-- The signs after the one that opens a block, in either order. -/
def blockHeader (p : Cursor) : Except Fault (Chomping × Option Nat × Cursor) := do
  match p.peek.bind Chomping.ofChar? with
  | some chomping =>
    let p := p.step
    match ← depthDigit? p.peek with
    | some depth => return (chomping, some depth, p.step)
    | none => return (chomping, none, p)
  | none =>
    match ← depthDigit? p.peek with
    | none => return (.clip, none, p)
    | some depth =>
      let p := p.step
      match p.peek.bind Chomping.ofChar? with
      | some chomping => return (chomping, some depth, p.step)
      | none => return (.clip, some depth, p)

/-- The empty lines and the indentation before a line of a block: the breaks, the place after them
and the widest indentation seen. Without a known indentation all blanks belong to it. -/
def blockBreaks (indent : Option Nat) :
    Nat → List Char → Nat → Cursor → Except Fault (List Char × Nat × Cursor)
  | 0, breaks, widest, p => .ok (breaks, widest, p)
  | fuel + 1, breaks, widest, p => do
    let isIndent (q : Cursor) : Bool := indent.all fun n => q.column < n
    let room := match indent with
      | none => p.rest.length
      | some n => n - p.column
    let spaces := (p.rest.take room).takeWhile (· == ' ')
    let p := p.skip spaces.length
    let widest := max widest p.column
    if isIndent p && p.peek = some '\t' then throw .tab
    if p.peek.any isBreak then
      blockBreaks indent fuel (breaks ++ p.breakHere) widest p.step
    else return (breaks, widest, p)

/-- Reads the lines of a block. `leading` is the break that ended the line before, `breaks` those of
the empty lines since, and `indented` says that the line before began with a blank. -/
def blockLines (folded : Bool) (indent : Nat) : Nat → List Char → List Char → List Char → Bool →
    Cursor → Except Fault (List Char × List Char × List Char × Cursor)
  | 0, acc, leading, breaks, _, p => .ok (acc, leading, breaks, p)
  | fuel + 1, acc, leading, breaks, indented, p => do
    if p.column ≠ indent || p.atEnd then return (acc, leading, breaks, p)
    let blankFirst := p.peek.any isBlank
    -- only lines that begin with no blank are folded into one
    let between :=
      if folded && leading == ['\n'] && !indented && !blankFirst then
        if breaks.isEmpty then [' '] else breaks
      else leading ++ breaks
    let (line, p) := p.takeWhile fun c => !isBreak c
    let leading := p.breakHere
    let p := p.step
    let (breaks, _, p) ← blockBreaks (some indent) (p.rest.length + 1) [] 0 p
    blockLines folded indent fuel (acc ++ between ++ line) leading breaks blankFirst p

/-- Reads what follows the sign that opens a block. `parent` is the indentation of what the block
belongs to. -/
def scanBlock (folded : Bool) (parent : Int) (p : Cursor) : Except Fault (List Char × Cursor) := do
  let (chomping, depth, p) ← blockHeader p
  let p ← p.finishLine
  let given := depth.map fun d => if parent ≥ 0 then parent.toNat + d else d
  let (breaks, widest, p) ← blockBreaks given (p.rest.length + 1) [] 0 p
  -- without a digit the first line that is not empty sets the indentation
  let indent := given.getD (max widest (max (parent + 1).toNat 1))
  let (text, leading, breaks, p) ←
    blockLines folded indent (p.rest.length + 1) [] [] breaks false p
  let ending := match chomping with
    | .strip => []
    | .clip => leading
    | .keep => leading ++ breaks
  return (text ++ ending, p)

end JobLauncher.Yaml
