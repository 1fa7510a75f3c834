import JobLauncher.Shell.Escape
import JobLauncher.Shell.Glob

/-!
# Regular expressions

The two kinds of regular expressions that the tools know: the basic one, in which parentheses,
braces and most signs need a backslash to mean something, and the extended one, in which they do
not. A match is the longest of those that begin first.
-/

namespace JobLauncher.Shell

/-- A regular expression. -/
inductive Regex where
  | empty
  | char (c : Char)
  | anyChar
  | set (negated : Bool) (members : List Glob.Member)
  | lineStart
  | lineEnd
  | wordStart
  | wordEnd
  /-- Between a character of a word and one of none, or anywhere else. -/
  | boundary (negated : Bool)
  | group (n : Nat) (r : Regex)
  | back (n : Nat)
  | seq (a b : Regex)
  | either (a b : Regex)
  | repeated (least : Nat) (most : Option Nat) (r : Regex)
  deriving Repr

namespace Regex

/-! ## Reading -/

/-- How an expression is written. -/
structure Style where
  extended : Bool
  /-- A backslash takes the meaning from any sign, also in a set, or stands before a control. -/
  escapes : Bool := false
  deriving DecidableEq, Repr

/-- Why a text is no regular expression. -/
inductive Fault where
  | nothing
  | bracket
  | openGroup
  | closeGroup
  | brace
  | braceContent
  | nothingToRepeat
  | trailingBackslash
  | reference
  | range
  | className
  deriving DecidableEq, Repr

def Fault.message : Fault → String
  | nothing => "Invalid regular expression"
  | bracket => "Unmatched [, [^, [:, [., or [="
  | openGroup => "Unmatched ( or \\("
  | closeGroup => "Unmatched ) or \\)"
  | brace => "Unmatched \\\x7b"
  | braceContent => "Invalid content of \\\x7b\\\x7d"
  | nothingToRepeat => "Invalid preceding regular expression"
  | trailingBackslash => "Trailing backslash"
  | reference => "Invalid back reference"
  | range => "Invalid range end"
  | className => "Invalid character class name"

/-- What remains to be read, and how many groups have begun. -/
structure Rest where
  text : List Char
  groups : Nat

/-- A sign that stands for a repetition, or not. -/
inductive Sign where
  | char (c : Char)
  | any
  | open
  | close
  | either
  | brace
  | repeated (least : Nat) (most : Option Nat)
  | special (r : Regex)
  | set
  | lineStart
  | lineEnd
  deriving Repr

/-- What a letter after a backslash stands for in both kinds. -/
def escaped (c : Char) : Sign :=
  let word (negated : Bool) : Sign := .special (.set negated [.named "word"])
  let space (negated : Bool) : Sign := .special (.set negated [.named "space"])
  if c = 'w' then word false
  else if c = 'W' then word true
  else if c = 's' then space false
  else if c = 'S' then space true
  else if c = '<' then .special .wordStart
  else if c = '>' then .special .wordEnd
  else if c = 'b' then .special (.boundary false)
  else if c = 'B' then .special (.boundary true)
  else if c = '\x60' then .special .lineStart
  else if c = '\x27' then .special .lineEnd
  else if c.isDigit ∧ c ≠ '0' then .special (.back (c.toNat - '0'.toNat))
  else .char c

/-- What follows a backslash where it may stand before a control, and the rest. -/
def control : List Char → Char × List Char
  | [] => ('\\', [])
  | c :: rest =>
    match digits 8 3 (c :: rest) with
    | ([], _) =>
      (match c with
        | 'a' => Char.ofNat 7
        | 'b' => Char.ofNat 8
        | 'f' => Char.ofNat 12
        | 'n' => '\n'
        | 'r' => '\r'
        | 't' => '\t'
        | 'v' => Char.ofNat 11
        | c => c, rest)
    | (ds, rest) => (byte (valueIn 8 ds), rest)

/-- Signs with what backslashes before them mean; each says whether it is meant as itself. -/
def marked : Nat → List Char → List (Char × Bool)
  | 0, _ | _, [] => []
  | fuel + 1, '\\' :: c :: rest =>
    let (c, rest) := control (c :: rest)
    (c, true) :: marked fuel rest
  | fuel + 1, c :: rest => (c, false) :: marked fuel rest

/-- A text without so many signs at its beginning. -/
def passSigns : Nat → List Char → List Char
  | 0, cs => cs
  | _, [] => []
  | n + 1, '\\' :: c :: rest => passSigns n (control (c :: rest)).2
  | n + 1, _ :: rest => passSigns n rest

/-- The next sign; `first` says that nothing comes before it in its alternative. -/
def sign? (style : Style) (first : Bool) : List Char → Except Fault (Option (Sign × List Char))
  | [] => .ok none
  | ['\\'] => .error .trailingBackslash
  | '\\' :: c :: rest =>
    if style.escapes then
      let (c, rest) := control (c :: rest)
      .ok (some (.char c, rest))
    else .ok <| some <| (·, rest) <|
      if style.extended then escaped c
      else if c = '(' then .open
      else if c = ')' then .close
      else if c = '|' then .either
      else if c = '\x7b' then .brace
      else if c = '+' ∧ !first then .repeated 1 none
      else if c = '?' ∧ !first then .repeated 0 (some 1)
      else escaped c
  | c :: rest =>
    .ok <| some <| (·, rest) <|
      if c = '.' then .any
      else if c = '[' then .set
      else if c = '*' ∧ (style.extended || !first) then .repeated 0 none
      else if style.extended then
        if c = '(' then .open
        else if c = ')' then .close
        else if c = '|' then .either
        else if c = '+' then .repeated 1 none
        else if c = '?' then .repeated 0 (some 1)
        else if c = '\x7b' ∧ !first ∧ (rest.head?.any fun d => d.isDigit || d = ',') then .brace
        else if c = '^' then .lineStart
        else if c = '$' then .lineEnd
        else .char c
      else if c = '^' ∧ first then .lineStart
      else if c = '$' ∧ endsAlternative rest then .lineEnd
      else .char c
where
  endsAlternative (rest : List Char) : Bool :=
    match rest with
    | [] => true
    | '\\' :: ')' :: _ | '\\' :: '|' :: _ => true
    | _ => false

/-- The bounds between braces, and what follows them. -/
def bounds (style : Style) (cs : List Char) : Except Fault (Nat × Option Nat × List Char) := do
  let low := cs.takeWhile Char.isDigit
  let rest := cs.drop low.length
  let least := (natural? low).getD 0
  let (most, rest) ← match rest with
    | ',' :: rest =>
      let high := rest.takeWhile Char.isDigit
      pure (natural? high, rest.drop high.length)
    | rest => if low = [] then throw .braceContent else pure (some least, rest)
  let rest ← match style.extended, rest with
    | true, '\x7d' :: rest => pure rest
    | false, '\\' :: '\x7d' :: rest => pure rest
    | _, [] => throw .brace
    | _, _ => throw .braceContent
  if most.any (· < least) then throw .braceContent
  return (least, most, rest)

/-- The set that begins after a bracket. -/
def readSet (style : Style) (cs : List Char) : Except Fault (Regex × List Char) := do
  let (negated, inside) := match cs with
    | '^' :: rest => (true, rest)
    | rest => (false, rest)
  if inside = [] then throw .nothing
  -- a backslash mostly stands for itself in a set
  let signs := if style.escapes then marked inside.length inside else inside.map fun c => (c, false)
  match Glob.members? (inside.length + 1) true signs with
  | some (ms, rest) =>
    if ms.any fun | .named name => (classTest? name).isNone | _ => false then throw .className
    if ms.any fun | .range a b => b < a | _ => false then throw .range
    return (.set negated ms,
      if style.escapes then passSigns (signs.length - rest.length) inside else rest.map (·.1))
  | none => throw .bracket

mutual

/-- Reads alternatives. -/
def readAny (style : Style) : Nat → Nat → Rest → Except Fault (Regex × Rest)
  | 0, _, r => .ok (.empty, r)
  | fuel + 1, depth, r => do
    let (a, r) ← readAll style fuel depth true r
    match ← sign? style false r.text with
    | some (.either, text) =>
      let (b, r) ← readAny style fuel depth { r with text }
      return (.either a b, r)
    | _ => return (a, r)

/-- Reads parts one after another. -/
def readAll (style : Style) : Nat → Nat → Bool → Rest → Except Fault (Regex × Rest)
  | 0, _, _, r => .ok (.empty, r)
  | fuel + 1, depth, first, r => do
    match ← sign? style first r.text with
    | none => return (.empty, r)
    | some (.either, _) => return (.empty, r)
    | some (.close, text) =>
      if depth = 0 then throw .closeGroup
      let _ := text
      return (.empty, r)
    | some (t, text) =>
      let (a, r) ← readOne style fuel depth first t { r with text }
      let (a, r) ← readTimes style fuel a r
      let (b, r) ← readAll style fuel depth (a matches .lineStart && first) r
      return (.seq a b, r)

/-- Reads the rest of one part, which begins with a sign. -/
def readOne (style : Style) : Nat → Nat → Bool → Sign → Rest → Except Fault (Regex × Rest)
  | 0, _, _, _, r => .ok (.empty, r)
  | fuel + 1, depth, first, t, r => do
    match t with
    | .char c => return (.char c, r)
    | .any => return (.anyChar, r)
    | .special (.back n) =>
      if n ≤ r.groups then return (.back n, r) else throw .reference
    | .special s => return (s, r)
    | .lineStart => return (.lineStart, r)
    | .lineEnd => return (.lineEnd, r)
    | .set =>
      let (s, text) ← readSet style r.text
      return (s, { r with text })
    | .open =>
      let n := r.groups + 1
      let (a, r) ← readAny style fuel (depth + 1) { r with groups := n }
      match ← sign? style false r.text with
      | some (.close, text) => return (.group n a, { r with text })
      | _ => throw .openGroup
    | .repeated _ _ =>
      if first then return (.char '*', r) else throw .nothingToRepeat
    | .brace => if style.extended then return (.char '\x7b', r) else throw .nothingToRepeat
    | .close | .either => return (.empty, r)

/-- Reads the repetitions of a part. -/
def readTimes (style : Style) : Nat → Regex → Rest → Except Fault (Regex × Rest)
  | 0, a, r => .ok (a, r)
  | fuel + 1, a, r => do
    match ← sign? style false (if r.text = ['\\'] then [] else r.text) with
    | some (.repeated least most, text) =>
      if a matches .lineStart && !style.extended then return (a, r)
      else readTimes style fuel (.repeated least most a) { r with text }
    | some (.brace, text) =>
      let (least, most, text) ← bounds style text
      readTimes style fuel (.repeated least most a) { r with text }
    | _ => return (a, r)

end

/-- The expression that a text is in a style, and the number of its groups. -/
def parseAs (style : Style) (text : Bytes) : Except Fault (Regex × Nat) := do
  let (r, rest) ← readAny style (4 * text.length + 8) 0 ⟨text, 0⟩
  match rest.text with
  | [] => return (r, rest.groups)
  | _ => throw .closeGroup

/-- The expression that a text is, and the number of its groups. -/
def parse (extended : Bool) (text : Bytes) : Except Fault (Regex × Nat) := parseAs { extended } text

/-! ## Matching -/

/-- A match: where it ends, and where the groups were found, the last ones first. -/
structure Match where
  finish : Nat
  groups : List (Nat × Nat × Nat) := []
  deriving DecidableEq, Repr

/-- The text that is searched. -/
structure Subject where
  chars : Array Char
  /-- Letters match whether they are capital or not. -/
  folded : Bool := false
  /-- The text does not begin at the beginning of a line. -/
  inside : Bool := false
  /-- The text may be several lines, each with a beginning and an end. -/
  lines : Bool := false

namespace Subject

def size (s : Subject) : Nat := s.chars.size

def at? (s : Subject) (i : Nat) : Option Char := s.chars[i]?

def isWordAt (s : Subject) (i : Nat) : Bool := (s.at? i).any isNameChar

/-- Whether a character of a word is right before a place. -/
def isWordBefore (s : Subject) (i : Nat) : Bool := i ≠ 0 && s.isWordAt (i - 1)

def isLineStart (s : Subject) (i : Nat) : Bool :=
  (i = 0 && !s.inside) || (s.lines && 0 < i && s.at? (i - 1) == some '\n')

def isLineEnd (s : Subject) (i : Nat) : Bool :=
  i = s.size || (s.lines && s.at? i == some '\n')

def same (s : Subject) (a b : Char) : Bool :=
  a == b || (s.folded && a.toLower == b.toLower)

def inSet (s : Subject) (negated : Bool) (ms : List Glob.Member) (c : Char) : Bool :=
  let found := ms.any (·.holds c)
    || (s.folded && (ms.any (·.holds c.toLower) || ms.any (·.holds c.toUpper)))
  found != negated

end Subject

/-- The longer of two matches, the first if they are equally long. -/
def longer (s : Subject) (a : Option Match) (b : Unit → Option Match) : Option Match :=
  match a with
  | none => b ()
  | some m =>
    if s.size ≤ m.finish then a
    else match b () with
      | some n => if m.finish < n.finish then some n else a
      | none => a

/-- Finds the longest match of an expression at a place that goes on to one of what follows it. The
fuel bounds the number of steps one after another, each of which uses up a part of the expression or
a character of the text. -/
def matchThen (s : Subject) : Nat → Regex → Nat → List (Nat × Nat × Nat) →
    (Nat → List (Nat × Nat × Nat) → Option Match) → Option Match
  | 0, _, _, _, _ => none
  | fuel + 1, r, i, gs, go =>
    match r with
    | .empty => go i gs
    | .char c => if (s.at? i).any (s.same c) then go (i + 1) gs else none
    | .anyChar => if i < s.size then go (i + 1) gs else none
    | .set negated ms => if (s.at? i).any (s.inSet negated ms) then go (i + 1) gs else none
    | .lineStart => if s.isLineStart i then go i gs else none
    | .lineEnd => if s.isLineEnd i then go i gs else none
    | .wordStart => if !s.isWordBefore i && s.isWordAt i then go i gs else none
    | .wordEnd => if s.isWordBefore i && !s.isWordAt i then go i gs else none
    | .boundary negated =>
      if (s.isWordBefore i != s.isWordAt i) != negated then go i gs else none
    | .group n r => matchThen s fuel r i gs fun j gs => go j ((n, i, j) :: gs)
    | .back n =>
      match gs.lookup n with
      | none => none
      | some (a, b) =>
        let length := b - a
        if (List.range length).all fun k =>
            (s.at? (a + k)).any fun c => (s.at? (i + k)).any (s.same c) then
          go (i + length) gs
        else none
    | .seq a b => matchThen s fuel a i gs fun j gs => matchThen s fuel b j gs go
    | .either a b =>
      longer s (matchThen s fuel a i gs go) fun _ => matchThen s fuel b i gs go
    | .repeated least most r =>
      let more : Option Match :=
        if most = some 0 then none
        else
          matchThen s fuel r i gs fun j gs =>
            -- a round without progress is of no use unless it is owed
            if j = i ∧ least = 0 then none
            else matchThen s fuel (.repeated (least - 1) (most.map (· - 1)) r) j gs go
      if least = 0 then longer s more fun _ => go i gs else more

def size : Regex → Nat
  | .group _ r => 1 + size r
  | .seq a b => 1 + size a + size b
  | .either a b => 1 + size a + size b
  | .repeated least most r => (2 + least + (most.getD 0)) * (1 + size r)
  | _ => 1

/-- The longest match that begins at a place and ends where it may. -/
def matchWhere (mayEnd : Nat → Bool) (r : Regex) (s : Subject) (i : Nat) : Option Match :=
  matchThen s (2 * (r.size + 2) * (s.size + 2)) r i [] fun finish groups =>
    if mayEnd finish then some { finish, groups } else none

/-- The longest match that begins at a place. -/
def matchAt (r : Regex) (s : Subject) (i : Nat) : Option Match := r.matchWhere (fun _ => true) s i

/-- The first match at a place or after it: where it begins, and the match. -/
def findFrom (r : Regex) (s : Subject) (start : Nat) : Option (Nat × Match) :=
  (List.range (s.size + 1 - start)).findSome? fun k =>
    (r.matchAt s (start + k)).map fun m => (start + k, m)

def find? (r : Regex) (s : Subject) : Option (Nat × Match) := r.findFrom s 0

/-- A part of the text. -/
def Subject.slice (s : Subject) (a b : Nat) : Bytes := (s.chars.extract a b).toList

/-- The text of a group in a match, or nothing if the group was not used. -/
def Match.group? (m : Match) (s : Subject) (n : Nat) : Option Bytes :=
  (m.groups.lookup n).map fun g => s.slice g.1 g.2

end Regex

end JobLauncher.Shell
