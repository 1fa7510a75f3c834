import JobLauncher.Yaml.Scalar

/-!
# YAML tokens

`Token.scan` cuts a text into tokens. Indentation becomes tokens of its own, which open and close
block collections. Whether a word is a key shows only when its colon comes, so for each level of
brackets the scanner remembers where a key may have begun and puts the token for it there
afterwards.
-/

namespace JobLauncher.Yaml

/-- What a YAML text is made of. -/
inductive Token where
  | version (major minor : Nat)
  | tagDirective (handle : String)
  | documentStart
  | documentEnd
  | blockSequenceStart
  | blockMappingStart
  | blockEnd
  | flowSequenceStart
  | flowSequenceEnd
  | flowMappingStart
  | flowMappingEnd
  | blockEntry
  | flowEntry
  | key
  | value
  | anchor (name : String)
  | reference (name : String)
  | tag (handle : String)
  | scalar (text : String) (plain : Bool)
  deriving DecidableEq, Repr

/-- A place where a key may have begun. -/
structure KeyStart where
  /-- Whether something has to become a key here, because its line begins at the indentation of the
  mapping around it. -/
  required : Bool
  /-- The number of tokens before it. -/
  position : Nat
  index : Nat
  line : Nat
  column : Nat

/-- How far a text has been cut into tokens. -/
structure Scan where
  cursor : Cursor
  tokens : List Token := []
  /-- The indentation of the block collections around, innermost first; -1 outside of all. -/
  indents : List Int := []
  indent : Int := -1
  /-- Whether a key may begin here. -/
  keyAllowed : Bool := true
  /-- The place of a possible key outside of brackets. -/
  blockKey : Option KeyStart := none
  /-- The same for each pair of brackets around, innermost first. -/
  flowKeys : List (Option KeyStart) := []

namespace Scan

/-- Whether the place is within brackets. -/
def inFlow (s : Scan) : Bool := !s.flowKeys.isEmpty

/-- The possible key at the innermost level. -/
def possibleKey (s : Scan) : Option KeyStart :=
  match s.flowKeys with
  | [] => s.blockKey
  | k :: _ => k

def setKey (s : Scan) (k : Option KeyStart) : Scan :=
  match s.flowKeys with
  | [] => { s with blockKey := k }
  | _ :: rest => { s with flowKeys := k :: rest }

def push (s : Scan) (t : Token) : Scan := { s with tokens := s.tokens ++ [t] }

/-- Puts a token before those that came after the first `position` ones. -/
def insertAt (s : Scan) (position : Nat) (t : Token) : Scan :=
  { s with tokens := s.tokens.take position ++ t :: s.tokens.drop position }

/-- Gives up the possible key of the innermost level, which must not be a required one. -/
def dropKey (s : Scan) : Except Fault Scan :=
  if s.possibleKey.any (·.required) then .error (.expected "':'") else .ok (s.setKey none)

/-- Notes that a key may begin here, if one may. -/
def saveKey (s : Scan) : Except Fault Scan :=
  if !s.keyAllowed then .ok s
  else do
    let required := !s.inFlow && s.indent == (s.cursor.column : Int)
    let s ← s.dropKey
    return s.setKey (some {
      required
      position := s.tokens.length
      index := s.cursor.index
      line := s.cursor.line
      column := s.cursor.column })

/-- A key is over with its line, and after 1024 bytes. -/
def isStale (s : Scan) (k : KeyStart) : Bool :=
  k.line < s.cursor.line || k.index + 1024 < s.cursor.index

/-- Gives up the possible keys that are too far back. -/
def dropStaleKeys (s : Scan) : Except Fault Scan :=
  let stale (k : Option KeyStart) : Bool := k.any s.isStale
  let keep (k : Option KeyStart) : Option KeyStart := if stale k then none else k
  let lost := (s.blockKey :: s.flowKeys).any fun k => stale k && k.any (·.required)
  if lost then .error (.expected "':'")
  else .ok { s with blockKey := keep s.blockKey, flowKeys := s.flowKeys.map keep }

/-- Opens a block collection at a column further in than the one around it. -/
def rollIndent (s : Scan) (column : Nat) (position : Option Nat) (t : Token) : Scan :=
  if s.inFlow || (column : Int) ≤ s.indent then s
  else
    let s := { s with indents := s.indent :: s.indents, indent := column }
    match position with
    | none => s.push t
    | some n => s.insertAt n t

/-- How many block collections end at a column, and the indentation of the one that goes on. -/
def outer (column : Int) (indent : Int) : List Int → Nat × Int × List Int
  | [] => (0, indent, [])
  | i :: rest =>
    if indent > column then
      let (n, indent, rest) := outer column i rest
      (n + 1, indent, rest)
    else (0, indent, i :: rest)

/-- Closes the block collections that are further in than a column. -/
def unrollIndent (s : Scan) (column : Int) : Scan :=
  if s.inFlow then s
  else
    let (n, indent, indents) := outer column s.indent s.indents
    { s with tokens := s.tokens ++ List.replicate n .blockEnd, indent, indents }

/-- Moves over blanks, comments and line ends. A tab is a blank only where no key may begin. -/
def skipSpace : Nat → Scan → Scan
  | 0, s => s
  | fuel + 1, s =>
    let p := s.cursor
    let p := if p.column == 0 && p.peek == some byteOrderMark then p.step else p
    let p := p.dropWhile fun c => c == ' ' || (c == '\t' && (s.inFlow || !s.keyAllowed))
    let p := p.skipComment
    -- outside of brackets a key may begin on every new line
    if p.peek.any isBreak then
      skipSpace fuel { s with cursor := p.step, keyAllowed := s.keyAllowed || !s.inFlow }
    else { s with cursor := p }

/-- Moves over `n` characters that are a token. -/
def take (s : Scan) (n : Nat) (t : Token) : Scan :=
  { s with cursor := s.cursor.skip n }.push t

/-! ## Directives, anchors and tags -/

/-- A number of at most nine digits. -/
def number (p : Cursor) : Except Fault (Nat × Cursor) :=
  let (digits, q) := p.takeWhile Char.isDigit
  if digits.isEmpty || digits.length > 9 then .error (.expected "version number")
  else .ok (Nat.ofDigitChars 10 digits 0, q)

/-- A handle: an exclamation mark, a name and, unless it is the plain one, another mark. -/
def tagHandle (p : Cursor) : Except Fault (List Char × Cursor) :=
  if p.peek ≠ some '!' then .error (.expected "'!'")
  else
    let (name, q) := p.step.takeWhile isNameChar
    if q.peek = some '!' then .ok ('!' :: name ++ ['!'], q.step) else .ok ('!' :: name, q)

/-- A character of the rest of a tag. Separators of items belong to it only between angle
brackets. -/
def isTagChar (verbatim : Bool) (c : Char) : Bool :=
  isNameChar c || ";/?:@&=+$.!~*\x27()".toList.contains c || (verbatim && ",[]".toList.contains c)

/-- An octet written as a percent sign and two hexadecimal digits. -/
def tagOctet (p : Cursor) : Except Fault (Nat × Cursor) :=
  match p.peek, (p.peekAt 1).bind Json.hexValue?, (p.peekAt 2).bind Json.hexValue? with
  | some '%', some a, some b => .ok (a * 16 + b, p.skip 3)
  | _, _, _ => .error (.expected "URI escaped octet")

/-- How many octets follow the first one of a character. -/
def octetsAfter? (n : Nat) : Option Nat :=
  if n < 0x80 then some 0
  else if 0xC0 ≤ n ∧ n < 0xE0 then some 1
  else if 0xE0 ≤ n ∧ n < 0xF0 then some 2
  else if 0xF0 ≤ n ∧ n < 0xF8 then some 3
  else none

/-- The octets that continue a character. -/
def tagOctets : Nat → Cursor → Except Fault Cursor
  | 0, p => .ok p
  | n + 1, p => do
    let (octet, p) ← tagOctet p
    if 0x80 ≤ octet ∧ octet < 0xC0 then tagOctets n p else .error (.expected "trailing octet")

/-- The rest of a tag. Gives the number of characters read. -/
def tagRest (verbatim : Bool) : Nat → Nat → Cursor → Except Fault (Nat × Cursor)
  | 0, n, p => .ok (n, p)
  | fuel + 1, n, p =>
    match p.peek with
    | none => .ok (n, p)
    | some c =>
      if c = '%' then do
        let (octet, p) ← tagOctet p
        match octetsAfter? octet with
        | none => .error (.expected "leading octet")
        | some more =>
          let p ← tagOctets more p
          tagRest verbatim fuel (n + 1) p
      else if isTagChar verbatim c then tagRest verbatim fuel (n + 1) p.step
      else .ok (n, p)

/-- A tag that must not be empty; `before` counts characters of it that have been read. -/
def tagUri (verbatim : Bool) (before : Nat) (p : Cursor) : Except Fault (Nat × Cursor) := do
  let (n, p) ← tagRest verbatim (p.rest.length + 1) 0 p
  if before + n = 0 then .error (.expected "tag URI") else .ok (n, p)

/-- Reads a directive, from after its percent sign. -/
def directive (p : Cursor) : Except Fault (Token × Cursor) := do
  let (name, p) := p.takeWhile isNameChar
  if name.isEmpty || !isGap p.peek then throw (.expected "directive name")
  let (token, p) ← match String.ofList name with
    | "YAML" =>
      let (major, p) ← number (p.dropWhile isBlank)
      if p.peek ≠ some '.' then throw (.expected "digit or '.'")
      let (minor, p) ← number p.step
      pure (Token.version major minor, p)
    | "TAG" =>
      let (handle, p) ← tagHandle (p.dropWhile isBlank)
      if handle.length > 1 && handle.getLast? ≠ some '!' then throw (.expected "'!'")
      if !(p.peek.any isBlank) then throw (.expected "whitespace")
      let (_, p) ← tagUri true 0 (p.dropWhile isBlank)
      if !isGap p.peek then throw (.expected "whitespace or line break")
      pure (Token.tagDirective (String.ofList handle), p)
    | _ => throw (.expected "known directive name")
  return (token, ← p.finishLine)

/-- The name of an anchor or an alias. -/
def anchorName (p : Cursor) : Except Fault (String × Cursor) :=
  let (name, q) := p.takeWhile isNameChar
  let ends := isGap q.peek || q.peek.any fun c => "?:,]\x7d%@\x60".toList.contains c
  if name.isEmpty || !ends then .error (.expected "alphabetic or numeric character")
  else .ok (String.ofList name, q)

/-- A tag. Of a tag that uses a handle the handle is kept, of any other nothing. -/
def tag (inFlow : Bool) (p : Cursor) : Except Fault (Token × Cursor) := do
  let (handle, p) ←
    if p.peekAt 1 = some '<' then do
      let (_, p) ← tagUri true 0 (p.skip 2)
      if p.peek ≠ some '>' then throw (.expected "'>'")
      pure ([], p.step)
    else do
      let (handle, p) ← tagHandle p
      if handle.length > 1 && handle.getLast? = some '!' then
        let (_, p) ← tagUri false 0 p
        pure (handle, p)
      else
        let (n, p) ← tagUri false handle.length p
        pure (if handle.length + n = 1 then [] else ['!'], p)
  if !isGap p.peek && !(inFlow && p.peek = some ',') then
    throw (.expected "whitespace or line break")
  return (.tag (String.ofList handle), p)

/-! ## One token -/

/-- A mark around documents ends every collection. -/
def documentMark (s : Scan) (t : Token) : Except Fault Scan := do
  let s ← (s.unrollIndent (-1)).dropKey
  return { s with keyAllowed := false }.take 3 t

def flowStart (s : Scan) (t : Token) : Except Fault Scan := do
  let s ← s.saveKey
  return { s with flowKeys := none :: s.flowKeys, keyAllowed := true }.take 1 t

def flowEnd (s : Scan) (t : Token) : Except Fault Scan := do
  let s ← s.dropKey
  return { s with flowKeys := s.flowKeys.tail, keyAllowed := false }.take 1 t

def flowEntry (s : Scan) : Except Fault Scan := do
  let s ← s.dropKey
  return { s with keyAllowed := true }.take 1 .flowEntry

/-- An item of a block sequence. Within brackets the grammar refuses it. -/
def blockEntry (s : Scan) : Except Fault Scan := do
  if !s.inFlow && !s.keyAllowed then throw (.notHere "block sequence entries")
  let s ← (s.rollIndent s.cursor.column none .blockSequenceStart).dropKey
  return { s with keyAllowed := true }.take 1 .blockEntry

/-- A key with a sign of its own. -/
def explicitKey (s : Scan) : Except Fault Scan := do
  if !s.inFlow && !s.keyAllowed then throw (.notHere "mapping keys")
  let s ← (s.rollIndent s.cursor.column none .blockMappingStart).dropKey
  return { s with keyAllowed := !s.inFlow }.take 1 .key

/-- The colon before a value. If a key may have begun on this line, it did. -/
def valueSign (s : Scan) : Except Fault Scan :=
  match s.possibleKey with
  | some k =>
    -- the mapping begins where its first key does, in front of what has been read since
    let s := (s.insertAt k.position .key).rollIndent k.column (some k.position) .blockMappingStart
    .ok ({ s.setKey none with keyAllowed := false }.take 1 .value)
  | none => do
    if !s.inFlow && !s.keyAllowed then throw (.notHere "mapping values")
    let s := s.rollIndent s.cursor.column none .blockMappingStart
    return { s with keyAllowed := !s.inFlow }.take 1 .value

/-- A token that may be a key, read by `read`. -/
def keyLike (s : Scan) (read : Cursor → Except Fault (Token × Cursor)) : Except Fault Scan := do
  let s ← s.saveKey
  let (t, p) ← read s.cursor
  return { s with keyAllowed := false, cursor := p }.push t

def block (s : Scan) (folded : Bool) : Except Fault Scan := do
  let s ← s.dropKey
  let (text, p) ← scanBlock folded s.indent s.cursor.step
  return { s with keyAllowed := true, cursor := p }.push (.scalar (String.ofList text) false)

def quotedScalar (quote : Char) (p : Cursor) : Except Fault (Token × Cursor) := do
  let (text, p) ← scanQuoted quote (p.rest.length + 1) [] p.step
  return (.scalar (String.ofList text) false, p)

def plain (s : Scan) : Except Fault Scan := do
  let s ← s.saveKey
  let (text, overLines, p) ←
    scanPlain s.inFlow (s.indent + 1) (s.cursor.rest.length + 1) [] {} s.cursor
  return { s with keyAllowed := overLines, cursor := p }.push (.scalar (String.ofList text) true)

/-- Characters that begin something other than a plain scalar. -/
def isIndicator (c : Char) : Bool := "-?:,[]{}#&*!|>\x27\"%@\x60".toList.contains c

/-- Whether a plain scalar can begin with `c` when `next` follows. -/
def startsPlain (inFlow : Bool) (c : Char) (next : Option Char) : Bool :=
  !(isGap (some c) || isIndicator c) || (c == '-' && !next.any isBlank)
    || (!inFlow && (c == '?' || c == ':') && !isGap next)

/-- Reads the token that begins with `c` here. -/
def token (s : Scan) (c : Char) : Except Fault Scan :=
  let p := s.cursor
  let next := p.peekAt 1
  if p.column == 0 && c == '%' then do
    let s ← (s.unrollIndent (-1)).dropKey
    let (t, p) ← directive p.step
    return { s with keyAllowed := false, cursor := p }.push t
  else if p.atDocumentMark '-' then s.documentMark .documentStart
  else if p.atDocumentMark '.' then s.documentMark .documentEnd
  else if c == '[' then s.flowStart .flowSequenceStart
  else if c == '{' then s.flowStart .flowMappingStart
  else if c == ']' then s.flowEnd .flowSequenceEnd
  else if c == '}' then s.flowEnd .flowMappingEnd
  else if c == ',' then s.flowEntry
  else if c == '-' && isGap next then s.blockEntry
  else if c == '?' && (s.inFlow || isGap next) then s.explicitKey
  else if c == ':' && (s.inFlow || isGap next) then s.valueSign
  else if c == '*' then
    s.keyLike fun p => do let (name, p) ← anchorName p.step; return (.reference name, p)
  else if c == '&' then
    s.keyLike fun p => do let (name, p) ← anchorName p.step; return (.anchor name, p)
  else if c == '!' then s.keyLike (tag s.inFlow)
  else if (c == '|' || c == '>') && !s.inFlow then s.block (c == '>')
  else if c == '\x27' || c == '"' then s.keyLike (quotedScalar c)
  else if startsPlain s.inFlow c next then s.plain
  else .error (.unexpected (some c))

/-- Reads token after token up to the end. Every token takes up at least one character, so the
length of the text is fuel enough. -/
def run : Nat → Scan → Except Fault (List Token)
  | 0, s => .ok s.tokens
  | fuel + 1, s => do
    let s ← (skipSpace (s.cursor.rest.length + 1) s).dropStaleKeys
    match s.cursor.peek with
    | none =>
      -- the end of the text ends every block
      let s ← (s.unrollIndent (-1)).dropKey
      return s.tokens
    | some c =>
      let s ← (s.unrollIndent s.cursor.column).token c
      run fuel s

end Scan

/-- The tokens of a text. -/
def Token.scan (text : String) : Except Fault (List Token) :=
  let cursor := Cursor.start text
  match cursor.rest.find? fun c => !isAllowed c with
  | some c => .error (.control c)
  | none => Scan.run (cursor.rest.length + 1) { cursor }

end JobLauncher.Yaml
