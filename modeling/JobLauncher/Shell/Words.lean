import JobLauncher.Shell.Expansion
import JobLauncher.Shell.Grammar.Basic

/-!
# Words of commands

The fields that the words of a command come to, and the values that variables are set to, which may
be lists.
-/

namespace JobLauncher.Shell

/-- The parts of a word with its tildes exchanged. In a word that looks like a setting they may also
stand at the start of the value and after a colon in it. -/
def tildeParts (m : Machine) (ps : List Part) : List Part :=
  match settingLength? ps with
  | some n => ps.take n ++ expandTildes m true true (ps.drop n)
  | none => expandTildes m false true ps

/-- The texts that a pattern for files comes to: the files it matches, or its own text. -/
def filesOrText (p : List Guarded) : Act (List Bytes) := do
  let m ← get
  if m.has "noglob" then return [plainText p]
  else
    match matchingFiles m.pathStyle m.files m.directory p with
    | [] =>
      if Glob.isActive m.choices p then
        if m.hasExtra "failglob" then refuseExpansion (bytes "no match: " ++ plainText p)
        else if m.hasExtra "nullglob" then return []
      return [plainText p]
    | found => return found

/-- The fields that a word comes to. -/
def fieldsOf (go : Perform) (w : Word) : Act (List Bytes) := do
  let m ← get
  let words := if m.has "braceexpand" then w.braces else [w]
  let found ← words.mapM fun w => do
    let bits ← partsBits go {} maxNesting (tildeParts (← get) w.parts)
    let fields := splitBits (← get).separators none false bits
    return (← fields.mapM filesOrText).flatten
  return found.flatten

/-- The fields that several words come to. -/
def allFields (go : Perform) (ws : List Word) : Act (List Bytes) :=
  return (← ws.mapM (fieldsOf go)).flatten

/-- The text that a word comes to where only one can. -/
def textOfWord (go : Perform) (w : Word) : Act Bytes := textOf go maxNesting w

/-- The text that a variable is set to. -/
def settingText (go : Perform) (w : Word) : Act Bytes := do
  let parts := expandTildes (← get) true true w.parts
  return (← partsBits go { splits := false } maxNesting parts).flatMap Bit.chars

/-! ## Lists -/

/-- An item of a list: what it is to be stored under, whether its text is added to what is there,
and its text. -/
structure ListItem where
  index : Option Bytes := none
  adds : Bool := false
  text : Bytes

/-- A word of a list that says what it is stored under: the index, whether it adds, and the rest. -/
def indexed? (w : Word) : Option (List Part × Bool × List Part) :=
  match w.parts with
  | .char false '[' :: rest => go 0 [] rest
  | _ => none
where
  go (depth : Nat) (begun : List Part) : List Part → Option (List Part × Bool × List Part)
    | .char false ']' :: .char false '=' :: rest =>
      if depth = 0 then some (begun.reverse, false, rest)
      else go (depth - 1) (.char false ']' :: begun) (.char false '=' :: rest)
    | .char false ']' :: .char false '+' :: .char false '=' :: rest =>
      if depth = 0 then some (begun.reverse, true, rest) else none
    | .char false ']' :: rest =>
      if depth = 0 then none else go (depth - 1) (.char false ']' :: begun) rest
    | .char false '[' :: rest => go (depth + 1) (.char false '[' :: begun) rest
    | p :: rest => go depth (p :: begun) rest
    | [] => none

/-- Puts words together again where blanks stand inside an index. -/
def joinIndices : List Word → List Word
  | w :: v :: rest =>
    if isOpenItem w then
      joinIndices ({
        parts := w.parts ++ .char false ' ' :: v.parts
        source := w.source ++ ' ' :: v.source } :: rest)
    else w :: joinIndices (v :: rest)
  | ws => ws
termination_by ws => ws.length
where
  isOpenItem (w : Word) : Bool :=
    match w.parts with
    | .char false '[' :: rest => !rest.contains (.char false ']')
    | _ => false

/-- The words of a list. -/
def listWords (line : Nat) (text : Bytes) : List Word :=
  joinIndices ((Grammar.codeTokens {} line text).filterMap fun
    | (.word w, _) => some w
    | _ => none)

/-- The items of a list. -/
def listItems (go : Perform) (text : Bytes) : Act (List ListItem) := do
  let m ← get
  let found ← (listWords m.line text).mapM fun w => do
    match indexed? w with
    | some (index, adds, value) =>
      let index ← textOf go maxNesting { parts := index }
      let text ← settingText go { parts := value }
      return [{ index := some index, adds, text }]
    | none => return (← fieldsOf go w).map fun text => ({ text } : ListItem)
  return found.flatten

/-- Fills a list with items one after another. -/
def fillList (origin : Bytes) (number : Bool) (taken : Bytes → Bytes) (next : Nat)
    (items : List (Nat × Bytes)) : List ListItem → Act (List (Nat × Bytes))
  | [] => return items
  | item :: rest => do
    let place ← match item.index with
      | none => pure next
      | some t =>
        let n ← numberOf origin t
        pure (if n < 0 then (n + (Items.next items : Nat)).toNat else n.toNat)
    let old := if item.adds then (items.lookup place).getD [] else []
    let text ←
      if number then
        let n ← assignedNumber origin item.text
        let before ← assignedNumber origin old
        pure (integer (Arithmetic.wrap (before + n)))
      else pure (old ++ item.text)
    fillList origin number taken (place + 1) (Items.put place (taken text) items) rest

/-- Fills a table with items one after another. -/
def fillTable (origin name : Bytes) (number : Bool) (taken : Bytes → Bytes)
    (items : List (Bytes × Bytes)) : List ListItem → Act (List (Bytes × Bytes))
  | [] => return items
  | { index := some k, adds, text } :: rest => do
    let old := if adds then (items.lookup k).getD [] else []
    let text ← if number then pure (integer (← assignedNumber [] text)) else pure (old ++ text)
    fillTable origin name number taken (Table.put k (taken text) items) rest
  | { index := none, text, .. } :: rest => do
    -- a command that declares has quoted its items
    let shown := if origin = [] then text else Spelling.betweenApostrophes text
    complain (name ++ bytes ": " ++ shown
      ++ bytes ": must use subscript when assigning associative array")
    fillTable origin name number taken items rest

/-- Items that are names and values in turn. The last name may have no value. -/
def pairItems : List ListItem → List ListItem
  | k :: v :: rest => { index := some k.text, text := v.text } :: pairItems rest
  | [k] => [{ index := some k.text, text := [] }]
  | [] => []

/-- Gives the items of a list to a variable, or adds them. -/
def assignList (origin name : Bytes) (adds : Bool) (items : List ListItem) : Act Unit := do
  let m ← get
  let name := m.target name
  let v := (m.kept? name).getD {}
  if v.readOnly then refuseChange name
  match v.value with
  | .table old =>
    let inTurn : Bool := items.head?.any (·.index.isNone)
    let items := if inTurn then pairItems items else items
    storeValue name (.table (← fillTable origin name v.number v.taken (if adds then old else []) items))
  | value =>
    let old := if adds then value.asList else []
    storeValue name (.list (← fillList origin v.number v.taken (Items.next old) old items))

/-- What a setting is about: a list, or a text for a variable or an item of it. -/
inductive Assigned where
  | list (items : List ListItem)
  | text (index : Option Bytes) (t : Bytes)

/-- The value of a setting. -/
def settingValue (go : Perform) (s : Setting) : Act Assigned := do
  match s.value.parts, s.index with
  | [.items text], none => return .list (← listItems go text)
  | _, _ =>
    let index ← s.index.mapM fun w => pure (w.parts.flatMap partSource)
    return .text index (← settingText go s.value)
where
  /-- The source of a part of an index. -/
  partSource : Part → Bytes
    | .char true c => ['\\', c]
    | .char false c => [c]
    | .quote => []
    | .parameter _ inside => bytes "$\x7b" ++ inside ++ bytes "\x7d"
    | .output _ _ script => bytes "$(" ++ script ++ [')']
    | .arithmetic _ e => bytes "$((" ++ e ++ bytes "))"
    | .process _ s => bytes "<(" ++ s ++ [')']
    | .items t => ['('] ++ t ++ [')']

/-- How errors name what is set. -/
def shownPlace (name : Bytes) (index : Option Bytes) : Bytes :=
  match index with
  | none => name
  | some i => name ++ ['['] ++ i ++ [']']

/-- Sets a variable to a value. -/
def assign (go : Perform) (origin name : Bytes) (adds : Bool) : Assigned → Act Unit
  | .list items => assignList origin name adds items
  | .text none t => assignText origin { name } name adds t
  | .text (some index) t => do
    let shown := shownPlace name (some index)
    if index = [] ∨ index = ['@'] ∨ index = ['*'] then
      refuseExpansion (shown ++ bytes ": bad array subscript")
    let key ← keyOf go maxNesting name index
    assignText origin { name, key } shown adds t

end JobLauncher.Shell
