import JobLauncher.Dict
import JobLauncher.Yaml.Token

/-!
# YAML nodes

`Node.parse?` reads the one document of a text as a tree, in which an alias is the name of an
anchor. `Document.ofNode` finds the node that each alias stands for.
-/

namespace JobLauncher.Yaml

/-- A node as it is written. `Ref` is what an alias says about the node it stands for. -/
inductive Node (Ref : Type) where
  | scalar (anchor : Option String) (text : String) (plain : Bool)
  | reference (ref : Ref)
  | sequence (anchor : Option String) (items : List (Node Ref))
  | mapping (anchor : Option String) (entries : List (Node Ref × Node Ref))

namespace Node

/-- The node that is written with nothing at all. -/
def empty : Node Ref := .scalar none "" true

/-! ## The grammar

Each reader takes the tokens from its place on and gives those it leaves. The fuel bounds the depth
of the recursion; no step goes more than a few calls deep without taking a token. -/

/-- The anchor and the tag in front of a node, in either order. -/
def properties (handles : List String) :
    List Token → Except Fault (Option String × Bool × List Token)
  | .anchor a :: .tag h :: rest => do check h; return (some a, true, rest)
  | .anchor a :: rest => .ok (some a, true, rest)
  | .tag h :: .anchor a :: rest => do check h; return (some a, true, rest)
  | .tag h :: rest => do check h; return (none, true, rest)
  | rest => .ok (none, false, rest)
where
  /-- A handle has to be declared; a tag without one needs none. -/
  check (h : String) : Except Fault Unit :=
    if h = "" ∨ h ∈ handles then .ok () else .error (.expected "defined tag handle")

mutual

/-- A node. Only in a block may it be a block collection; a sequence without indentation of its own
may stand only where `indentless` says so. -/
def read (handles : List String) (inBlock indentless : Bool) :
    Nat → List Token → Except Fault (Node String × List Token)
  | 0, _ => .error (.expected "end of nesting")
  | fuel + 1, tokens => do
    match tokens with
    | .reference name :: rest => return (.reference name, rest)
    | _ =>
      let (anchor, decorated, tokens) ← properties handles tokens
      match tokens with
      | .blockEntry :: _ =>
        if indentless then
          let (items, rest) ← indentlessItems handles fuel tokens
          return (.sequence anchor items, rest)
        else if decorated then return (.scalar anchor "" true, tokens)
        else throw (.expected "node content")
      | .scalar text plain :: rest => return (.scalar anchor text plain, rest)
      | .flowSequenceStart :: rest =>
        let (items, rest) ← flowItems handles true fuel rest
        return (.sequence anchor items, rest)
      | .flowMappingStart :: rest =>
        let (entries, rest) ← flowEntries handles true fuel rest
        return (.mapping anchor entries, rest)
      | .blockSequenceStart :: rest =>
        if inBlock then
          let (items, rest) ← blockItems handles fuel rest
          return (.sequence anchor items, rest)
        else if decorated then return (.scalar anchor "" true, tokens)
        else throw (.expected "node content")
      | .blockMappingStart :: rest =>
        if inBlock then
          let (entries, rest) ← blockEntries handles fuel rest
          return (.mapping anchor entries, rest)
        else if decorated then return (.scalar anchor "" true, tokens)
        else throw (.expected "node content")
      | _ =>
        if decorated then return (.scalar anchor "" true, tokens)
        else throw (.expected "node content")

/-- A node unless one of the tokens that `ends` names comes first. -/
def readUnless (handles : List String) (inBlock indentless : Bool) (ends : Token → Bool) :
    Nat → List Token → Except Fault (Node String × List Token)
  | 0, _ => .error (.expected "end of nesting")
  | fuel + 1, tokens =>
    if tokens.head?.any ends then .ok (empty, tokens)
    else read handles inBlock indentless fuel tokens

/-- The items of a block sequence up to its end. -/
def blockItems (handles : List String) :
    Nat → List Token → Except Fault (List (Node String) × List Token)
  | 0, _ => .error (.expected "end of nesting")
  | fuel + 1, tokens => do
    match tokens with
    | .blockEntry :: rest =>
      let (item, rest) ← readUnless handles true false
        (fun t => t == .blockEntry || t == .blockEnd) fuel rest
      let (items, rest) ← blockItems handles fuel rest
      return (item :: items, rest)
    | .blockEnd :: rest => return ([], rest)
    | _ => throw (.expected "'-' indicator")

/-- The items of a sequence that has the indentation of the mapping around it. -/
def indentlessItems (handles : List String) :
    Nat → List Token → Except Fault (List (Node String) × List Token)
  | 0, _ => .error (.expected "end of nesting")
  | fuel + 1, tokens => do
    match tokens with
    | .blockEntry :: rest =>
      let (item, rest) ← readUnless handles true false
        (fun t => t == .blockEntry || t == .key || t == .value || t == .blockEnd) fuel rest
      let (items, rest) ← indentlessItems handles fuel rest
      return (item :: items, rest)
    | _ => return ([], tokens)

/-- The entries of a block mapping up to its end. A key or a value may be left out. -/
def blockEntries (handles : List String) :
    Nat → List Token → Except Fault (List (Node String × Node String) × List Token)
  | 0, _ => .error (.expected "end of nesting")
  | fuel + 1, tokens => do
    let ends (t : Token) : Bool := t == .key || t == .value || t == .blockEnd
    match tokens with
    | .key :: rest =>
      let (k, rest) ← readUnless handles true true ends fuel rest
      let (v, rest) ← match rest with
        | .value :: rest => readUnless handles true true ends fuel rest
        | _ => pure (empty, rest)
      let (entries, rest) ← blockEntries handles fuel rest
      return ((k, v) :: entries, rest)
    | .blockEnd :: rest => return ([], rest)
    | _ => throw (.expected "expected key")

/-- The items of a sequence in brackets, from the first or from after one. -/
def flowItems (handles : List String) (first : Bool) :
    Nat → List Token → Except Fault (List (Node String) × List Token)
  | 0, _ => .error (.expected "end of nesting")
  | fuel + 1, tokens => do
    match tokens with
    | .flowSequenceEnd :: rest => return ([], rest)
    | _ =>
      let tokens ← match first, tokens with
        | true, _ => pure tokens
        | false, .flowEntry :: rest => pure rest
        | false, _ => throw (.expected "',' or ']'")
      match tokens with
      | .flowSequenceEnd :: rest => return ([], rest)
      | .key :: rest =>
        let (item, rest) ← flowPair handles fuel rest
        let (items, rest) ← flowItems handles false fuel rest
        return (item :: items, rest)
      | _ =>
        let (item, rest) ← read handles false false fuel tokens
        let (items, rest) ← flowItems handles false fuel rest
        return (item :: items, rest)

/-- A single entry in a sequence in brackets, from after the sign of its key. Where the key is left
out, the token in its place is lost. -/
def flowPair (handles : List String) :
    Nat → List Token → Except Fault (Node String × List Token)
  | 0, _ => .error (.expected "end of nesting")
  | fuel + 1, tokens => do
    let ends (t : Token) : Bool := t == .flowEntry || t == .flowSequenceEnd
    let (k, rest) ←
      if tokens.head?.any fun t => t == .value || ends t then pure (empty, tokens.tail)
      else read handles false false fuel tokens
    let (v, rest) ← match rest with
      | .value :: rest => readUnless handles false false ends fuel rest
      | _ => pure (empty, rest)
    return (.mapping none [(k, v)], rest)

/-- The entries of a mapping in braces, from the first or from after one. -/
def flowEntries (handles : List String) (first : Bool) :
    Nat → List Token → Except Fault (List (Node String × Node String) × List Token)
  | 0, _ => .error (.expected "end of nesting")
  | fuel + 1, tokens => do
    let ends (t : Token) : Bool := t == .flowEntry || t == .flowMappingEnd
    match tokens with
    | .flowMappingEnd :: rest => return ([], rest)
    | _ =>
      let tokens ← match first, tokens with
        | true, _ => pure tokens
        | false, .flowEntry :: rest => pure rest
        | false, _ => throw (.expected "',' or '\x7d'")
      match tokens with
      | .flowMappingEnd :: rest => return ([], rest)
      | .key :: rest =>
        let (k, rest) ← readUnless handles false false (fun t => t == .value || ends t) fuel rest
        let (v, rest) ← match rest with
          | .value :: rest => readUnless handles false false ends fuel rest
          | _ => pure (empty, rest)
        let (entries, rest) ← flowEntries handles false fuel rest
        return ((k, v) :: entries, rest)
      | _ =>
        let (k, rest) ← read handles false false fuel tokens
        let (entries, rest) ← flowEntries handles false fuel rest
        return ((k, empty) :: entries, rest)

end

end Node

/-! ## Documents -/

/-- The directives in front of a document: whether there is one for the version, and the handles. -/
def directives (version : Bool) (handles : List String) :
    List Token → Except Fault (Bool × List String × List Token)
  | .version major minor :: rest =>
    if version then .error (.expected "only one version")
    else if major = 1 ∧ (minor = 1 ∨ minor = 2) then directives true handles rest
    else .error (.expected "compatible version")
  | .tagDirective handle :: rest =>
    if handle ∈ handles then .error (.expected "only one directive for a handle")
    else directives version (handle :: handles) rest
  | rest => .ok (version, handles, rest)

/-- Handles that need no directive. -/
def knownHandles : List String := ["!", "!!"]

/-- The node of a document whose beginning is marked; there may be none. -/
def explicitDocument (handles : List String) (tokens : List Token) :
    Except Fault (Node String × List Token) :=
  match tokens with
  | [] | .documentStart :: _ | .documentEnd :: _ | .version _ _ :: _ | .tagDirective _ :: _ =>
    .ok (.empty, tokens)
  | _ => Node.read handles true false (8 * tokens.length + 8) tokens

/-- Nothing may follow a document but marks of its end. -/
def checkRest : List Token → Except Fault Unit
  | [] => .ok ()
  | .documentEnd :: rest => checkRest rest
  | _ => .error .manyDocuments

/-- The one document of a text, or nothing if there is only blank space and comments. -/
def Node.parse? (text : String) : Except Fault (Option (Node String)) := do
  let tokens ← Token.scan text
  match tokens with
  | [] => return none
  | .documentStart :: _ | .version _ _ :: _ | .tagDirective _ :: _ =>
    let (_, handles, rest) ← directives false [] tokens
    match rest with
    | .documentStart :: rest =>
      let (node, rest) ← explicitDocument (handles ++ knownHandles) rest
      checkRest rest
      return some node
    | _ => throw (.expected "<document start>")
  | _ =>
    let (node, rest) ← Node.read knownHandles true false (8 * tokens.length + 8) tokens
    checkRest rest
    return some node

/-! ## Aliases -/

/-- The anchors met so far: the number that each name stands for now, and the nodes by their
numbers, the last begun first. -/
structure Anchors where
  names : List (String × Nat) := []
  nodes : List (Nat × Node Nat) := []

/-- Enters the anchor of a node that begins. Its number is the count of names before; a name that is
anchored again moves to its new number. -/
def Anchors.enter (a : Anchors) : Option String → Anchors
  | none => a
  | some name =>
    { a with names := (name, a.names.length) :: a.names.filter fun e => e.1 ≠ name }

/-- Enters a node that has an anchor, behind those that began inside it and before all others. -/
def Anchors.record (before inside : Anchors) (anchor : Option String) (n : Node Nat) : Anchors :=
  { inside with
    nodes := inside.nodes ++ (anchor.map fun _ => (before.names.length, n)).toList ++ before.nodes }

/-- The anchors for what is inside a node that begins. -/
def Anchors.inside (before : Anchors) (anchor : Option String) : Anchors :=
  { before.enter anchor with nodes := [] }

mutual

/-- Replaces the name in each alias by the number it stands for at that place. -/
def Node.number (a : Anchors) : Node String → Except Fault (Node Nat × Anchors)
  | .scalar anchor text plain =>
    let n := Node.scalar anchor text plain
    .ok (n, a.record (a.inside anchor) anchor n)
  | .reference name =>
    match a.names.lookup name with
    | some n => .ok (.reference n, a)
    | none => .error (.unknownAlias name)
  | .sequence anchor items => do
    let (items, inside) ← Node.numberItems (a.inside anchor) items
    let n := Node.sequence anchor items
    return (n, a.record inside anchor n)
  | .mapping anchor entries => do
    let (entries, inside) ← Node.numberEntries (a.inside anchor) entries
    let n := Node.mapping anchor entries
    return (n, a.record inside anchor n)

def Node.numberItems (a : Anchors) : List (Node String) → Except Fault (List (Node Nat) × Anchors)
  | [] => .ok ([], a)
  | n :: rest => do
    let (n, a) ← Node.number a n
    let (rest, a) ← Node.numberItems a rest
    return (n :: rest, a)

def Node.numberEntries (a : Anchors) :
    List (Node String × Node String) → Except Fault (List (Node Nat × Node Nat) × Anchors)
  | [] => .ok ([], a)
  | (k, v) :: rest => do
    let (k, a) ← Node.number a k
    let (v, a) ← Node.number a v
    let (rest, a) ← Node.numberEntries a rest
    return ((k, v) :: rest, a)

end

mutual

/-- How much a node has to say: one for a scalar or an alias, two for the ends of a collection. -/
def Node.size : Node Ref → Nat
  | .scalar _ _ _ | .reference _ => 1
  | .sequence _ items => 2 + Node.itemsSize items
  | .mapping _ entries => 2 + Node.entriesSize entries

def Node.itemsSize : List (Node Ref) → Nat
  | [] => 0
  | n :: rest => n.size + Node.itemsSize rest

def Node.entriesSize : List (Node Ref × Node Ref) → Nat
  | [] => 0
  | (k, v) :: rest => k.size + v.size + Node.entriesSize rest

end

/-- A node and the nodes that its aliases stand for. -/
structure Document where
  root : Node Nat
  anchored : List (Nat × Node Nat)
  /-- How many aliases may be followed in reading the document. -/
  limit : Nat

/-- The document of a node. Reading it may follow a hundred aliases for every part it has. -/
def Document.ofNode (n : Node String) : Except Fault Document := do
  let (root, anchors) ← n.number {}
  return ⟨root, anchors.nodes, 100 * n.size⟩

/-- A reader of a document counts the aliases it follows. -/
abbrev Reading := StateT Nat (Except Fault)

/-- The node that an alias stands for. -/
def Document.follow (d : Document) (ref : Nat) : Reading (Node Nat) := do
  modify (· + 1)
  if (← get) > d.limit then throw .repetition
  match d.anchored.lookup ref with
  | some n => return n
  | none => throw (.unknownAlias (toString ref))

/-- A node as what it is, once an alias has been followed. An anchor is never on an alias, so the
node that an alias stands for is not one itself. -/
def Document.see (d : Document) : Node Nat → Reading (Node Nat)
  | .reference ref => d.follow ref
  | n => return n

/-- The text of a scalar, however it is written. -/
def Document.text (d : Document) (n : Node Nat) : Reading String := do
  match ← d.see n with
  | .scalar _ text _ => return text
  | _ => throw (.shape "a string")

/-- The entries of a mapping, each key with what `read` makes of its value; the last of several
entries with one key stays. A plain scalar without text is a mapping without entries. -/
def Document.dict (d : Document) (read : Node Nat → Reading α) (n : Node Nat) :
    Reading (Dict α) := do
  match ← d.see n with
  | .mapping _ entries =>
    let pairs ← entries.mapM fun (k, v) => return (← d.text k, ← read v)
    return Dict.ofList pairs
  | .scalar _ "" true => return Dict.empty
  | _ => throw (.shape "a map")

end JobLauncher.Yaml
