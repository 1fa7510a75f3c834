import JobLauncher.Shell.Assignment
import JobLauncher.Shell.Braces
import JobLauncher.Shell.Field
import JobLauncher.Shell.Parameter
import JobLauncher.Shell.Spelling
import JobLauncher.Shell.Task

/-!
# Expansion

What words stand for. The parts of a word become bits; where several words may come of one, the bits
are parted into fields, and a field that is a pattern stands for the files it matches.

Expansion takes fuel for the depth of words inside words.
-/

namespace JobLauncher.Shell

/-- What a parameter was found to be. -/
structure Found where
  texts : List Bytes
  isSet : Bool
  /-- The sign that asked for several texts, if one did. -/
  several : Option Char := none

namespace Found

def ofOption (t : Option Bytes) : Found := { texts := t.toList, isSet := t.isSome }

/-- All texts as one. -/
def joined (f : Found) : Bytes := spaced f.texts

def map (g : Bytes → Bytes) (f : Found) : Found := { f with texts := f.texts.map g }

end Found

namespace Machine

/-- The letters of the options that are on. -/
def optionLetters : List (String × Char) :=
  [("allexport", 'a'), ("notify", 'b'), ("errexit", 'e'), ("noglob", 'f'), ("hashall", 'h'),
    ("keyword", 'k'), ("noexec", 'n'), ("privileged", 'p'), ("onecmd", 't'), ("nounset", 'u'),
    ("verbose", 'v'), ("xtrace", 'x'), ("braceexpand", 'B'), ("noclobber", 'C'), ("errtrace", 'E'),
    ("histexpand", 'H'), ("physical", 'P'), ("functrace", 'T')]

def letters (m : Machine) : Bytes :=
  ((optionLetters.filter fun o => m.has o.1).map (·.2))
    ++ if m.dialect = .full then ['c'] else []

/-- The text of a parameter that is a sign. -/
def special (m : Machine) (c : Char) : Option Bytes :=
  if c = '#' then some (decimal m.args.length)
  else if c = '?' then some (decimal m.status)
  else if c = '$' then some (decimal m.process)
  else if c = '-' then some (letters m)
  else m.lastJob.map decimal

/-- The characters that part fields. -/
def separators (m : Machine) : Separators := .of (m.textNamed? "IFS")

/-- What stands between texts that are joined into one. -/
def joint (m : Machine) (sign : Char) : Bytes :=
  if sign = '@' then [' ']
  else match m.textNamed? "IFS" with
    | none => [' ']
    | some cs => cs.take 1

/-- Whether patterns may have choices. -/
def choices (m : Machine) : Bool := m.hasExtra "extglob"

def pathStyle (m : Machine) : PathStyle :=
  { extended := m.choices, dots := m.hasExtra "dotglob", deep := m.hasExtra "globstar" }

end Machine

/-- Gives the line up over an expansion that means nothing. -/
def refuseExpansion (text : Bytes) : Act α := do
  complain text
  setStatus 1
  throw .abandon

/-- The name of a parameter as errors show it. -/
def Parameter.shown : Parameter → Bytes
  | named name none => name
  | named name (some index) => name ++ ['['] ++ index ++ [']']
  | argument n => '$' :: decimal n
  | special c => ['$', c]

/-! ## Changing texts -/

/-- A text with what matches a pattern in it exchanged; `new` gives the text for what matched. -/
def exchange (all : Bool) (p : List Glob) (new : Bytes → Bytes) : Nat → Bytes → Bytes
  | 0, t => t
  | fuel + 1, t =>
    match Glob.find? p t with
    | none => t
    | some (_, 0) => t
    | some (i, n) =>
      let rest := t.drop (i + n)
      t.take i ++ new ((t.drop i).take n) ++ if all then exchange all p new fuel rest else rest

/-- A text with something in place of what matches a pattern. -/
def replaced (spot : Char) (p : List Glob) (new : Bytes → Bytes) (t : Bytes) : Bytes :=
  if spot = '#' then
    match Glob.startLength? true p t with
    | some n => new (t.take n) ++ t.drop n
    | none => t
  else if spot = '%' then
    match Glob.endLength? true p t with
    | some n => t.take (t.length - n) ++ new (t.drop (t.length - n))
    | none => t
  else exchange (spot = '/') p new (t.length + 1) t

/-- A text in place of a match; an ampersand that nothing guards stands for the match. -/
def replacement (ampersands : Bool) (new : List Guarded) (found : Bytes) : Bytes :=
  new.flatMap fun (c, guarded) => if c = '&' ∧ !guarded ∧ ampersands then found else [c]

/-- A character with its case changed. -/
def recased (sign c : Char) : Char :=
  if sign = '^' then c.toUpper
  else if sign = ',' then c.toLower
  else if c.isUpper then c.toLower
  else c.toUpper

/-- A text with the case of its first character, or of all, changed where a pattern matches. -/
def recaseText (sign : Char) (all : Bool) (p : List Glob) (t : Bytes) : Bytes :=
  let change (c : Char) : Char := if p.isEmpty ∨ Glob.holds p [c] then recased sign c else c
  match t with
  | [] => []
  | c :: rest => change c :: if all then rest.map change else rest

/-- A part of a list; none if it would have a length below zero. -/
def part? (offset : Int) (length : Option Int) (l : List α) : Option (List α) :=
  let size : Int := l.length
  let start := if offset < 0 then offset + size else offset
  if start < 0 ∨ size < start then some []
  else
    let rest := l.drop start.toNat
    match length with
    | none => some rest
    | some n =>
      if 0 ≤ n then some (rest.take n.toNat)
      else if size + n < start then none
      else some (rest.take (size + n - start).toNat)

/-- The text of a variable in a form that has to do with the variable. -/
def describe (m : Machine) (name : Bytes) (letter : Char) (f : Found) : List Bytes :=
  let v := (m.lookup? name).getD {}
  match letter with
  | 'a' => [Spelling.letters v]
  | 'A' =>
    if !f.isSet then []
    else
      let ls := Spelling.letters v
      if f.several.isSome then [Spelling.declaration name v]
      else
        [(if ls = [] then [] else bytes "declare -" ++ ls ++ [' ']) ++ name ++ ['=']
          ++ Spelling.quoted f.joined]
  | 'K' =>
    match f.several, v.value with
    | some _, .list items =>
      [spaced (items.flatMap fun i => [decimal i.1, Spelling.declared i.2])]
    | some _, .table items =>
      [items.flatMap fun i => Spelling.tableKey i.1 ++ [' '] ++ Spelling.declared i.2 ++ [' ']]
    | _, _ => f.texts.map Spelling.quoted
  | _ =>
    match f.several, v.value with
    | some _, .list items => items.flatMap fun i => [decimal i.1, i.2]
    | some _, .table items => items.flatMap fun i => [i.1, i.2]
    | _, _ => f.texts.map Spelling.quoted

/-- A text in another form. -/
def transformed (letter : Char) (t : Bytes) : Bytes :=
  match letter with
  | 'Q' => Spelling.quoted t
  | 'E' => (unescapeBytes .word (t.length + 1) t).1
  | 'U' => t.map Char.toUpper
  | 'u' => match t with
    | c :: rest => c.toUpper :: rest
    | [] => []
  | 'L' => t.map Char.toLower
  | _ => t

/-! ## Tildes -/

/-- What a tilde and the name after it stand for. -/
def homeOf? (m : Machine) (user : Bytes) : Option Bytes :=
  match textOfBytes user with
  | "" => m.textNamed? "HOME" |>.or (some (bytes "/root"))
  | "+" => m.textNamed? "PWD"
  | "-" => m.textNamed? "OLDPWD"
  | "root" => some (bytes "/root")
  | _ => none

/-- Parts in which a tilde at the start, or in a setting after a colon, has been exchanged. -/
def expandTildes (m : Machine) (inSetting : Bool) (atStart : Bool) : List Part → List Part
  | [] => []
  | p :: rest =>
    let after := expandTildes m inSetting (inSetting && p == .char false ':') rest
    if atStart ∧ p = .char false '~' then
      let user := rest.takeWhile fun
        | .char false c => c ≠ '/' && !(inSetting && c == ':')
        | _ => false
      let next := rest.drop user.length
      let ended : Bool := match next with
        | [] => true
        | .char false _ :: _ => true
        | _ => false
      match if ended then homeOf? m (user.flatMap fun | .char _ c => [c] | _ => []) else none with
      | some home => home.map (.char true) ++ after.drop user.length
      | none => p :: after
    else p :: after

/-! ## Parts of words -/

/-- How the words that are expanded are used. -/
structure Use where
  /-- Several words may come of one. -/
  splits : Bool := true
  deriving DecidableEq

/-- How deep words may be inside words. -/
def maxNesting : Nat := 1000

/-- The output of a script, without the ends of lines at its end. `back` says that it stands between
backquotes. -/
def outputOf (go : Perform) (back : Bool) (script : Bytes) : Act Bytes := do
  let m ← get
  let label := m.name ++ bytes ": command substitution"
  let a := go (.text label (script.dropWhile isBlank) !back)
  let out ← capture go a
  modify fun m => { m with outputStatus := some m.status }
  let shown := out.filter (· ≠ Char.ofNat 0)
  if shown.length < out.length then
    complain (bytes "warning: command substitution: ignored null byte in input")
  return (shown.reverse.dropWhile (· = '\n')).reverse

/-- The file that a script reads, if reading one is all it does. -/
def readFile? (script : Bytes) : Option Word :=
  match (tokens script).filter fun t => t != .newline with
  | [.operator "<", .word w] => some w
  | _ => none

/-- The last of the streams that words use. -/
def lastWordStream : Nat := 63

/-- Whether a stream is one of those that words use. -/
def isForWords (n : Nat) : Bool := 40 ≤ n && n ≤ lastWordStream

/-- The stream under which a script's file is found. -/
def freeStream (m : Machine) : Nat → Nat → Nat
  | 0, n => n
  | fuel + 1, n => if (m.streams.lookup n).isSome then freeStream m fuel (n - 1) else n

/-- The path of a stream. -/
def streamPath (n : Nat) : Bytes := bytes "/dev/fd/" ++ decimal n

/-- Connects a script to a file and gives the path of the file. -/
def processPath (go : Perform) (written : Bool) (script : Bytes) : Act Bytes := do
  let m ← get
  let stream := freeStream m 20 lastWordStream
  if written then
    let out ← capture go (go (.text (m.name ++ bytes ": process substitution") script true))
    modify fun m' =>
      let (n, opened) := { m' with status := m.status }.openChannel (.source out)
      opened.connect stream n
  else
    modify fun m =>
      let (n, opened) := m.openChannel (.sink [] none)
      { opened.connect stream n with consumers := (n, script) :: opened.consumers }
  return streamPath stream

/-- The bits of what was found. -/
def foundBits (m : Machine) (use : Use) (quoted : Bool) (f : Found) : List Bit :=
  match f.several with
  | none => f.texts.flatten.map fun c => if quoted then .solid c else .loose c
  | some sign =>
    if quoted ∧ sign = '@' ∧ use.splits then
      List.intercalate [.edge] (f.texts.map fun t => .quote :: t.map .solid)
    else if quoted ∨ !use.splits then (List.intercalate (m.joint sign) f.texts).map .solid
    else List.intercalate [.edge] (f.texts.map fun t => t.map .loose)

/-- A word between braces and double quotes without the backslashes that guard a closing brace. What
has been read of it is given last character first, with the frames that are open. -/
def unguardBraces (done : Bytes) (frames : List Frame) : Bytes → Bytes
  | [] => []
  | c :: rest =>
    let after := unguardBraces (c :: done) (Frame.after c done frames) rest
    if c = '\\' ∧ frames.length = 1 ∧ rest.head? = some '\x7d' then after else c :: after

/-- The bits of parts one after another, each part's by itself. Quotes around nothing but a list
without texts make no field. -/
def bitsInTurn (use : Use) (bitsOf : Part → Act (List Bit)) : List Part → Act (List Bit)
  | [] => return []
  | p :: rest => do
    let within := rest.takeWhile (· ≠ .quote)
    let several : Bool := p = .quote && use.splits && within.any fun
      | .parameter true inside => (Lookup.read? inside).any (·.isSeveral)
      | _ => false
    let a ← if several then pure [] else bitsOf p
    return a ++ (← bitsInTurn use bitsOf rest)

mutual

/-- The bits of a part of a word. -/
def partBits (go : Perform) (use : Use) : Nat → Part → Act (List Bit)
  | 0, _ => return []
  | fuel + 1, p =>
    match p with
    | .char quoted c => return [if quoted then .solid c else .plain c]
    | .quote => return [.quote]
    | .parameter quoted inside => parameterBits go use fuel quoted inside
    | .output quoted back script => do
      let out ← match readFile? script with
        | some w =>
          let path ← textOf go fuel w
          let m ← get
          match m.files.find true m.directory path with
          | .ok (_, { node := .file content, .. }) =>
            setStatus 0
            modify fun m => { m with outputStatus := some 0 }
            pure (content.reverse.dropWhile (· = '\n')).reverse
          | .ok _ => pure []
          | .error e =>
            fail 1 (path ++ bytes ": " ++ bytes e.message)
            modify fun m => { m with outputStatus := some 1 }
            pure []
        | none => outputOf go back script
      return out.map fun c => if quoted then .solid c else .loose c
    | .arithmetic quoted expression => do
      let n ← numberIn go fuel [] expression
      return (integer n).map fun c => if quoted then .solid c else .loose c
    | .process written script => do
      let path ← processPath go written script
      return path.map .plain
    | .items text => return (['('] ++ text ++ [')']).map .plain

/-- The bits of several parts. -/
def partsBits (go : Perform) (use : Use) : Nat → List Part → Act (List Bit)
  | 0, _ => return []
  | fuel + 1, ps => bitsInTurn use (partBits go use fuel) ps

/-- The bits of a word that stands in another one. -/
def innerBits (go : Perform) (use : Use) : Nat → Bool → Bytes → Act (List Bit)
  | 0, _, _ => return []
  | fuel + 1, quoted, text => do
    let w :=
      if quoted then Word.ofText .double (unguardBraces [] [.braces true (some '-')] text)
      else Word.ofText .bare text
    let m ← get
    let parts := if quoted then w.parts else expandTildes m false true w.parts
    let bits ← partsBits go use fuel parts
    return if quoted then bits.map Bit.guarded else bits.map Bit.loosened

/-- The text that a word stands for where only one can. -/
def textOf (go : Perform) : Nat → Word → Act Bytes
  | 0, _ => return []
  | fuel + 1, w => do
    let parts := expandTildes (← get) false true w.parts
    return (← partsBits go { splits := false } fuel parts).flatMap Bit.chars

/-- The pattern that a word stands for. -/
def patternOf (go : Perform) : Nat → Word → Act (List Guarded)
  | 0, _ => return []
  | fuel + 1, w => do
    let parts := expandTildes (← get) false true w.parts
    return (← partsBits go { splits := false } fuel parts).flatMap Bit.asPattern

/-- The value of an expression in a script. -/
def numberIn (go : Perform) : Nat → Bytes → Bytes → Act Int
  | 0, _, _ => return 0
  | fuel + 1, origin, text => do numberOf origin (← expressionText go fuel text)

/-- An expression with all expansions made. -/
def expressionText (go : Perform) : Nat → Bytes → Act Bytes
  | 0, t => return t
  | fuel + 1, text => do
    let w := Word.ofText .double text
    return (← partsBits go { splits := false } fuel w.parts).flatMap Bit.chars

/-- The item that an index means. -/
def keyOf (go : Perform) : Nat → Bytes → Bytes → Act Key
  | 0, _, _ => return .whole
  | fuel + 1, name, index => do
    let m ← get
    match m.value (m.target name) with
    | .table _ => return .name (← textOf go fuel (Word.ofText .bare index))
    | _ => return .number (← numberIn go fuel [] index)

/-- What a parameter is. -/
def find (go : Perform) : Nat → Parameter → Act Found
  | 0, _ => return .ofOption none
  | fuel + 1, p => do
    match p with
    | .argument n =>
      let m ← get
      return .ofOption (if n = 0 then some m.name else m.args[n - 1]?)
    | .special c =>
      let m ← get
      if c = '@' ∨ c = '*' then
        return { texts := m.args, isSet := !m.args.isEmpty, several := some c }
      else return .ofOption (m.special c)
    | .named name none => return .ofOption (← lookText name)
    | .named name (some index) =>
      if index = ['@'] ∨ index = ['*'] then
        let texts := ((← get).value name).texts
        return { texts, isSet := !texts.isEmpty, several := index.head? }
      else
        let key ← keyOf go fuel name index
        let m ← get
        match key, m.value (m.target name) with
        | .number n, v =>
          if n < 0 ∧ (v.number? n).isNone then complain (name ++ bytes ": bad array subscript")
        | _, _ => pure ()
        return .ofOption (m.at? { name, key })

/-- The parameter that a parameter names. -/
def indirectly (go : Perform) : Nat → Parameter → Act Parameter
  | 0, p => return p
  | fuel + 1, p => do
    let m ← get
    match p with
    | .named name none =>
      if (m.kept? name).any (·.refers) then
        -- a reference gives its name away, not the value of what it refers to
        return .named name none
    | _ => pure ()
    let f ← find go fuel p
    if !f.isSet then refuseExpansion (p.shown ++ bytes ": invalid indirect expansion")
    match Parameter.read? f.joined with
    | some (q, []) => return q
    | _ => refuseExpansion (f.joined ++ bytes ": invalid variable name")

/-- The bits of what stands between braces. -/
def parameterBits (go : Perform) (use : Use) : Nat → Bool → Bytes → Act (List Bit)
  | 0, _, _ => return []
  | fuel + 1, quoted, inside => do
    let plain : Bool := (← get).dialect = .plain
    match (Lookup.read? inside).filter fun l => !plain || l.isPortable with
    | none =>
      if plain then
        complain (bytes "Bad substitution")
        throw .fatal
      refuseExpansion (bytes "$\x7b" ++ inside ++ bytes "\x7d: bad substitution")
    | some l =>
      let m ← get
      match l.indirect, l.parameter with
      | true, .named name none =>
        match m.kept? name with
        | some { refers := true, value := .text t, .. } =>
          return foundBits m use quoted (.ofOption (some t))
        | _ => pure ()
      | _, _ => pure ()
      let p ← if l.indirect then indirectly go fuel l.parameter else pure l.parameter
      let unsetFails (f : Found) : Act Unit := do
        if !f.isSet ∧ f.several.isNone ∧ (← get).has "nounset" then refuseUnset p.shown
      let give (f : Found) : Act (List Bit) := return foundBits (← get) use quoted f
      let changed (g : Bytes → Bytes) : Act (List Bit) := do
        let f ← find go fuel p
        unsetFails f
        give (f.map g)
      match l.request with
      | .value =>
        let f ← find go fuel p
        unsetFails f
        give f
      | .length =>
        let f ← find go fuel p
        unsetFails f
        let n := if f.several.isSome then f.texts.length else f.joined.length
        give (.ofOption (some (decimal n)))
      | .names joined =>
        let start := match p with
          | .named name _ => name
          | _ => []
        let texts := m.names.filter fun n => start.isPrefixOf n && ((m.kept? n).any (·.value.isSet))
        give { texts, isSet := true, several := some (if joined then '*' else '@') }
      | .keys joined =>
        let texts := match p with
          | .named name _ => (m.value name).keys
          | _ => []
        give { texts, isSet := true, several := some (if joined then '*' else '@') }
      | .default sign empty word => defaultBits go use fuel quoted p sign empty word
      | .dropStart longest text =>
        let p ← patternOf go fuel (Word.ofText .bare text)
        let glob := Glob.ofText m.choices p
        changed fun t => t.drop ((Glob.startLength? longest glob t).getD 0)
      | .dropEnd longest text =>
        let p ← patternOf go fuel (Word.ofText .bare text)
        let glob := Glob.ofText m.choices p
        changed fun t => t.take (t.length - (Glob.endLength? longest glob t).getD 0)
      | .replace spot text new =>
        let p ← patternOf go fuel (Word.ofText .bare text)
        let new ← patternOf go fuel (Word.ofText .bare new)
        let glob := Glob.ofText m.choices p
        if glob.isEmpty ∧ spot ≠ '#' ∧ spot ≠ '%' then changed id
        else changed (replaced spot glob (replacement (m.hasExtra "patsub_replacement") new))
      | .recase sign all text =>
        let p ← patternOf go fuel (Word.ofText .bare text)
        changed (recaseText sign all (Glob.ofText m.choices p))
      | .slice offset length => sliceBits go use fuel quoted p offset length
      | .transform letter =>
        let f ← find go fuel p
        if "aAKk".toList.contains letter then
          let name := match p with
            | .named name _ => m.target name
            | _ => []
          unsetFails f
          if letter = 'a' ∧ !f.isSet ∧ (m.lookup? name).isNone then give (.ofOption none)
          else give { f with texts := describe m name letter f }
        else
          unsetFails f
          give (f.map (transformed letter))

/-- The bits of a parameter or of a word in place of it. -/
def defaultBits (go : Perform) (use : Use) :
    Nat → Bool → Parameter → Char → Bool → Bytes → Act (List Bit)
  | 0, _, _, _, _, _ => return []
  | fuel + 1, quoted, p, sign, empty, word => do
    let f ← find go fuel p
    let counts : Bool := f.isSet && !(empty && f.joined = [])
    let give (f : Found) : Act (List Bit) := return foundBits (← get) use quoted f
    if sign = '+' then
      if counts then innerBits go use fuel quoted word else return []
    else if counts then give f
    else if sign = '-' then innerBits go use fuel quoted word
    else
      let bits ← innerBits go { splits := false } fuel quoted word
      let text := bits.flatMap Bit.chars
      if sign = '=' then
        match p with
        | .named name none =>
          assignText [] { name } name false text
          give (.ofOption ((← get).text? name))
        | .named name (some index) =>
          let key ← keyOf go fuel name index
          assignText [] { name, key } p.shown false text
          give (.ofOption ((← get).at? { name, key }))
        | _ => refuseExpansion (p.shown ++ bytes ": cannot assign in this way")
      else
        let usual := match (← get).dialect, empty with
          | _, false => "parameter not set"
          | .full, true => "parameter null or not set"
          | .plain, true => "parameter not set or null"
        let shown := match p with
          | .argument n => decimal n
          | .special c => [c]
          | p => p.shown
        complain (shown ++ bytes ": " ++ if word = [] then bytes usual else text)
        throw .fatal

/-- The bits of a part of a parameter. -/
def sliceBits (go : Perform) (use : Use) :
    Nat → Bool → Parameter → Bytes → Option Bytes → Act (List Bit)
  | 0, _, _, _, _ => return []
  | fuel + 1, quoted, p, offset, length => do
    let f ← find go fuel p
    if !f.isSet ∧ f.several.isNone then
      if (← get).has "nounset" then refuseUnset p.shown
      return []
    let origin := p.shown ++ bytes ": "
    let start ← numberIn go fuel origin offset
    let count ← match length with
      | none => pure none
      | some t => pure (some (← numberIn go fuel origin t))
    let refuse : Act (List Bit) :=
      refuseExpansion ((length.getD []) ++ bytes ": substring expression < 0")
    let m ← get
    let give (f : Found) : Act (List Bit) := return foundBits m use quoted f
    match f.several with
    | none =>
      match part? start count f.joined with
      | some t => give (.ofOption (some t))
      | none => refuse
    | some _ =>
      if count.any (· < 0) then refuse
      else
        match p with
        | .named name (some _) =>
          -- the numbers of the items count, not their places
          match m.value (m.target name) with
          | .table items =>
            give { f with texts := ((part? start count (items.map (·.2))).getD []) }
          | v =>
            let items := v.asList
            let first := if start < 0 then start + (Items.next items : Nat) else start
            let rest := if first < 0 then [] else items.filter fun i => first ≤ (i.1 : Int)
            let texts := rest.map (·.2)
            give { f with texts := match count with
              | some n => texts.take n.toNat
              | none => texts }
        | _ =>
          give { f with texts := (part? start count (m.name :: m.args)).getD [] }

end

end JobLauncher.Shell
