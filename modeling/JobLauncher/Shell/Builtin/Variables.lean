import JobLauncher.Shell.Builtin.Basic
import JobLauncher.Shell.Layout
import JobLauncher.Shell.Words

/-!
# Commands on variables

Declaring variables and functions, forgetting them, and filling variables from the input or from
arguments.
-/

namespace JobLauncher.Shell.Builtin

/-! ## Setting from commands -/

/-- The place that a text names: a variable, or an item of one. -/
def placeOfText (go : Perform) (t : Bytes) : Act Place := do
  let name := t.takeWhile isNameChar
  match t.drop name.length with
  | '[' :: rest => return { name, key := ← keyOf go maxNesting name rest.dropLast }
  | _ => return { name }

/-- Whether a text names a variable or an item of one. -/
def isPlaceText (t : Bytes) : Bool :=
  let name := t.takeWhile isNameChar
  match t.drop name.length with
  | [] => isName name
  | '[' :: rest => isName name && rest.getLast? == some ']' && rest ≠ [']']
  | _ => false

/-- Gives a text to a variable; a variable that must not change keeps its value, which is said. -/
def setVariable (go : Perform) (t value : Bytes) : Act Bool := do
  let p ← placeOfText go t
  if ← isReadOnly p.name then
    complain (p.name ++ bytes ": readonly variable")
    return false
  else
    assignText [] p t false value
    return true

/-! ## Declarations -/

/-- What is declared: a name, and perhaps a value. -/
structure Declaration where
  source : Bytes
  name : Bytes
  index : Option Bytes := none
  adds : Bool := false
  value : Option Assigned := none

/-- The declaration that a text is. -/
def Declaration.ofText (t : Bytes) : Declaration :=
  let left := t.takeWhile (· ≠ '=')
  if left.length = t.length then
    let name := t.takeWhile (· ≠ '[')
    match t.drop name.length with
    | [] => { source := t, name }
    | _ :: rest => { source := t, name, index := some rest.dropLast }
  else
    let value := t.drop (left.length + 1)
    let adds : Bool := left.getLast? = some '+'
    let left := if adds then left.dropLast else left
    let name := left.takeWhile (· ≠ '[')
    let index := match left.drop name.length with
      | [] => none
      | _ :: rest => some rest.dropLast
    { source := t, name, index, adds, value := some (.text index value) }

/-- Attributes that a command turns on and off. -/
structure Attributes where
  on : Bytes
  off : Bytes

namespace Attributes

def has (a : Attributes) (c : Char) : Bool := a.on.contains c

/-- A variable with attributes changed. -/
def apply (a : Attributes) (v : Variable) : Variable :=
  let flag (c : Char) (old : Bool) : Bool :=
    if a.on.contains c then true else if a.off.contains c then false else old
  { v with
    exported := flag 'x' v.exported
    number := flag 'i' v.number
    lower := if a.on.contains 'u' ∧ !a.on.contains 'l' then false
      else flag 'l' v.lower && !(a.on.contains 'l' && a.on.contains 'u')
    upper := if a.on.contains 'l' ∧ !a.on.contains 'u' then false
      else flag 'u' v.upper && !(a.on.contains 'l' && a.on.contains 'u')
    refers := flag 'n' v.refers }

end Attributes

/-- The letters after minus and plus signs at the start of arguments, and what follows; or a letter
that is none. -/
def readAttributes (letters : String) (a : Attributes) : List Bytes →
    Except Bytes (Attributes × List Bytes)
  | ['-', '-'] :: rest => .ok (a, rest)
  | (sign :: c :: cs) :: rest =>
    if sign = '-' ∨ sign = '+' then
      match (c :: cs).find? fun c => !letters.toList.contains c with
      | some bad => .error [sign, bad]
      | none =>
        readAttributes letters
          (if sign = '-' then { a with on := a.on ++ c :: cs } else { a with off := a.off ++ c :: cs })
          rest
    else .ok (a, (sign :: c :: cs) :: rest)
  | args => .ok (a, args)

/-- Why a variable cannot be declared as asked, if it cannot. -/
def refusal? (m : Machine) (a : Attributes) (d : Declaration) (v : Variable) : Option Bytes :=
  if !isName d.name then some (notName d.source)
  else if v.readOnly ∧ (d.value.isSome ∨ a.off.contains 'r') then
    some (d.name ++ bytes ": readonly variable")
  else if a.has 'A' ∧ (v.value matches .list _) then
    some (d.name ++ bytes ": cannot convert indexed to associative array")
  else if a.has 'a' ∧ (v.value matches .table _) then
    some (d.name ++ bytes ": cannot convert associative to indexed array")
  else
    match d.value with
    | some (.text none t) =>
      if a.has 'n' then
        if t = d.name ∧ m.calls = [] then
          some (d.name ++ bytes ": nameref variable self references not allowed")
        else if !isPlaceText t then
          some (bytes "\x60" ++ t ++ bytes "': invalid variable name for name reference")
        else none
      else none
    | _ => none

/-- The kind of collection that a variable becomes. -/
def collected (a : Attributes) (v : Value) : Value :=
  match v with
  | .none => if a.has 'A' then .table [] else if a.has 'a' then .list [] else .none
  | .text t => if a.has 'A' then .table (Table.put ['0'] t []) else if a.has 'a' then .list [(0, t)] else v
  | v => v

/-- Declares one variable. A variable that is declared without a value has none, even as a
collection. -/
def declareOne (go : Perform) (command : Bytes) (isLocal : Bool) (a : Attributes)
    (d : Declaration) : Act Bool := do
  let m ← get
  let own := m.scopes.head?.bind (·.lookup d.name)
  let known := if isLocal then own else m.kept? d.name
  let v := known.getD {}
  let outer := (m.kept? d.name).getD {}
  match refusal? m a d (if isLocal ∧ !outer.readOnly then v else outer) with
  | some text =>
    match m.dialect with
    | .full =>
      complain (command ++ bytes ": " ++ text)
      return false
    | .plain =>
      complain (command ++ bytes ": " ++ d.name
        ++ bytes (if isName d.name then ": is read only" else ": bad variable name"))
      throw .fatal
  | none =>
    let change (f : Variable → Variable) : Act Unit := modify fun m =>
      if isLocal then m.changeLocal d.name f else m.change d.name f
    let target := if v.refers ∧ !a.off.contains 'n' ∧ !a.has 'n' then m.target d.name else d.name
    if target ≠ d.name then
      modify fun m => m.change target a.apply
      match d.value with
      | some value => assign go (command ++ bytes ": ") target d.adds value
      | none => pure ()
      return true
    else
      change fun v =>
        let value := collected a v.value
        { a.apply v with value, bare := v.bare || (!v.value.isSet && value.isSet) }
      match d.value with
      | some (.text none t) =>
        if a.has 'n' then change fun v => { v with value := .text t }
        else if (a.has 'a' ∨ a.has 'A') ∧ t.head? = some '(' ∧ t.getLast? = some ')' then
          assign go (command ++ bytes ": ") d.name d.adds (.list (← listItems go (t.drop 1).dropLast))
        else assign go (command ++ bytes ": ") d.name d.adds (.text none t)
      | some value => assign go (command ++ bytes ": ") d.name d.adds value
      | none => pure ()
      if a.has 'r' then change fun v => { v with readOnly := true }
      return true

/-- Does something to the outermost variables. -/
def atTop (f : Act α) : Act α := do
  let m ← get
  match m.scopes.reverse with
  | top :: inner =>
    set { m with scopes := [top] }
    let r ← f
    modify fun after => { after with scopes := inner.reverse ++ after.scopes }
    return r
  | [] => f

/-- Whether a variable has all attributes that are asked for. -/
def hasAttributes (a : Attributes) (v : Variable) : Bool :=
  (!a.has 'x' || v.exported) && (!a.has 'r' || v.readOnly) && (!a.has 'i' || v.number)
    && (!a.has 'n' || v.refers) && (!a.has 'l' || v.lower) && (!a.has 'u' || v.upper)
    && (!a.has 'a' || v.value matches .list _) && (!a.has 'A' || v.value matches .table _)

/-- Shows all variables as declarations, or those with some attributes; `command` is the one that
sets them. -/
def showDeclarations (command : Bytes) (a : Attributes) : Act Unit := do
  let m ← get
  for name in m.names do
    match m.kept? name with
    | some v =>
      if hasAttributes a v then
        match m.dialect with
        | .full => put (Spelling.declaration name v ++ ['\n'])
        | .plain =>
          let value := match v.value.text? with
            | some t => '=' :: Spelling.betweenApostrophes t
            | none => []
          put (command ++ [' '] ++ name ++ value ++ ['\n'])
    | none => pure ()

/-- The functions, in order of their names. -/
def functionsInOrder (m : Machine) : List (Bytes × Script) :=
  m.functions.mergeSort fun a b => Files.before a.1 b.1

/-- Shows all variables and functions. -/
def showVariables : Act Unit := do
  let m ← get
  for name in m.names do
    match m.kept? name with
    | some v =>
      match if v.bare then .none else v.value with
      | .none => pure ()
      | .text t =>
        let shown := match m.dialect with
          | .full => Spelling.short t
          | .plain => Spelling.betweenApostrophes t
        put (name ++ ['='] ++ shown ++ ['\n'])
      | value => put (name ++ ['='] ++ Spelling.value value ++ ['\n'])
    | none => pure ()
  for (name, body) in functionsInOrder m do put (Layout.function name body)

/-- Shows functions, or their names only. -/
def showFunctions (command : Bytes) (namesOnly : Bool) (names : List Bytes) : Act Unit := do
  let m ← get
  setStatus 0
  if names = [] then
    for (name, body) in functionsInOrder m do
      put (if namesOnly then bytes "declare -f " ++ name ++ ['\n'] else Layout.function name body)
  else
    for name in names do
      match m.functions.lookup name with
      | some body => put (if namesOnly then name ++ ['\n'] else Layout.function name body)
      | none =>
        if command ≠ bytes "declare" ∧ command ≠ bytes "typeset" then
          complain (command ++ bytes ": " ++ name ++ bytes ": not a function")
        setStatus 1

/-- Shows what some variables are. -/
def showNamed (command : Bytes) (names : List Bytes) : Act Unit := do
  setStatus 0
  for name in names do
    let m ← get
    match (m.kept? name).or ((m.ownValue? name).map fun value => { value }) with
    | some v => put (Spelling.declaration name v ++ ['\n'])
    | none =>
      complain (command ++ bytes ": " ++ name ++ bytes ": not found")
      setStatus 1

/-- Declares variables or functions, or shows what there is. -/
def declare (go : Perform) (command : String) (args : List (Bytes ⊕ Declaration)) : Act Unit := do
  let name := bytes command
  let m ← get
  let letters := match command with
    | "export" => "fnp"
    | "readonly" => "aAfp"
    | _ => "aAfFgiIlnprtuxc"
  let leading := args.takeWhile fun
    | .inl t => t.head? = some '-' ∨ t.head? = some '+'
    | .inr _ => false
  let texts := leading.filterMap fun | .inl t => some t | .inr _ => none
  match readAttributes letters ⟨[], []⟩ texts with
  | .error shown =>
    complain (name ++ bytes ": " ++ shown ++ bytes ": invalid option")
    usage command
  | .ok (a, left) =>
    let operands : List Declaration := (left.map Declaration.ofText) ++
      (args.drop leading.length).map fun
        | .inl t => Declaration.ofText t
        | .inr d => d
    let inFunction : Bool := m.calls ≠ []
    if command = "local" ∧ !inFunction then
      match m.dialect with
      | .full => fail 1 (name ++ bytes ": can only be used in a function")
      | .plain =>
        complain (name ++ bytes ": not in a function")
        throw .fatal
    else if a.has 'f' ∨ a.has 'F' then
      if command = "readonly" ∧ operands ≠ [] then setStatus 0
      else if command = "export" ∧ operands ≠ [] then
        setStatus 0
        for d in operands do
          if (m.functions.lookup d.name).isNone then
            fail 1 (name ++ bytes ": " ++ d.name ++ bytes ": not a function")
      else showFunctions name (a.has 'F') (operands.map (·.source))
    else if operands = [] then
      setStatus 0
      match command with
      | "export" => showDeclarations name ⟨['x'], []⟩
      | "readonly" => showDeclarations name ⟨'r' :: a.on, []⟩
      | _ =>
        if a.on = [] ∧ a.off = [] ∧ command ≠ "local" then showVariables
        else if command = "local" then
          match m.scopes with
          | scope :: _ =>
            for n in (scope.map (·.1)).mergeSort Files.before do
              match scope.lookup n with
              | some v => put (Spelling.declaration n v ++ ['\n'])
              | none => pure ()
          | [] => pure ()
        else showDeclarations name a
    else if a.has 'p' ∧ command ≠ "export" ∧ command ≠ "readonly" then
      showNamed name (operands.map (·.source))
    else
      let a : Attributes := match command with
        | "export" => if a.has 'n' then ⟨[], ['x']⟩ else ⟨['x'], []⟩
        | "readonly" => ⟨'r' :: a.on, []⟩
        | _ => a
      let isLocal : Bool := inFunction && !a.has 'g' && command ≠ "export" && command ≠ "readonly"
      setStatus 0
      let all : Act Unit := do
        for d in operands do
          unless ← declareOne go name isLocal a d do setStatus 1
      if a.has 'g' ∧ inFunction then atTop all else all

/-! ## Forgetting -/

/-- Forgets one variable, an item of one, or a function. -/
def unsetOne (go : Perform) (g : Given) (t : Bytes) : Act Bool := do
  let m ← get
  let refuse (text : Bytes) : Act Bool := do
    complain (said "unset" text)
    if m.dialect = .plain then throw .fatal
    return false
  let forgetFunction : Act Bool := do
    modify fun m => { m with functions := m.functions.filter (·.1 ≠ t) }
    return true
  if g.has 'f' then forgetFunction
  else
    let name := t.takeWhile (· ≠ '[')
    let meant := if g.has 'n' then name else m.target name
    match t.drop name.length, m.kept? meant with
    | _, some { readOnly := true, .. } =>
      refuse (name ++ bytes (match m.dialect with
        | .full => ": cannot unset: readonly variable"
        | .plain => ": is read only"))
    | [], some _ =>
      modify fun m => m.forget meant
      return true
    | [], none =>
      if m.dialect = .plain ∧ !isName t then refuse (t ++ bytes ": bad variable name")
      else if g.has 'v' then
        if isName t then return true else refuse (notName t)
      else forgetFunction
    | _ :: rest, some v =>
      let index := rest.dropLast
      match v.value with
      | .table _ =>
        modify fun m => m.change meant fun v =>
          { v with value := if index = ['@'] ∨ index = ['*'] then .table []
                            else v.value.dropItem (.name index) }
        return true
      | .list _ =>
        if index = ['@'] ∨ index = ['*'] then
          modify fun m => m.change meant fun v => { v with value := .list [] }
        else
          let key ← keyOf go maxNesting meant index
          modify fun m => m.change meant fun v => { v with value := v.value.dropItem key }
        return true
      | _ =>
        if index = ['0'] then
          modify fun m => m.forget meant
          return true
        else refuse (name ++ bytes ": not an array variable")
    | _ :: _, none => return true

/-- Forgets variables or functions. -/
def unset (go : Perform) (args : List Bytes) : Act Unit :=
  withGiven "unset" "fvn" "" args fun g => do
    if g.has 'f' ∧ g.has 'v' then
      fail 1 (said "unset" (bytes "cannot simultaneously unset a function and a variable"))
    else
      setStatus 0
      for t in g.operands do
        unless ← unsetOne go g t do setStatus 1

/-! ## Arithmetic and arguments -/

/-- Evaluates expressions; the last one should not be zero. -/
def evaluate (args : List Bytes) : Act Unit := do
  if args = [] then fail 1 (said "let" (bytes "expression expected"))
  else
    for t in args do
      match ← Arithmetic.value t with
      | .ok n => setStatus (if n = 0 then 1 else 0)
      | .error e =>
        fail 1 (said "let" (e.message .full))
        return

/-- Drops the first arguments. -/
def shift (args : List Bytes) : Act Unit := do
  let m ← get
  let drop (n : Int) : Act Unit :=
    if n < 0 then fail 1 (said "shift" ((args.headD []) ++ bytes ": shift count out of range"))
    else if n.toNat ≤ m.args.length then
      set { m with status := 0, args := m.args.drop n.toNat }
    else
      match m.dialect with
      | .full => setStatus 1
      | .plain => do
        complain (said "shift" (bytes "can't shift that many"))
        throw .fatal
  match args with
  | [] => drop 1
  | t :: rest =>
    match integer? t with
    | none => fail 1 (said "shift" (t ++ bytes ": numeric argument required"))
    | some n =>
      if rest = [] then drop n
      else
        fail 1 (said "shift" (bytes "too many arguments"))
        throw .abandon

/-- Sets the variables of `getopts`. -/
def setOption (go : Perform) (name letter : Bytes) (value : Option Bytes) (index sub : Nat) :
    Act Unit := do
  modify fun m =>
    let m := match value with
      | some v => m.setText (bytes "OPTARG") v
      | none => m.unset (bytes "OPTARG")
    { m.setText (bytes "OPTIND") (decimal index) with optionIndex := index, optionLetter := sub }
  unless ← setVariable go name letter do setStatus 1

/-- Takes the next option from arguments. -/
def getopts (go : Perform) (args : List Bytes) : Act Unit :=
  withGiven "getopts" "" "" args fun g => do
    match g.operands with
    | letters :: name :: rest =>
      let m ← get
      let operands := if rest = [] then m.args else rest
      let silent : Bool := letters.head? = some ':'
      let verbose : Bool := !silent && m.textNamed? "OPTERR" ≠ some ['0']
      let index := max m.optionIndex 1
      let say (text : String) (c : Char) : Act Unit := do
        if verbose then warn (m.name ++ bytes ": " ++ bytes text ++ bytes " -- " ++ [c] ++ ['\n'])
      let done (index : Nat) : Act Unit := do
        setOption go name ['?'] none index 0
        setStatus 1
      match operands[index - 1]? with
      | none => done index
      | some word =>
        if m.optionLetter = 0 ∧ word = bytes "--" then done (index + 1)
        else if m.optionLetter = 0 ∧ (word.head? ≠ some '-' ∨ word.length < 2) then done index
        else
          let at_ := max m.optionLetter 1
          let c := word.getD at_ '?'
          let last : Bool := word.length ≤ at_ + 1
          let next := if last then index + 1 else index
          let sub := if last then 0 else at_ + 1
          setStatus 0
          let after := letters.drop (letters.takeWhile (· ≠ c)).length
          if c = ':' ∨ after = [] then
            say "illegal option" c
            setOption go name ['?'] (if silent then some [c] else none) next sub
          else if after[1]? = some ':' then
            if !last then setOption go name [c] (some (word.drop (at_ + 1))) (index + 1) 0
            else
              match operands[index]? with
              | some value => setOption go name [c] (some value) (index + 2) 0
              | none =>
                say "option requires an argument" c
                setOption go name (if silent then [':'] else ['?']) (if silent then some [c] else none)
                  (index + 1) 0
          else setOption go name [c] none next sub
    | _ => usage "getopts"

/-! ## Reading -/

/-- What is read: up to an end, or so many characters. -/
structure Extent where
  stop : Option Char
  count : Option Nat
  /-- A backslash has no meaning. -/
  raw : Bool

/-- Reads from a text: what was read, each character with whether a backslash guards it, how much of
the text was used, and whether an end was found. -/
def scan (e : Extent) : Nat → Bytes → List Guarded × Nat × Bool
  | taken, text =>
    if e.count = some taken then ([], 0, true)
    else
      match text with
      | [] => ([], 0, false)
      | c :: rest =>
        if c = '\\' ∧ !e.raw then
          match rest with
          | [] => ([], 1, false)
          | d :: rest =>
            if d = '\n' then let r := scan e taken rest; (r.1, r.2.1 + 2, r.2.2)
            else let r := scan e (taken + 1) rest; ((d, true) :: r.1, r.2.1 + 2, r.2.2)
        else if e.stop = some c then ([], 1, true)
        else let r := scan e (taken + 1) rest; ((c, false) :: r.1, r.2.1 + 1, r.2.2)

/-- Passes over what stands between two words: blanks, and one other separator with blanks after
it. -/
def passSeparator (s : Separators) (cs : List Guarded) : List Guarded :=
  let blank (c : Guarded) : Bool := !c.2 && s.blanks.contains c.1
  match cs.dropWhile blank with
  | c :: rest => if !c.2 ∧ s.others.contains c.1 then rest.dropWhile blank else c :: rest
  | [] => []

/-- The first word of a text and what follows the separator after it. -/
def firstWord (s : Separators) (cs : List Guarded) : List Guarded × List Guarded :=
  let word := cs.takeWhile fun c => c.2 || !(s.blanks.contains c.1 || s.others.contains c.1)
  (word, passSeparator s (cs.drop word.length))

/-- The texts that so many variables get: a word each, the last one all that is left. -/
def wordsFor (s : Separators) : Nat → List Guarded → List Bytes
  | 0, _ => []
  | 1, cs =>
    let (word, rest) := firstWord s cs
    if rest = [] then [plainText word]
    else
      let blank (c : Guarded) : Bool := !c.2 && s.blanks.contains c.1
      [plainText (cs.reverse.dropWhile blank).reverse]
  | n + 1, cs =>
    let (word, rest) := firstWord s cs
    plainText word :: wordsFor s n rest

/-- Reads a line, or another part of the input, into variables. -/
def read (go : Perform) (args : List Bytes) : Act Unit :=
  withGiven "read" "ers" "adinNptu" args fun g => do
    let m ← get
    let stream := ((g.value? 'u').bind natural?).getD 0
    let names := g.operands
    match names.find? fun n => !isPlaceText n with
    | some bad => fail 1 (said "read" (notName bad))
    | none =>
    match m.streams.lookup stream with
    | none =>
      fail 1 (said "read" (decimal stream ++ bytes ": invalid file descriptor: Bad file descriptor"))
    | some channel =>
      if g.value? 't' = some ['0'] then setStatus 0
      else
        match m.rest channel with
        | .error e => fail 1 (said "read" (bytes "read error: " ++ decimal stream ++ bytes ": "
            ++ bytes e.message))
        | .ok text =>
          let exact := (g.value? 'N').bind natural?
          let stop := if exact.isSome then none
            else match g.value? 'd' with
              | some (c :: _) => some c
              | some [] => some (Char.ofNat 0)
              | none => some '\n'
          let count := exact.or ((g.value? 'n').bind natural?)
          let (found, used, ended) := scan { stop, count, raw := g.has 'r' } 0 text
          let found := found.filter (·.1 ≠ Char.ofNat 0)
          set (m.pass channel used)
          let s := m.separators
          let status := if ended then 0 else 1
          let texts : List (Bytes × Bytes) :=
            if exact.isSome then
              match names with
              | [] => [(bytes "REPLY", plainText found)]
              | n :: rest => (n, plainText found) :: rest.map fun n => (n, [])
            else
              match names with
              | [] => [(bytes "REPLY", plainText found)]
              | names =>
                let blank (c : Guarded) : Bool := !c.2 && s.blanks.contains c.1
                names.zip (wordsFor s names.length (found.dropWhile blank))
          setStatus status
          match g.value? 'a' with
          | some list =>
            let bits := found.map fun (c, guarded) => if guarded then Bit.solid c else .loose c
            let fields := (splitBits s none false bits).map plainText
            if ← isReadOnly list then
              fail 1 (list ++ bytes ": readonly variable")
            else
              modify fun m => m.change (m.target list) fun v =>
                { v with value := .list (Items.ofTexts fields) }
          | none =>
            for (name, t) in texts do
              unless ← setVariable go name t do setStatus 1

/-- The pieces of a text up to each end; the ends stay unless they are trimmed. -/
def piecesOf (stop : Char) (trimmed : Bool) (text : Bytes) : List Bytes :=
  let pieces := splitAt stop text
  let whole := pieces.dropLast.map fun p => if trimmed then p else p ++ [stop]
  match pieces.getLast? with
  | some [] | none => whole
  | some last => whole ++ [last]

/-- Reads lines into a list. -/
def mapfile (go : Perform) (command : String) (args : List Bytes) : Act Unit :=
  withGiven command "t" "dnOsuCc" args fun g => do
    let m ← get
    let number (c : Char) : Nat := ((g.value? c).bind natural?).getD 0
    let stream := ((g.value? 'u').bind natural?).getD 0
    let name := g.operands.headD (bytes "MAPFILE")
    if !isName name then fail 1 (said command (notName name))
    else
      match m.streams.lookup stream with
      | none =>
        fail 1 (said command (decimal stream ++ bytes ": invalid file descriptor: Bad file descriptor"))
      | some channel =>
        let text := (m.rest channel).toOption.getD []
        let stop := match g.value? 'd' with
          | some (c :: _) => c
          | some [] => Char.ofNat 0
          | none => '\n'
        let pieces := (piecesOf stop (g.has 't') text).drop (number 's')
        let pieces := if number 'n' = 0 then pieces else pieces.take (number 'n')
        set (m.pass channel text.length)
        if ← isReadOnly name then fail 1 (name ++ bytes ": readonly variable")
        else
          let origin := number 'O'
          modify fun m => m.change (m.target name) fun v =>
            let old := if (g.value? 'O').isSome then v.value.asList else []
            { v with value := .list ((List.range pieces.length).zip pieces |>.foldl
                (fun items p => Items.put (origin + p.1) p.2 items) old) }
          setStatus 0
          match g.value? 'C' with
          | none => pure ()
          | some callback =>
            for (i, p) in (List.range pieces.length).zip pieces do
              if (i + 1) % max 1 (number 'c') = 0 ∧ (g.value? 'c').isSome then
                go (.text (m.name ++ bytes ": eval") (callback ++ [' '] ++ decimal (origin + i) ++ [' ']
                  ++ Spelling.quoted p))

end JobLauncher.Shell.Builtin
