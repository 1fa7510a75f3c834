import JobLauncher.Shell.Machine

/-!
# Looking variables up

Variables are looked up from the innermost function outwards. Some that a shell keeps itself have
values that follow from its state.
-/

namespace JobLauncher.Shell

namespace Machine

/-- The variable of a name as it is kept, a reference not followed. -/
def kept? (m : Machine) (name : Bytes) : Option Variable :=
  m.scopes.findSome? fun scope => scope.lookup name

/-- The name that a name refers to. -/
def target (m : Machine) (name : Bytes) : Bytes :=
  go 8 name
where
  go : Nat → Bytes → Bytes
    | 0, name => name
    | fuel + 1, name =>
      match m.kept? name with
      | some { refers := true, value := .text t, .. } => if t = [] then name else go fuel t
      | _ => name

/-- The value of a variable that the shell keeps itself. -/
def ownValue? (m : Machine) (name : Bytes) : Option Value :=
  let number (n : Nat) : Option Value := some (.text (decimal n))
  match textOfBytes name with
  | "LINENO" => number m.line
  | "RANDOM" => number (m.seed * 16807 % 2147483647 % 32768)
  | "SRANDOM" => number (m.seed * 16807 % 2147483647)
  | "SECONDS" => number ((m.elapsed - m.born) / 1000)
  | "BASHPID" => number (m.process + m.level)
  | "BASH_SUBSHELL" => number m.level
  | "PIPESTATUS" => some (.list (Items.ofTexts (m.statuses.map decimal)))
  | "_" => some (.text m.lastWord)
  | "BASH_COMMAND" => some (.text m.command)
  | "FUNCNAME" =>
    if m.calls = [] then none else some (.list (Items.ofTexts (m.calls.map (·.name))))
  | "BASH_SOURCE" =>
    some (.list (Items.ofTexts (m.calls.map fun _ => m.origin.getD (bytes "environment"))))
  | "BASH_LINENO" => some (.list (Items.ofTexts (m.calls.map fun c => decimal c.line)))
  | "DIRSTACK" => some (.list (Items.ofTexts ((m.directory :: m.stack).map Files.text)))
  | "SHELLOPTS" =>
    some (.text (List.intercalate [':'] ((m.options.map bytes).mergeSort Files.before)))
  | "BASHOPTS" =>
    some (.text (List.intercalate [':'] ((m.extras.map bytes).mergeSort Files.before)))
  | _ => none

/-- The variable of a name. -/
def lookup? (m : Machine) (name : Bytes) : Option Variable :=
  let name := m.target name
  match m.dialect, m.ownValue? name with
  | .full, some value => some { value }
  | _, _ => m.kept? name

def value (m : Machine) (name : Bytes) : Value := ((m.lookup? name).map (·.value)).getD .none

/-- The text of a variable. -/
def text? (m : Machine) (name : Bytes) : Option Bytes := (m.value name).text?

/-- The text of a variable whose name is a word of the program itself. -/
def textNamed? (m : Machine) (name : String) : Option Bytes := m.text? name.toList

/-- Changes a variable where it is kept, or makes it the outermost one. -/
def change (m : Machine) (name : Bytes) (f : Variable → Variable) : Machine :=
  { m with scopes := go m.scopes }
where
  go : List (List (Bytes × Variable)) → List (List (Bytes × Variable))
    | [] => [[(name, f {})]]
    | [scope] => [put scope]
    | scope :: outer => if (scope.lookup name).isSome then put scope :: outer else scope :: go outer
  put (scope : List (Bytes × Variable)) : List (Bytes × Variable) :=
    match scope.lookup name with
    | some v => scope.map fun e => if e.1 = name then (name, f v) else e
    | none => (name, f {}) :: scope

/-- Changes a variable of the innermost function. -/
def changeLocal (m : Machine) (name : Bytes) (f : Variable → Variable) : Machine :=
  match m.scopes with
  | scope :: outer =>
    let put :=
      match scope.lookup name with
      | some v => scope.map fun e => if e.1 = name then (name, f v) else e
      | none => (name, f {}) :: scope
    { m with scopes := put :: outer }
  | [] => m

/-- Takes a variable away. -/
def unset (m : Machine) (name : Bytes) : Machine :=
  { m with scopes := go m.scopes }
where
  go : List (List (Bytes × Variable)) → List (List (Bytes × Variable))
    | [] => []
    | scope :: outer =>
      if (scope.lookup name).isSome then scope.filter (·.1 ≠ name) :: outer else scope :: go outer

/-- Forgets a variable. One of the function that runs stays its own and has no value. -/
def forget (m : Machine) (name : Bytes) : Machine :=
  match m.scopes with
  | scope :: outer =>
    if outer ≠ [] ∧ (scope.lookup name).isSome then
      { m with scopes := (scope.map fun e => if e.1 = name then (name, {}) else e) :: outer }
    else m.unset name
  | [] => m

/-- Sets a variable to a text, whatever it is. -/
def setText (m : Machine) (name value : Bytes) : Machine :=
  m.change name fun v =>
    { v with value := match v.value with
      | .list items => .list (Items.put 0 value items)
      | .table items => .table (Table.put ['0'] value items)
      | _ => .text value }

/-- The names of all variables, in order. -/
def names (m : Machine) : List Bytes :=
  ((m.scopes.flatten.map (·.1)).eraseDups).mergeSort Files.before

/-- The directory as the shell calls it. -/
def directoryText (m : Machine) : Bytes := Files.text m.directory

end Machine

/-- The next random number. -/
def advanceSeed : Act Unit := modify fun m => { m with seed := m.seed * 16807 % 2147483647 }

/-- The text of a variable. -/
def lookText (name : Bytes) : Act (Option Bytes) := do
  let m ← get
  if name = bytes "RANDOM" then advanceSeed
  return m.text? name

/-- Refuses to change what must not change. -/
def refuseChange (name : Bytes) : Act α := do
  match (← get).dialect with
  | .full =>
    complain (name ++ bytes ": readonly variable")
    setStatus 1
    throw .abandon
  | .plain =>
    complain (name ++ bytes ": is read only")
    throw .fatal

/-- Whether a variable must not change. -/
def isReadOnly (name : Bytes) : Act Bool := do
  let m ← get
  return (m.kept? (m.target name)).any (·.readOnly)

/-! ## Items -/

/-- Which part of a variable is meant. -/
inductive Key where
  | whole
  | number (n : Int)
  | name (k : Bytes)
  deriving DecidableEq, Repr

/-- A variable or an item of one. -/
structure Place where
  name : Bytes
  key : Key := .whole
  deriving DecidableEq, Repr

/-- The number of an item; one below zero counts from the end. -/
def Value.number? (v : Value) (n : Int) : Option Nat :=
  let n := if n < 0 then n + (Items.next v.asList : Nat) else n
  if n < 0 then Option.none else some n.toNat

/-- The text of an item. -/
def Value.item? (v : Value) (key : Key) : Option Bytes :=
  match key, v with
  | .whole, v => v.text?
  | .number n, .table items => items.lookup (integer n)
  | .number n, v => (v.number? n).bind fun n => v.asList.lookup n
  | .name k, .table items => items.lookup k
  | .name _, v => v.text?

/-- The value with a text put at an item; none if there can be no such item. -/
def Value.putItem? (v : Value) (key : Key) (t : Bytes) : Option Value :=
  match key, v with
  | .whole, .list items => some (.list (Items.put 0 t items))
  | .whole, .table items => some (.table (Table.put ['0'] t items))
  | .whole, _ => some (.text t)
  | .number n, .table items => some (.table (Table.put (integer n) t items))
  | .number n, v => (v.number? n).map fun n => .list (Items.put n t v.asList)
  | .name k, .table items => some (.table (Table.put k t items))
  | .name _, v => some (.list (Items.put 0 t v.asList))

/-- The value without an item. -/
def Value.dropItem (v : Value) (key : Key) : Value :=
  match key, v with
  | .name k, .table items => .table (items.filter (·.1 ≠ k))
  | .number n, .table items => .table (items.filter (·.1 ≠ integer n))
  | .number n, .list items =>
    match v.number? n with
    | some n => .list (items.filter (·.1 ≠ n))
    | Option.none => v
  | _, v => v

/-- The text that a variable takes for a text given to it. -/
def Variable.taken (v : Variable) (t : Bytes) : Bytes :=
  if v.lower then t.map Char.toLower else if v.upper then t.map Char.toUpper else t

/-- The place that a place means: where its name refers to another one, that one. -/
def Machine.placeOf (m : Machine) (p : Place) : Place :=
  let t := m.target p.name
  let name := t.takeWhile isNameChar
  match t.drop name.length with
  | '[' :: rest =>
    let inside := rest.dropLast
    { name, key := match natural? inside with
      | some n => .number n
      | none => .name inside }
  | _ => { p with name := t }

/-- The text at a place. -/
def Machine.at? (m : Machine) (p : Place) : Option Bytes :=
  let p := m.placeOf p
  (m.value p.name).item? p.key

/-- Puts a text at a place, whatever the text is, unless there can be no such place. -/
def store (p : Place) (t : Bytes) : Act Bool := do
  let m ← get
  let p := m.placeOf p
  if (m.kept? p.name).any (·.readOnly) then refuseChange p.name
  let number := (natural? t).getD 0
  match textOfBytes p.name with
  | "RANDOM" =>
    modify fun m => { m with seed := number }
    return true
  | "OPTIND" => modify fun m => { m with optionIndex := number, optionLetter := 0 }
  | _ => pure ()
  let v := (m.kept? p.name).getD {}
  match v.value.putItem? p.key (v.taken t) with
  | none => return false
  | some value =>
    modify fun m => m.change p.name fun v =>
      { v with value, bare := false, exported := v.exported || m.has "allexport" }
    return true

/-- Gives a value to a variable, whatever it is. -/
def storeValue (name : Bytes) (value : Value) : Act Unit := do
  let m ← get
  let name := m.target name
  if (m.kept? name).any (·.readOnly) then refuseChange name
  modify fun m => m.change name fun v => { v with value, bare := false }

/-- Ends the shell over a variable that is not set. -/
def refuseUnset (name : Bytes) : Act α := do
  complain (name ++ bytes (match (← get).dialect with
    | .full => ": unbound variable"
    | .plain => ": parameter not set"))
  throw .fatal

end JobLauncher.Shell
