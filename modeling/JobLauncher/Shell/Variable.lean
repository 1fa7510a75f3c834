import JobLauncher.Shell.Bytes

/-!
# Variables

A variable holds a text, a list of texts under numbers, or a table of texts under names. Both kinds
of collections are kept in the order in which the shell goes through them.
-/

namespace JobLauncher.Shell

/-- What a variable holds. -/
inductive Value where
  | none
  | text (t : Bytes)
  /-- Texts under numbers, in their order. -/
  | list (items : List (Nat × Bytes))
  /-- Texts under names. -/
  | table (items : List (Bytes × Bytes))
  deriving DecidableEq, Repr

/-- A variable. -/
structure Variable where
  value : Value := .none
  /-- It is a collection to which nothing has been given yet. -/
  bare : Bool := false
  exported : Bool := false
  readOnly : Bool := false
  /-- What is assigned is an expression. -/
  number : Bool := false
  lower : Bool := false
  upper : Bool := false
  /-- The value is the name of the variable that is meant. -/
  refers : Bool := false
  deriving DecidableEq, Repr

/-! ## Lists -/

namespace Items

/-- Puts an item into a list. -/
def put (n : Nat) (v : Bytes) : List (Nat × Bytes) → List (Nat × Bytes)
  | [] => [(n, v)]
  | (m, w) :: rest =>
    if n < m then (n, v) :: (m, w) :: rest
    else if n = m then (n, v) :: rest
    else (m, w) :: put n v rest

/-- The number after the last one. -/
def next (items : List (Nat × Bytes)) : Nat := (items.getLast?.map (·.1 + 1)).getD 0

/-- Texts under the numbers from zero on. -/
def ofTexts (ts : List Bytes) : List (Nat × Bytes) := (List.range ts.length).zip ts

end Items

/-! ## Tables -/

namespace Table

/-- The multiplier and the start of the sum that sorts names into drawers. -/
def multiplier : UInt32 := 16777619
def startValue : UInt32 := 2166136261

/-- The number of drawers. -/
def drawers : Nat := 1024

/-- The drawer of a name. -/
def drawer (name : Bytes) : Nat :=
  (name.foldl (fun h c => (h * multiplier) ^^^ UInt32.ofNat c.toNat) startValue).toNat % drawers

/-- Puts an item into a table. A table is gone through drawer by drawer, and what was put into a
drawer last comes first. -/
def put (name value : Bytes) (items : List (Bytes × Bytes)) : List (Bytes × Bytes) :=
  if (items.lookup name).isSome then
    items.map fun i => if i.1 = name then (name, value) else i
  else
    let d := drawer name
    items.filter (fun i => drawer i.1 < d) ++ (name, value)
      :: items.filter fun i => d ≤ drawer i.1

end Table

namespace Value

/-- The text of a value where one text is asked for: the item at zero of a collection. -/
def text? : Value → Option Bytes
  | none => Option.none
  | text t => some t
  | list items => items.lookup 0
  | table items => items.lookup ['0']

/-- All texts of a value. -/
def texts : Value → List Bytes
  | none => []
  | text t => [t]
  | list items => items.map (·.2)
  | table items => items.map (·.2)

/-- The keys of a value, as texts. -/
def keys : Value → List Bytes
  | none => []
  | text _ => [['0']]
  | list items => items.map fun i => decimal i.1
  | table items => items.map (·.1)

/-- The items that a value has as a list. -/
def asList : Value → List (Nat × Bytes)
  | none => []
  | text t => [(0, t)]
  | list items => items
  | table items => Items.ofTexts (items.map (·.2))

def isSet : Value → Bool
  | none => false
  | _ => true

end Value

end JobLauncher.Shell
