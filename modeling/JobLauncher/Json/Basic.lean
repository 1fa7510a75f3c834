import JobLauncher.Binary64
import JobLauncher.Dict

/-!
# JSON values

The value type in which documents are built, sent and printed. An object lists its fields; every
object this library builds lists them in increasing key order, each key once, as `Json.object` does.
-/

namespace JobLauncher

/-- A number is an integer of at most 64 bits or, with a fraction, an exponent or more digits than
that, a binary one. -/
inductive Json.Number where
  | int (i : Int)
  | float (x : Binary64)
  deriving DecidableEq, Repr

/-- A JSON value. -/
inductive Json where
  | null
  | bool (b : Bool)
  | num (n : Json.Number)
  | str (s : String)
  | arr (items : List Json)
  | obj (fields : List (String × Json))
  deriving Repr

namespace Json

instance : Inhabited Json := ⟨null⟩

/-- An integer value. -/
def int (i : Int) : Json := .num (.int i)

/-- A natural number value. -/
def nat (n : Nat) : Json := int n

/-- A list of texts. -/
def strings (l : List String) : Json := .arr (l.map .str)

/-- The object whose fields are the entries of `d`. -/
def ofDict (d : Dict Json) : Json := .obj d.toList

/-- The object with the given fields in key order; of several fields with one key the last stays. -/
def object (fields : List (String × Json)) : Json := ofDict (Dict.ofList fields)

/-- The object of a dictionary of texts. -/
def ofTexts (d : Dict String) : Json := ofDict (d.map .str)

/-- `v` as a value, nothing as null. -/
def ofOption (f : α → Json) : Option α → Json
  | none => null
  | some v => f v

/-- A text, or null for none. -/
def ofText? (s : Option String) : Json := ofOption .str s

/-- The field of an object; none for any other value. -/
def field? (key : String) : Json → Option Json
  | .obj fields => fields.lookup key
  | _ => none

/-- The text of a text value. -/
def text? : Json → Option String
  | .str s => some s
  | _ => none

/-- The items of a list value. -/
def items? : Json → Option (List Json)
  | .arr items => some items
  | _ => none

/-- The value at the end of a path of fields. -/
def at? (v : Json) : List String → Option Json
  | [] => some v
  | key :: path => (v.field? key).bind (·.at? path)

/-- The text of a field. -/
def textAt? (key : String) (v : Json) : Option String := (v.field? key).bind text?

end Json

end JobLauncher
