import JobLauncher.Json.Printer
import JobLauncher.Text.Quoted

/-!
# Reading records out of JSON

The pieces from which a reader of typed values is made: texts, 32-bit numbers, lists, dictionaries
and the fields of a record. A `DecodeError` says what stands where something else was expected.
-/

namespace JobLauncher.Json

/-- Why a value is not what was expected. -/
inductive DecodeError where
  | missingField (name : String)
  | wrongType (found : Json) (expected : String)
  | outOfRange (found : Int) (expected : String)
  | wrongLength (found : Nat) (expected : String)
  deriving Repr

/-- A value as a message names it: lists and objects by their kind, others by what they are. -/
def describe : Json → String
  | .null => "null"
  | .bool b => "boolean \x60" ++ (if b then "true" else "false") ++ "\x60"
  | .num (.int i) => "integer \x60" ++ toString i ++ "\x60"
  | .num (.float x) => "floating point \x60" ++ x.toText ++ "\x60"
  | .str s => "string " ++ Text.quoted s
  | .arr _ => "sequence"
  | .obj _ => "map"

def DecodeError.message : DecodeError → String
  | .missingField name => "missing field \x60" ++ name ++ "\x60"
  | .wrongType found expected => "invalid type: " ++ found.describe ++ ", expected " ++ expected
  | .outOfRange found expected =>
    "invalid value: integer \x60" ++ toString found ++ "\x60, expected " ++ expected
  | .wrongLength found expected =>
    "invalid length " ++ toString found ++ ", expected " ++ expected

/-- A reader of values of one type. -/
abbrev Decoder (α : Type) := Json → Except DecodeError α

/-- Any value, as it is. -/
def decodeAny : Decoder Json := .ok

def decodeText : Decoder String
  | .str s => .ok s
  | v => .error (.wrongType v "a string")

/-- A natural number below 2 ^ 32. -/
def decodeUInt32 : Decoder UInt32
  | .num (.int i) =>
    if 0 ≤ i ∧ i < 4294967296 then .ok (UInt32.ofNat i.toNat) else .error (.outOfRange i "u32")
  | v => .error (.wrongType v "u32")

/-- A list, its items one after another; the first that cannot be read is the error. -/
def decodeList (item : Decoder α) : Decoder (List α)
  | .arr items => items.mapM item
  | v => .error (.wrongType v "a sequence")

/-- The fields of an object as a dictionary of texts. -/
def decodeTexts : Decoder (Dict String)
  | .obj fields => do
    let pairs ← fields.mapM fun (k, v) => (decodeText v).map fun s => (k, s)
    return Dict.ofList pairs
  | v => .error (.wrongType v "a map")

/-- Reads a field if it is there. -/
def decodeField? (fields : List (String × Json)) (name : String) (read : Decoder α) :
    Except DecodeError (Option α) :=
  match fields.lookup name with
  | none => .ok none
  | some v => (read v).map some

/-- The value of a field that has to be there. -/
def require (name : String) : Option α → Except DecodeError α
  | none => .error (.missingField name)
  | some a => .ok a

/-- Reads the item at `index` of a record written as a list. -/
def decodeItem (items : List Json) (index : Nat) (expected : String) (read : Decoder α) :
    Except DecodeError α :=
  match items[index]? with
  | none => .error (.wrongLength index expected)
  | some v => read v

end JobLauncher.Json
