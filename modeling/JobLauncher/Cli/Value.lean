import JobLauncher.Text.Cut

/-!
# Values on the command line

The forms in which values are written: pairs, numbers, and the layouts in which a document is
printed.
-/

namespace JobLauncher.Cli

/-- A text that does not have the form it should have. -/
structure Malformed where
  form : String
  text : String
  deriving DecidableEq, Repr

def Malformed.message (m : Malformed) : String := "expected " ++ m.form ++ ", got: " ++ m.text

/-- A variable and its value. Only the name must not be empty. -/
def parseVariable (s : String) : Except Malformed (String × String) :=
  match Text.cut? '=' s with
  | some (key, value) => if key = "" then .error ⟨"KEY=VALUE", s⟩ else .ok (key, value)
  | none => .error ⟨"KEY=VALUE", s⟩

/-- A path of the host and the path where the container has it. Neither may be empty. -/
def parseVolume (s : String) : Except Malformed (String × String) :=
  match Text.cut? ':' s with
  | some (source, target) =>
    if source = "" ∨ target = "" then .error ⟨"SRC:DST", s⟩ else .ok (source, target)
  | none => .error ⟨"SRC:DST", s⟩

/-- A count of 32 bits in decimal digits, with or without a sign. -/
def parseCount (s : String) : Option UInt32 :=
  let (negative, digits) := match s.toList with
    | '-' :: rest => (true, rest)
    | '+' :: rest => (false, rest)
    | rest => (false, rest)
  let n := Nat.ofDigitChars 10 digits 0
  if digits ≠ [] ∧ digits.all Char.isDigit ∧ n < 4294967296 ∧ (negative → n = 0) then
    some (UInt32.ofNat n)
  else none

/-- A layout for documents. -/
inductive Format where
  | json
  | yaml
  deriving DecidableEq, Repr

def Format.parse : String → Option Format
  | "json" => some .json
  | "yaml" => some .yaml
  | _ => none

example : parseCount "007" = some 7 := by decide +kernel
example : parseCount "-0" = some 0 := by decide +kernel
example : parseCount "4294967296" = none := by decide +kernel

end JobLauncher.Cli
