import JobLauncher.Text.Cut

/-!
# DNS labels

A label names one level of a host: between 1 and 63 bytes of lower case letters, digits and hyphens,
with no hyphen at either end. `Label.check` finds the first rule that a text breaks.
-/

namespace JobLauncher.Kube.Label

/-- The most bytes in a label. -/
def maxLength : Nat := 63

/-- The rules for a label, in the order in which they are checked. -/
inductive Fault where
  | empty
  | tooLong
  | badStart
  | badCharacter
  | badEnd
  deriving DecidableEq, Repr

/-- What a fault says about the text `s`, which is the `what` of something. -/
def Fault.message (what s : String) : Fault → String
  | .empty => what ++ " cannot be empty"
  | .tooLong => what ++ " must be at most " ++ toString maxLength ++ " characters: " ++ s
  | .badStart => what ++ " must start with a lowercase letter or digit: " ++ s
  | .badCharacter => what ++ " must be lowercase alphanumeric with hyphens: " ++ s
  | .badEnd => what ++ " cannot end with hyphen: " ++ s

/-- A lower case ASCII letter or an ASCII digit. -/
def isAlphanumeric (c : Char) : Bool := c.isLower || c.isDigit

/-- A character that may stand inside a label. -/
def isInner (c : Char) : Bool := isAlphanumeric c || c == '-'

/-- The first rule that the text breaks, if it breaks one. -/
def fault? (s : String) : Option Fault :=
  match s.toList with
  | [] => some .empty
  | first :: rest =>
    if s.utf8ByteSize > maxLength then some .tooLong
    else if !isAlphanumeric first then some .badStart
    else if rest.any fun c => !isInner c then some .badCharacter
    else if (first :: rest).getLast? = some '-' then some .badEnd
    else none

/-- Accepts a label; anything else is refused with a message about `what`. -/
def check (what s : String) : Except String Unit :=
  match fault? s with
  | none => .ok ()
  | some f => .error (f.message what s)

end JobLauncher.Kube.Label
