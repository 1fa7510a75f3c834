import JobLauncher.Shell.Arithmetic

/-!
# Assignment

What a variable takes depends on what it is: one for numbers takes the value of an expression, and
what is added to it is added up.
-/

namespace JobLauncher.Shell

/-- The value of an expression that the shell needs for something else; without one it gives the
line up. `origin` names the command that asks. -/
def numberOf (origin text : Bytes) : Act Int := do
  match ← Arithmetic.value text with
  | .ok n => return n
  | .error e =>
    match (← get).dialect with
    | .full =>
      complain (origin ++ e.message .full)
      setStatus 1
      throw .abandon
    | .plain =>
      complain (e.message .plain)
      throw .fatal

/-- The value of an expression that is given to a variable. -/
def assignedNumber (origin text : Bytes) : Act Int := do
  match ← Arithmetic.value text with
  | .ok n => return n
  | .error e =>
    complain (origin ++ e.message .full)
    setStatus 1
    throw .exit

/-- Gives a text to a variable or an item of one, or adds it to what is there. `shown` is how an
error names the place. -/
def assignText (origin : Bytes) (p : Place) (shown : Bytes) (adds : Bool) (t : Bytes) :
    Act Unit := do
  let m ← get
  let place := m.placeOf p
  let v := (m.kept? place.name).getD {}
  let old := if adds then (v.value.item? place.key).getD [] else []
  let new ←
    if v.number then
      let n ← assignedNumber origin t
      if adds then
        let before ← assignedNumber origin old
        pure (integer (Arithmetic.wrap (before + n)))
      else pure (integer n)
    else pure (old ++ t)
  unless ← store p new do
    complain (shown ++ bytes ": bad array subscript")
    setStatus 1
    throw .abandon

end JobLauncher.Shell
