import JobLauncher.Shell.Grammar.Basic

/-!
# The grammar of conditions

What stands between double brackets: properties of words and comparisons, joined by `&&` and `||`.
-/

namespace JobLauncher.Shell.Grammar

/-- The properties that a condition can ask for. -/
def unaryTests : List String :=
  ["-a", "-b", "-c", "-d", "-e", "-f", "-g", "-h", "-k", "-n", "-o", "-p", "-r", "-s", "-t", "-u",
    "-v", "-w", "-x", "-z", "-G", "-L", "-N", "-O", "-R", "-S"]

/-- The comparisons that a condition can make. -/
def binaryTests : List String :=
  ["==", "=", "!=", "=~", "-eq", "-ne", "-lt", "-le", "-gt", "-ge", "-nt", "-ot", "-ef"]

/-- Refuses the next token inside a condition. -/
def refuseTest (said : String → List String) : Parse α := do
  let s ← get
  match s.rest with
  | [] => throw (.ended s.endLine)
  | (.unclosed c, n) :: _ => throw (.unclosed c n)
  | (t, n) :: _ => throw (.near (said t.source) t.source n)

/-- Reads what a word is compared with. -/
def testOperand : Parse Word := do
  match ← peek with
  | some (.word v) =>
    if v.bare? == some (bytes "]]") then
      refuseTest fun t => ["unexpected argument \x60" ++ t ++ "' to conditional binary operator"]
    else
      advance
      return v
  | _ => refuseTest fun t => ["unexpected argument \x60" ++ t ++ "' to conditional binary operator"]

/-- Reads what follows a word. -/
def testFrom (w : Word) : Parse Test := do
  match ← peek with
  | some (.operator op) =>
    if op = "<" ∨ op = ">" then
      advance
      return .binary op.toList w (← testOperand)
    else if ["&&", "||", ")"].contains op then return .text w
    else refuseTest fun t => ["unexpected token \x60" ++ t ++ "', conditional binary operator expected"]
  | some (.word v) =>
    match v.bare?.map String.ofList with
    | some "]]" => return .text w
    | some op =>
      if binaryTests.contains op then
        advance
        return .binary op.toList w (← testOperand)
      else refuseTest fun _ => ["conditional binary operator expected"]
    | none => refuseTest fun _ => ["conditional binary operator expected"]
  | some .newline =>
    let n ← line
    throw (.near ["unexpected token \x60newline', conditional binary operator expected"]
      (String.ofList w.source) n)
  | _ => refuse

/-- Reads what a property is asked of. If nothing of the kind follows, its name is a text. -/
def testUnary (op : List Char) (w : Word) : Parse Test := do
  match ← peek with
  | some (.word a) =>
    if a.bare? == some (bytes "]]") then
      refuseTest fun t => ["unexpected argument \x60" ++ t ++ "' to conditional unary operator"]
    else
      let isBinary := (a.bare?.map String.ofList).any fun op => binaryTests.contains op
      let isLast := match (← get).rest.drop 1 with
        | (.word b, _) :: _ => b.bare? == some (bytes "]]")
        | _ => true
      if isBinary && !isLast then testFrom w
      else
        advance
        return .unary op a
  | some .newline =>
    let n ← line
    throw (.near ["unexpected argument \x60newline' to conditional unary operator"]
      (String.ofList w.source) n)
  | _ => refuseTest fun t => ["unexpected argument \x60" ++ t ++ "' to conditional unary operator"]

mutual

/-- Reads a condition: parts joined by `||`. -/
def testAny : Nat → Parse Test
  | 0 => refuse
  | fuel + 1 => do
    let a ← testAll fuel
    skipLines
    if ← accept "||" then return .or a (← testAny fuel) else return a

/-- Reads parts joined by `&&`. -/
def testAll : Nat → Parse Test
  | 0 => refuse
  | fuel + 1 => do
    let a ← testOne fuel
    skipLines
    if ← accept "&&" then return .and a (← testAll fuel) else return a

/-- Reads one part of a condition. -/
def testOne : Nat → Parse Test
  | 0 => refuse
  | fuel + 1 => do
    skipLines
    match ← peek with
    | some (.operator "(") =>
      advance
      let t ← testAny fuel
      if ← accept ")" then return t
      else refuseTest fun t => ["unexpected token \x60" ++ t ++ "', expected \x60)'"]
    | some (.word w) =>
      match w.bare?.map String.ofList with
      | some "!" =>
        advance
        return .not (← testOne fuel)
      | some "]]" => refuseTest fun _ => []
      | some op =>
        if unaryTests.contains op then
          advance
          testUnary op.toList w
        else
          advance
          testFrom w
      | none =>
        advance
        testFrom w
    | some (.operator op) =>
      let n ← line
      throw (.near ["unexpected token \x60" ++ op ++ "' in conditional command"]
        (String.ofList (op.toList.take 1)) n)
    | none => do
      let n ← line
      throw { said := [(n, "unexpected token \x60EOF' in conditional command"),
        (n, "syntax error: unexpected end of file")] }
    | _ => refuse

end

/-- Reads a condition up to the brackets that close it. -/
def test (fuel : Nat) : Parse Test := do
  let t ← testAny fuel
  match ← peek with
  | some (.word w) =>
    if w.bare? == some (bytes "]]") then
      advance
      return t
    else refuseTest fun _ => ["syntax error in conditional expression"]
  | none => do
    let n ← line
    throw { said := [(n - 1, "unexpected EOF while looking for \x60]]'"),
      (n, "syntax error: unexpected end of file")] }
  | _ => refuseTest fun _ => ["syntax error in conditional expression"]

end JobLauncher.Shell.Grammar
