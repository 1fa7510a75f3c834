import JobLauncher.Shell.Bytes
import JobLauncher.Shell.Word

/-!
# Braces

A word with alternatives or a range between braces stands for several words, one for each of them.
Braces that hold neither stand for themselves.
-/

namespace JobLauncher.Shell.Braces

/-- The alternatives up to the brace that closes them, and what follows; `depth` braces are open
inside. -/
def alternatives? (depth : Nat) (begun : List Part) :
    List Part → Option (List (List Part) × List Part)
  | [] => none
  | p :: rest =>
    if p = .char false '\x7d' ∧ depth = 0 then some ([begun.reverse], rest)
    else if p = .char false ',' ∧ depth = 0 then
      (alternatives? depth [] rest).map fun r => (begun.reverse :: r.1, r.2)
    else
      let depth :=
        if p = .char false '\x7b' then depth + 1
        else if p = .char false '\x7d' then depth - 1
        else depth
      alternatives? depth (p :: begun) rest

/-- A whole number as the ends of a range are written. -/
def integer? : List Char → Option Int
  | '-' :: cs => (natural? cs).map fun n => -(n : Int)
  | '+' :: cs => (natural? cs).map fun n => (n : Int)
  | cs => (natural? cs).map fun n => (n : Int)

/-- From one number to another in steps of a size; the sign of a step does not count. -/
def between (a b step : Int) : List Int :=
  let size := if step = 0 then 1 else step.natAbs
  let count := (b - a).natAbs / size + 1
  (List.range count).map fun (i : Nat) => if a ≤ b then a + (i * size : Nat) else a - (i * size : Nat)

/-- Whether a number is written with zeros in front. -/
def isPadded (cs : List Char) : Bool :=
  match cs with
  | '-' :: '0' :: _ :: _ => true
  | '0' :: _ :: _ => true
  | _ => false

/-- A number with zeros in front, up to a width. -/
def padded (width : Nat) (n : Int) : List Char :=
  if n < 0 then '-' :: padLeft '0' (width - 1) (decimal n.natAbs)
  else padLeft '0' width (decimal n.natAbs)

/-- The parts of a text between pairs of points. -/
def splitPoints (begun : List Char) : List Char → List (List Char)
  | '.' :: '.' :: rest => begun.reverse :: splitPoints [] rest
  | c :: rest => splitPoints (c :: begun) rest
  | [] => [begun.reverse]

/-- The texts of a range. -/
def range? (text : List Char) : Option (List (List Char)) := do
  let (first, last, step) ← match splitPoints [] text with
    | [a, b] => some (a, b, 1)
    | [a, b, c] => (integer? c).map fun step => (a, b, step)
    | _ => none
  match integer? first, integer? last, first, last with
  | some a, some b, _, _ =>
    let width := if isPadded first || isPadded last then max first.length last.length else 0
    return (between a b step).map (padded width)
  | none, none, [a], [b] =>
    guard (a.isAlpha && b.isAlpha)
    return (between a.toNat b.toNat step).map fun (n : Int) => [Char.ofNat n.toNat]
  | _, _, _, _ => none

/-- The characters of parts that are nothing but characters without quotes. -/
def bareText? (ps : List Part) : Option (List Char) := ({ parts := ps } : Word).bare?

/-- The words that parts stand for. -/
def expandParts : Nat → List Part → List (List Part)
  | 0, ps => [ps]
  | _, [] => [[]]
  | fuel + 1, p :: rest =>
    let plain : List (List Part) := (expandParts fuel rest).map (p :: ·)
    if p = .char false '\x7b' then
      match alternatives? 0 [] rest with
      | some ([only], after) =>
        match (bareText? only).bind range? with
        | some texts =>
          texts.flatMap fun t => (expandParts fuel after).map (t.map (.char false) ++ ·)
        | none => plain
      | some (choices, after) =>
        choices.flatMap fun choice =>
          (expandParts fuel choice).flatMap fun start =>
            (expandParts fuel after).map (start ++ ·)
      | none => plain
    else plain

end Braces

/-- The words that a word stands for, by its braces. -/
def Word.braces (w : Word) : List Word :=
  if w.parts.contains (.char false '\x7b') then
    (Braces.expandParts (w.parts.length + 1) w.parts).map fun ps => { w with parts := ps }
  else [w]

example : (({ parts := "a{b,c}".toList.map (.char false) } : Word).braces.filterMap Word.bare?)
    = ["ab".toList, "ac".toList] := by decide +kernel

end JobLauncher.Shell
