import JobLauncher.Shell.Bytes

/-!
# Patterns

Patterns of the shell: characters, signs for any character or any text, sets of characters and, if
they are allowed, choices between patterns. A character of a pattern that quotes guard stands for
itself.
-/

namespace JobLauncher.Shell

/-- A character, and whether quotes guard it. -/
abbrev Guarded := Char × Bool

/-- Members of a set of characters. -/
inductive Glob.Member where
  | range (first last : Char)
  | named (name : String)
  deriving DecidableEq, Repr

/-- How often one of the choices has to be there. -/
inductive Glob.Times where
  | once
  | optional
  | some
  | any
  /-- None of them may be there. -/
  | not
  deriving DecidableEq, Repr

/-- A part of a pattern. -/
inductive Glob where
  | char (c : Char)
  | anyChar
  | anyText
  | set (negated : Bool) (members : List Glob.Member)
  | choice (times : Glob.Times) (choices : List (List Glob))
  deriving Repr

namespace Glob

def Member.holds (c : Char) : Member → Bool
  | .range first last => first ≤ c && c ≤ last
  | .named name => (classTest? name).any (· c)

/-! ## Reading patterns -/

/-- The name between `[:` and `:]`, and what follows. -/
def className? (cs : List Guarded) : Option (String × List Guarded) :=
  let name := cs.takeWhile (·.1.isAlpha)
  match cs.drop name.length with
  | (':', _) :: (']', _) :: rest => some (String.ofList (name.map (·.1)), rest)
  | _ => none

/-- The members of a set up to the bracket that closes it; none if nothing does. The first one may
be a bracket itself. -/
def members? : Nat → Bool → List Guarded → Option (List Member × List Guarded)
  | 0, _, _ => none
  | _, _, [] => none
  | fuel + 1, first, (c, guarded) :: rest =>
    if c = ']' ∧ !guarded ∧ !first then some ([], rest)
    else
      let one (low : Char) (rest : List Guarded) : Option (List Member × List Guarded) :=
        match rest with
        | ('-', false) :: (high, g) :: after =>
          if high = ']' ∧ !g then (members? fuel false rest).map fun r => (.range low low :: r.1, r.2)
          else (members? fuel false after).map fun r => (.range low high :: r.1, r.2)
        | _ => (members? fuel false rest).map fun r => (.range low low :: r.1, r.2)
      match c, guarded, rest with
      | '[', false, (':', false) :: more =>
        match className? more with
        | some (name, rest) => (members? fuel false rest).map fun r => (.named name :: r.1, r.2)
        | none => one c rest
      | '[', false, ('=', false) :: (x, _) :: ('=', false) :: (']', false) :: rest => one x rest
      | '[', false, ('.', false) :: (x, _) :: ('.', false) :: (']', false) :: rest => one x rest
      | _, _, _ => one c rest

/-- How often the choices after a sign have to be there. -/
def times? (c : Char) : Option Times :=
  if c = '@' then some .once
  else if c = '?' then some .optional
  else if c = '+' then some .some
  else if c = '*' then some .any
  else if c = '!' then some .not
  else none

/-- The alternatives up to the parenthesis that closes them, and what follows; `depth` is how many
are open inside. -/
def alternatives? (depth : Nat) (begun : List Guarded) :
    List Guarded → Option (List (List Guarded) × List Guarded)
  | [] => none
  | (c, g) :: rest =>
    if g then alternatives? depth ((c, g) :: begun) rest
    else if c = ')' ∧ depth = 0 then some ([begun.reverse], rest)
    else if c = '|' ∧ depth = 0 then
      (alternatives? depth [] rest).map fun r => (begun.reverse :: r.1, r.2)
    else
      let depth := if c = '(' then depth + 1 else if c = ')' then depth - 1 else depth
      alternatives? depth ((c, g) :: begun) rest

/-- The pattern of a text. -/
def parse (extended : Bool) : Nat → List Guarded → List Glob
  | 0, _ => []
  | _, [] => []
  | fuel + 1, (c, guarded) :: rest =>
    if guarded then .char c :: parse extended fuel rest
    else
      let choice? : Option (List Glob) := do
        guard extended
        let times ← times? c
        match rest with
        | ('(', false) :: rest =>
          let (texts, rest) ← alternatives? 0 [] rest
          return .choice times (texts.map (parse extended fuel)) :: parse extended fuel rest
        | _ => none
      match choice? with
      | some p => p
      | none =>
        if c = '*' then .anyText :: parse extended fuel rest
        else if c = '?' then .anyChar :: parse extended fuel rest
        else if c = '[' then
          let (negated, inside) := match rest with
            | ('!', false) :: more | ('^', false) :: more => (true, more)
            | more => (false, more)
          match members? (inside.length + 1) true inside with
          | some (ms, rest) => .set negated ms :: parse extended fuel rest
          | none => .char c :: parse extended fuel rest
        else if c = '\\' then
          match rest with
          | (d, _) :: rest => .char d :: parse extended fuel rest
          | [] => [.char c]
        else .char c :: parse extended fuel rest

/-- The pattern of a text, with choices or without. -/
def ofText (extended : Bool) (cs : List Guarded) : List Glob := parse extended (cs.length + 1) cs

/-! ## Matching -/

/-- Whether a text matches a pattern in such a way that what is left of it is accepted. The fuel
bounds the number of steps one after another, each of which uses up a part of the pattern or a
character of the text. -/
def matchThen : Nat → List Glob → Bytes → (Bytes → Bool) → Bool
  | 0, _, _, _ => false
  | _, [], text, accept => accept text
  | fuel + 1, p :: rest, text, accept =>
    match p with
    | .char c => match text with
      | d :: more => c == d && matchThen fuel rest more accept
      | [] => false
    | .anyChar => match text with
      | _ :: more => matchThen fuel rest more accept
      | [] => false
    | .set negated ms => match text with
      | d :: more => (ms.any (·.holds d) != negated) && matchThen fuel rest more accept
      | [] => false
    | .anyText =>
      matchThen fuel rest text accept || match text with
        | _ :: more => matchThen fuel (.anyText :: rest) more accept
        | [] => false
    | .choice times choices =>
      let once (accept : Bytes → Bool) : Bool :=
        choices.any fun choice => matchThen fuel choice text accept
      let again : Bool := once fun left =>
        left.length < text.length && matchThen fuel (.choice .any choices :: rest) left accept
      match times with
      | .once => once fun left => matchThen fuel rest left accept
      | .optional => matchThen fuel rest text accept || once fun left => matchThen fuel rest left accept
      | .any => matchThen fuel rest text accept || again
      | .some => again || once fun left => matchThen fuel rest left accept
      | .not =>
        -- each start of the text that is none of the choices may stand here
        (List.range (text.length + 1)).any fun n =>
          let start := text.take n
          !choices.any (fun choice => matchThen fuel choice start List.isEmpty)
            && matchThen fuel rest (text.drop n) accept

mutual

/-- The number of parts of a pattern, those inside others included. -/
def size : Glob → Nat
  | .choice _ choices => 1 + sizes choices
  | _ => 1

def sizes : List (List Glob) → Nat
  | [] => 0
  | p :: rest => sizeOfAll p + sizes rest

def sizeOfAll : List Glob → Nat
  | [] => 0
  | p :: rest => size p + sizeOfAll rest

end

/-- Whether a pattern matches all of a text. -/
def holds (p : List Glob) (text : Bytes) : Bool :=
  matchThen (2 * sizeOfAll p + 2 * text.length + 4) p text List.isEmpty

/-- Whether a text could mean something else as a pattern. -/
def isActive (extended : Bool) (cs : List Guarded) : Bool :=
  (ofText extended cs).any fun
    | .char _ => false
    | _ => true

/-- The length of a start of the text that matches, the shortest or the longest one. -/
def startLength? (longest : Bool) (p : List Glob) (text : Bytes) : Option Nat :=
  let lengths := List.range (text.length + 1)
  (if longest then lengths.reverse else lengths).find? fun n => holds p (text.take n)

/-- The length of an end of the text that matches, the shortest or the longest one. -/
def endLength? (longest : Bool) (p : List Glob) (text : Bytes) : Option Nat :=
  let lengths := List.range (text.length + 1)
  (if longest then lengths.reverse else lengths).find? fun n =>
    holds p (text.drop (text.length - n))

/-- Where a pattern first matches a part of a text, and the length of the longest part there. -/
def find? (p : List Glob) (text : Bytes) : Option (Nat × Nat) :=
  (List.range (text.length + 1)).findSome? fun i =>
    (startLength? true p (text.drop i)).map fun n => (i, n)

end Glob

end JobLauncher.Shell
