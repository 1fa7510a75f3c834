import JobLauncher.Shell.Bytes
import JobLauncher.Shell.Frame

/-!
# Parameters

What stands between the braces of an expansion: a parameter and what is asked of it.
-/

namespace JobLauncher.Shell

/-- What a parameter is. -/
inductive Parameter where
  | named (name : Bytes) (index : Option Bytes)
  /-- An argument of the script or the function. -/
  | argument (n : Nat)
  | special (c : Char)
  deriving DecidableEq, Repr

/-- What is asked of a parameter. -/
inductive Request where
  | value
  | length
  /-- The names of all variables that begin like this one, perhaps as one text. -/
  | names (joined : Bool)
  /-- The keys of its items, perhaps as one text. -/
  | keys (joined : Bool)
  /-- A word in place of the value, by the sign before it; `empty` says that an empty value does
  not count. -/
  | default (sign : Char) (empty : Bool) (word : Bytes)
  | dropStart (longest : Bool) (pattern : Bytes)
  | dropEnd (longest : Bool) (pattern : Bytes)
  /-- Something else in place of what matches: of the first match, of all, or of one that is at the
  start or at the end. -/
  | replace (spot : Char) (pattern : Bytes) (new : Bytes)
  | recase (sign : Char) (all : Bool) (pattern : Bytes)
  | slice (offset : Bytes) (length : Option Bytes)
  | transform (letter : Char)
  deriving DecidableEq, Repr

/-- A parameter and what is asked of it; `indirect` says that its value is the parameter meant. -/
structure Lookup where
  parameter : Parameter
  indirect : Bool := false
  request : Request := .value
  deriving DecidableEq, Repr

namespace Parameter

/-- A parameter that is a single sign. -/
def isSign (c : Char) : Bool := "@*#?-$!".toList.contains c

/-- The text up to the bracket that closes an index, and what follows. -/
def index? (done : Bytes) (frames : List Frame) : Bytes → Option (Bytes × Bytes)
  | [] => none
  | c :: rest =>
    match Frame.after c done frames with
    | [] => some (done.reverse, rest)
    | frames => index? (c :: done) frames rest

/-- The parameter that a text begins with, and what follows. -/
def read? (cs : Bytes) : Option (Parameter × Bytes) :=
  match cs with
  | [] => none
  | c :: rest =>
    if isNameStart c then
      let name := cs.takeWhile isNameChar
      match cs.drop name.length with
      | '[' :: inside =>
        match index? [] [.brackets] inside with
        | some (index, rest) => some (.named name (some index), rest)
        | none => none
      | rest => some (.named name none, rest)
    else if c.isDigit then
      let digits := cs.takeWhile Char.isDigit
      some (.argument ((natural? digits).getD 0), cs.drop digits.length)
    else if isSign c then some (.special c, rest)
    else none

/-- The text up to a character that nothing guards, and what follows it. -/
def cut (base : Frame) (stop : Char) (done : Bytes) (frames : List Frame) :
    Bytes → Bytes × Option Bytes
  | [] => (done.reverse, none)
  | c :: rest =>
    if c = stop ∧ frames = [base] then (done.reverse, some rest)
    else cut base stop (c :: done) (Frame.after c done frames) rest

/-- The parts of a slice: expressions with a colon between them that belongs to no question. -/
def cutSlice (questions depth : Nat) (done : Bytes) : Bytes → Bytes × Option Bytes
  | [] => (done.reverse, none)
  | c :: rest =>
    if c = ':' ∧ questions = 0 ∧ depth = 0 then (done.reverse, some rest)
    else
      let questions :=
        if c = '?' then questions + 1 else if c = ':' then questions - 1 else questions
      let depth :=
        if c = '(' ∨ c = '\x7b' then depth + 1 else if c = ')' ∨ c = '\x7d' then depth - 1 else depth
      cutSlice questions depth (c :: done) rest

/-- What is asked after a parameter; none if it means nothing. -/
def request? : Bytes → Option Request
  | [] => some .value
  | ':' :: rest =>
    match rest with
    | [] => none
    | c :: word =>
      if "-=?+".toList.contains c then some (.default c true word)
      else
        let (offset, length) := cutSlice 0 0 [] rest
        some (.slice offset length)
  | '#' :: '#' :: pattern => some (.dropStart true pattern)
  | '#' :: pattern => some (.dropStart false pattern)
  | '%' :: '%' :: pattern => some (.dropEnd true pattern)
  | '%' :: pattern => some (.dropEnd false pattern)
  | '/' :: rest =>
    let (spot, rest) := match rest with
      | '/' :: rest => ('/', rest)
      | '#' :: rest => ('#', rest)
      | '%' :: rest => ('%', rest)
      | rest => (' ', rest)
    let base := Frame.braces true (some '/')
    -- a slash right after the one that asks for all matches belongs to the pattern
    let (pattern, new) := match spot, rest with
      | '/', '/' :: more => let r := cut base '/' [] [base] more; ('/' :: r.1, r.2)
      | _, rest => cut base '/' [] [base] rest
    some (.replace spot pattern (new.getD []))
  | '@' :: [c] => if "QEPAKakuUL".toList.contains c then some (.transform c) else none
  | c :: rest =>
    if "-=?+".toList.contains c then some (.default c false rest)
    else if "^,~".toList.contains c then
      match rest with
      | d :: pattern => if c = d then some (.recase c true pattern) else some (.recase c false rest)
      | [] => some (.recase c false rest)
    else none

end Parameter

/-- What is looked up by the text between braces; none if it means nothing. -/
def Lookup.read? (cs : Bytes) : Option Lookup :=
  match cs with
  | '#' :: rest =>
    match Parameter.read? rest with
    | some (parameter, []) => some { parameter, request := .length }
    | _ => plain cs
  | '!' :: rest =>
    match Parameter.read? rest with
    | some (.named name none, ['*']) =>
      some { parameter := .named name none, request := .names true }
    | some (.named name none, ['@']) =>
      some { parameter := .named name none, request := .names false }
    | some (.named name (some ['*']), []) =>
      some { parameter := .named name none, request := .keys true }
    | some (.named name (some ['@']), []) =>
      some { parameter := .named name none, request := .keys false }
    | some (.special _, _ :: _) | none => plain cs
    | some (parameter, rest) =>
      (Parameter.request? rest).map fun request => { parameter, indirect := true, request }
  | cs => plain cs
where
  plain (cs : Bytes) : Option Lookup := do
    let (parameter, rest) ← Parameter.read? cs
    let request ← Parameter.request? rest
    return { parameter, request }

/-- Whether a parameter stands for several texts that stay apart between quotes. -/
def Lookup.isSeveral (l : Lookup) : Bool :=
  match l.request, l.parameter with
  | .length, _ => false
  | .names joined, _ | .keys joined, _ => !joined
  | _, .special '@' => true
  | _, .named _ (some ['@']) => true
  | _, _ => false

/-- Whether the plain shell knows what is asked. -/
def Lookup.isPortable (l : Lookup) : Bool :=
  !l.indirect && !(l.parameter matches .named _ (some _)) && match l.request with
    | .value | .length | .default .. | .dropStart .. | .dropEnd .. => true
    | _ => false

end JobLauncher.Shell
