import JobLauncher.Shell.Tool.Basic

/-!
# Exchanging characters

`tr` changes, drops and squeezes the characters of its input. Which ones is said by sets, in which
ranges, classes and repetitions may stand.
-/

namespace JobLauncher.Shell.Tool.Exchange

/-- A part of a set. -/
inductive Piece where
  | chars (cs : List Char)
  | named (name : String) (cs : List Char)
  | equivalent (c : Char)
  /-- A character so many times; without a number, as often as is needed. -/
  | repeated (c : Char) (times : Option Nat)
  deriving DecidableEq, Repr

/-- The bytes of a range of numbers. -/
def bytesFrom (a b : Nat) : List Char := (List.range (b + 1 - a)).map fun i => Char.ofNat (a + i)

def allBytes : List Char := bytesFrom 0 255

/-- What the characters after a backslash stand for, and what follows them. -/
def unescape : List Char → Char × List Char
  | [] => ('\\', [])
  | c :: rest =>
    match c with
    | 'a' => (Char.ofNat 7, rest)
    | 'b' => (Char.ofNat 8, rest)
    | 'f' => (Char.ofNat 12, rest)
    | 'n' => ('\n', rest)
    | 'r' => ('\r', rest)
    | 't' => ('\t', rest)
    | 'v' => (Char.ofNat 11, rest)
    | c =>
      if isOctal c then
        let digits := c :: (rest.take 2).takeWhile isOctal
        let n := value digits
        -- three digits may be too many for a byte
        if n < 256 then (Char.ofNat n, (c :: rest).drop digits.length)
        else (Char.ofNat (value (digits.take 2)), (c :: rest).drop 2)
      else (c, rest)
where
  isOctal (c : Char) : Bool := '0' ≤ c && c ≤ '7'
  value (ds : List Char) : Nat := Nat.ofDigitChars 8 ds 0

/-- The characters of a set, each with whether it was written with a backslash. -/
def marked : Nat → List Char → List (Char × Bool)
  | 0, _ | _, [] => []
  | fuel + 1, '\\' :: rest => let (c, rest) := unescape rest; (c, true) :: marked fuel rest
  | fuel + 1, c :: rest => (c, false) :: marked fuel rest

/-- What stands up to two signs that close a construct, and what follows them. -/
def closed? (c : Char) (cs : List (Char × Bool)) : Option (List Char × List (Char × Bool)) :=
  go [] cs
where
  go (found : List Char) : List (Char × Bool) → Option (List Char × List (Char × Bool))
    | (a, false) :: (']', false) :: rest =>
      if a = c then some (found.reverse, rest) else go (a :: found) ((']', false) :: rest)
    | (a, _) :: rest => go (a :: found) rest
    | [] => none

/-- The number of a repetition, and what follows it. -/
def times? (cs : List (Char × Bool)) : Option (Option Nat × List (Char × Bool)) :=
  let digits := (cs.takeWhile fun (c, e) => c.isDigit && !e).map (·.1)
  match cs.drop digits.length with
  | (']', false) :: rest =>
    let base := if digits.head? = some '0' then 8 else 10
    let n := Nat.ofDigitChars base digits 0
    some (if n = 0 then none else some n, rest)
  | _ => none

/-- How a character is shown in an error. -/
def shown (c : Char) : Bytes :=
  if isGraph c || c = ' ' then [c] else '\\' :: padLeft '0' 3 (Nat.toDigits 8 c.toNat)

/-- Reads a character or a range. -/
def plain : Char × Bool → List (Char × Bool) → Except Bytes (Piece × List (Char × Bool))
  | (a, _), ('-', false) :: (b, _) :: rest => do
    if b < a then
      throw (bytes "range-endpoints of '" ++ shown a ++ ['-'] ++ shown b
        ++ bytes "' are in reverse collating sequence order")
    return (.chars (bytesFrom a.toNat b.toNat), rest)
  | (c, _), rest => .ok (.chars [c], rest)

/-- Reads the first piece of a set that begins with a character. -/
def piece (first : Char × Bool) (cs : List (Char × Bool)) :
    Except Bytes (Piece × List (Char × Bool)) :=
  match first, cs with
  | ('[', false), (':', false) :: rest =>
    match closed? ':' rest with
    | some ([], _) => .error (bytes "missing character class name '[::]'")
    | some (name, after) =>
      match classTest? (textOfBytes name) with
      | some test => .ok (.named (textOfBytes name) (allBytes.filter test), after)
      | none => .error (bytes "invalid character class " ++ quoted name)
    | none => plain first cs
  | ('[', false), ('=', false) :: rest =>
    match closed? '=' rest with
    | some ([c], after) => .ok (.equivalent c, after)
    | some ([], _) => .error (bytes "missing equivalence class character '[==]'")
    | some (text, _) =>
      .error (text ++ bytes ": equivalence class operand must be a single character")
    | none => plain first cs
  | ('[', false), (c, _) :: ('*', false) :: rest =>
    match times? rest with
    | some (times, after) => .ok (.repeated c times, after)
    | none => plain first cs
  | _, _ => plain first cs

/-- Reads a set. -/
def pieces : Nat → List (Char × Bool) → Except Bytes (List Piece)
  | 0, _ | _, [] => .ok []
  | fuel + 1, first :: cs => do
    let (p, rest) ← piece first cs
    return p :: (← pieces fuel rest)

/-- The set that a text writes. -/
def parse (t : Bytes) : Except Bytes (List Piece) := pieces (t.length + 1) (marked t.length t)

def Piece.chars' : Piece → List Char
  | chars cs | named _ cs => cs
  | equivalent c => [c]
  | repeated c times => List.replicate (times.getD 0) c

/-- The characters of a set; one that is repeated as often as needed fills it up to a length. -/
def expand (ps : List Piece) (length : Nat) : List Char :=
  let room := length - (ps.flatMap Piece.chars').length
  ps.flatMap fun
    | .repeated c none => List.replicate room c
    | p => p.chars'

/-- Whether a set has a part of some kind. -/
def isOpen : Piece → Bool
  | .repeated _ none => true
  | _ => false

def isCase : Piece → Bool
  | .named name _ => name == "upper" || name == "lower"
  | _ => false

/-- Why two sets do not go together. -/
def fault? (complement truncates translates : Bool) (a b : List Piece) : Option String :=
  let long := (a.flatMap Piece.chars').length
  let short := (b.flatMap Piece.chars').length
  if a.any isOpen then some "the [c*] repeat construct may not appear in string1"
  else if 1 < (b.filter isOpen).length then
    some "only one [c*] repeat construct may appear in string2"
  else if !translates then
    if b.any isOpen then some "the [c*] construct may appear in string2 only when translating"
    else none
  else if b.any (· matches .equivalent _) then
    some "[=c=] expressions may not appear in string2 when translating"
  else if b.any fun p => (p matches .named ..) && !isCase p then
    some "when translating, the only character classes that may appear in\nstring2 are 'upper' and 'lower'"
  else if short = 0 ∧ !b.any isOpen ∧ !truncates then
    some "when not truncating set1, string2 must be non-empty"
  else if misaligned 0 0 a b then some "misaligned [:upper:] and/or [:lower:] construct"
  else if complement ∧ a.any (· matches .named ..) ∧ 1 < (expand b 256).eraseDups.length then
    some "when translating with complemented character classes,\nstring2 must map all characters in the domain to one"
  else if short < long ∧ !truncates ∧ !complement ∧ b.getLast?.any (· matches .named ..) then
    some "when translating with string1 longer than string2,\nthe latter string must not end with a character class"
  else none
where
  /-- Whether a class of letters in the second set has no such class at its place in the first. -/
  misaligned (i j : Nat) : List Piece → List Piece → Bool
    | ps, q :: qs =>
      if isCase q then
        let place := i + j
        let starts := a.foldl (fun (found, n) p =>
          (found || (isCase p && n == place), n + p.chars'.length)) (false, 0)
        !starts.1 || misaligned i (j + q.chars'.length) ps qs
      else misaligned i (j + q.chars'.length) ps qs
    | _, [] => false

/-- Leaves one of several equal characters in a row, of those in a set. -/
def squeeze (isIn : Char → Bool) (text : Bytes) : Bytes :=
  go none [] text
where
  go (last : Option Char) (done : Bytes) : Bytes → Bytes
    | [] => done.reverse
    | c :: rest =>
      if last = some c ∧ isIn c then go last done rest else go (some c) (c :: done) rest

/-- Membership in a set by a table. -/
def member (cs : List Char) : Char → Bool :=
  let table := cs.foldl (fun (t : Array Bool) c => t.setIfInBounds c.toNat true)
    (Array.replicate 256 false)
  fun c => table[c.toNat]?.getD false

/-- What each character becomes: the one at its place in the second set, which goes on with its last
one. -/
def exchanged (old new : List Char) : Char → Char :=
  let last := new.getLast?
  let rec fill (t : Array Char) : List Char → List Char → Array Char
    | c :: old, d :: new => fill (t.setIfInBounds c.toNat d) old new
    | c :: old, [] => fill (t.setIfInBounds c.toNat (last.getD c)) old []
    | [], _ => t
  let table := fill (Array.ofFn (n := 256) fun i => Char.ofNat i) old new
  fun c => table[c.toNat]?.getD c

/-- Changes, drops or squeezes characters. -/
def tr : Program := fun _ args =>
  let options : Options :=
    { letters := "cCdst", anywhere := false
      long := [("complement", 'c'), ("delete", 'd'), ("squeeze-repeats", 's'), ("truncate-set1", 't')] }
  withGiven "tr" options 1 args fun g => do
    let complement := g.has 'c' || g.has 'C'
    let deletes := g.has 'd'
    let squeezes := g.has 's'
    let least := if deletes == squeezes then 2 else 1
    let most := if deletes && !squeezes then 1 else 2
    match g.operands with
    | [] => misuse 1 "tr" (bytes "missing operand")
    | t :: rest =>
      if rest.length + 1 < least then
        misuse 1 "tr" (bytes "missing operand after " ++ quoted t
          ++ bytes (if squeezes then
              "\nTwo strings must be given when both deleting and squeezing repeats."
            else "\nTwo strings must be given when translating."))
      else
        match rest.drop (most - 1) with
        | extra :: _ =>
          misuse 1 "tr" (bytes "extra operand " ++ quoted extra
            ++ bytes (if rest.length = 1 then
                "\nOnly one string may be given when deleting without squeezing repeats."
              else ""))
        | [] =>
          match parse t, parse (rest.headD []) with
          | .error e, _ | _, .error e => refuse 1 "tr" e
          | .ok a, .ok b =>
            let translates := rest ≠ [] && !deletes
            match fault? complement (g.has 't') translates a b with
            | some e => refuse 1 "tr" (bytes e)
            | none =>
              let named := a.flatMap Piece.chars'
              let first := if complement then allBytes.filter fun c => !member named c else named
              let second := expand b first.length
              let first := if g.has 't' && translates then first.take second.length else first
              let text ← readInput
              let text := if deletes then text.filter fun c => !member first c
                else if translates then text.map (exchanged first second)
                else text
              let last := if rest ≠ [] then second else first
              setStatus 0
              output "tr" (if squeezes then squeeze (member last) text else text)

end JobLauncher.Shell.Tool.Exchange
