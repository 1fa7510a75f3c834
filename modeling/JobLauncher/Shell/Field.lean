import JobLauncher.Shell.Files
import JobLauncher.Shell.Glob

/-!
# Fields

Expansion turns the parts of a word into bits. The bits that came from the values of variables and
the like are parted where separators stand; every field that comes of it is a pattern for files,
unless quotes guard all that is special in it.
-/

namespace JobLauncher.Shell

/-- A character of an expanded word, or a sign between them. -/
inductive Bit where
  /-- A character that quotes guard. -/
  | solid (c : Char)
  /-- A character of the word itself. -/
  | plain (c : Char)
  /-- A character that parts fields if it is a separator. -/
  | loose (c : Char)
  /-- The end of a field. -/
  | edge
  /-- Quotes, which make a field even if nothing is in them. -/
  | quote
  deriving DecidableEq, Repr

namespace Bit

/-- The bit between quotes. -/
def guarded : Bit → Bit
  | plain c | loose c => solid c
  | b => b

/-- The bit as part of a value that is looked up. -/
def loosened : Bit → Bit
  | plain c => loose c
  | b => b

/-- The characters of a bit as a part of a pattern. -/
def asPattern : Bit → List Guarded
  | solid c => [(c, true)]
  | plain c | loose c => [(c, false)]
  | edge => [(' ', true)]
  | quote => []

/-- The characters of a bit. -/
def chars : Bit → Bytes
  | solid c | plain c | loose c => [c]
  | edge => [' ']
  | quote => []

end Bit

/-- The characters that part fields, by whether several of them in a row count as one. -/
structure Separators where
  blanks : Bytes
  others : Bytes

/-- The separators that the value of a variable gives. -/
def Separators.of (value : Option Bytes) : Separators :=
  let cs := value.getD [' ', '\t', '\n']
  { blanks := cs.filter isBlankOrEnd, others := cs.filter fun c => !isBlankOrEnd c }

/-- The fields of bits, each one as a pattern. `begun` is the field that has begun, last character
first; `afterBlank` says that blanks have just ended one, so that a separator adds nothing. -/
def splitBits (s : Separators) (begun : Option (List Guarded)) (afterBlank : Bool) :
    List Bit → List (List Guarded)
  | [] => (begun.map List.reverse).toList
  | .solid c :: rest => splitBits s (some ((c, true) :: begun.getD [])) false rest
  | .plain c :: rest => splitBits s (some ((c, false) :: begun.getD [])) false rest
  | .quote :: rest => splitBits s (some (begun.getD [])) false rest
  | .edge :: rest => (begun.map List.reverse).toList ++ splitBits s none false rest
  | .loose c :: rest =>
    if s.blanks.contains c then
      match begun with
      | some f => f.reverse :: splitBits s none true rest
      | none => splitBits s none afterBlank rest
    else if s.others.contains c then
      match begun with
      | some f => f.reverse :: splitBits s none false rest
      | none =>
        if afterBlank then splitBits s none false rest else [] :: splitBits s none false rest
    else splitBits s (some ((c, false) :: begun.getD [])) false rest

/-! ## Patterns for files -/

/-- How patterns for files are matched. -/
structure PathStyle where
  extended : Bool
  /-- Names that begin with a point match like others. -/
  dots : Bool
  /-- Two stars match any number of directories. -/
  deep : Bool

/-- The parts of a pattern between slashes. -/
def segments (begun : List Guarded) : List Guarded → List (List Guarded)
  | [] => [begun.reverse]
  | (c, g) :: rest =>
    if c = '/' then begun.reverse :: segments [] rest else segments ((c, g) :: begun) rest

/-- The text of a pattern. -/
def plainText (p : List Guarded) : Bytes := p.map (·.1)

/-- The paths that begin with one of those given and go on with segments; each path is given as it
is shown. -/
def matchSegments (style : PathStyle) (fs : Files) (directory : Path) :
    List (List Guarded) → List Bytes → List Bytes
  | [], found => found
  | seg :: rest, found =>
    let slash : Bytes := if rest = [] then [] else ['/']
    let isDirectory (p : Bytes) : Bool := p = [] || fs.isDirectory directory p
    let childrenOf (p : Bytes) : List Bytes :=
      match fs.find true directory (if p = [] then ['.'] else p) with
      | .ok (place, { node := .directory, .. }) => fs.children place
      | _ => []
    let allowed (name : Bytes) : Bool :=
      name.head? ≠ some '.' || style.dots || seg.head?.any (·.1 == '.')
    let next : List Bytes :=
      if style.deep ∧ seg = [('*', false), ('*', false)] then
        found.flatMap fun p => descend 32 allowed childrenOf isDirectory (rest = []) p
      else if Glob.isActive style.extended seg then
        let glob := Glob.ofText style.extended seg
        found.flatMap fun p =>
          (childrenOf p).filterMap fun name =>
            if allowed name && Glob.holds glob name && (rest = [] || isDirectory (p ++ name)) then
              some (p ++ name ++ slash)
            else none
      else found.map (· ++ plainText seg ++ slash)
    matchSegments style fs directory rest next
where
  /-- All directories at or below a path, or all files too. -/
  descend : Nat → (Bytes → Bool) → (Bytes → List Bytes) → (Bytes → Bool) → Bool → Bytes →
      List Bytes
    | 0, _, _, _, _, _ => []
    | fuel + 1, allowed, childrenOf, isDirectory, files, p =>
      p :: ((childrenOf p).filter allowed).flatMap fun name =>
        if isDirectory (p ++ name) then
          if files then
            (p ++ name) :: (descend fuel allowed childrenOf isDirectory files (p ++ name ++ ['/'])).tail
          else descend fuel allowed childrenOf isDirectory files (p ++ name ++ ['/'])
        else if files then [p ++ name]
        else []

/-- The files that a pattern means, in order; none if it is no pattern or means no file. -/
def matchingFiles (style : PathStyle) (fs : Files) (directory : Path) (p : List Guarded) :
    List Bytes :=
  if Glob.isActive style.extended p then
    let found := matchSegments style fs directory (segments [] p) [[]]
    let found := found.filter fun f => f ≠ [] ∧ (fs.find false directory f).toOption.isSome
    found.mergeSort Files.before
  else []

end JobLauncher.Shell
