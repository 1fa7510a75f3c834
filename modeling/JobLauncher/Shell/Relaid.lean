import JobLauncher.Shell.Script

/-!
# Lines of scripts in words

A script between parentheses in a word is run as if it had been laid out: every body has lines of its
own, and lines with nothing on them do not count. `Script.relaid` numbers the commands of a script
that way.
-/

namespace JobLauncher.Shell

/-- How many lines end in a text. -/
def lineEnds (t : Bytes) : Nat := t.count '\n'

/-- How many lines the words of redirections take up, with the documents that follow them. -/
def Redirection.extraLines (r : Redirection) : Nat :=
  match r.kind with
  | .document => lineEnds r.target.source + 2
  | _ => lineEnds r.target.source

/-- Counts of lines taken together. -/
def allLines (counts : List Nat) : Nat := counts.foldl (· + ·) 0

namespace Script

/-- The line of the first command. -/
def firstLine? : Script → Option Nat
  | .simple s => some s.line
  | .each n .. | .menu n .. | .count n .. | .select n .. | .arithmetic n _ | .test n _ => some n
  | .redirected s _ | .negated s | .timed _ s | .background s | .subshell s | .group s
  | .define _ s => s.firstLine?
  | .seq a b | .both a b | .either a b | .pipe a b => a.firstLine?.or b.firstLine?
  | .loop _ c b => c.firstLine?.or b.firstLine?
  | .choice c yes _ => c.firstLine?.or yes.firstLine?
  | .branch _ b _ _ => b.firstLine?
  | .skip => none

/-- The line of the last command. -/
def lastLine? : Script → Option Nat
  | .simple s => some s.line
  | .arithmetic n _ | .test n _ => some n
  | .each n _ _ b | .menu n _ _ b | .count n _ _ _ b | .select n _ b => b.lastLine?.or (some n)
  | .redirected s _ | .negated s | .timed _ s | .background s | .subshell s | .group s
  | .define _ s => s.lastLine?
  | .seq a b | .both a b | .either a b | .pipe a b => b.lastLine?.or a.lastLine?
  | .loop _ c b => b.lastLine?.or c.lastLine?
  | .choice c yes no => no.lastLine?.or (yes.lastLine?.or c.lastLine?)
  | .branch _ b _ next => next.lastLine?.or b.lastLine?
  | .skip => none

/-- A simple command that begins on a line, and the line on which it ends. -/
def relaidSimple (n : Nat) (s : Simple) : Simple × Nat :=
  let parts := s.settings.map (lineEnds ·.value.source) ++ s.words.map (lineEnds ·.source)
    ++ s.redirections.map Redirection.extraLines
  ({ s with line := n + allLines (parts.take 2) }, n + allLines parts)

/-- Whether a command is on a line after another one. -/
def isBelow (b a : Script) : Bool :=
  match a.lastLine?, b.firstLine? with
  | some m, some n => decide (m < n)
  | _, _ => false

/-- A script that begins on a line, and the line on which it ends. In the body of a function every
command has a line of its own. -/
def relaid (inFunction : Bool) (n : Nat) : Script → Script × Nat
  | .skip => (.skip, n)
  | .simple s => let (s, n) := relaidSimple n s; (.simple s, n)
  | .redirected s rs =>
    let (s, n) := s.relaid inFunction n
    (.redirected s rs, n + allLines (rs.map Redirection.extraLines))
  | .seq a b =>
    let (x, k) := a.relaid inFunction n
    let parted := inFunction || b.isBelow a
    let (y, k) := b.relaid inFunction (if parted then k + 1 else k)
    (.seq x y, k)
  | .both a b =>
    let (a, n) := a.relaid inFunction n
    let (b, n) := b.relaid inFunction n
    (.both a b, n)
  | .either a b =>
    let (a, n) := a.relaid inFunction n
    let (b, n) := b.relaid inFunction n
    (.either a b, n)
  | .pipe a b =>
    let (a, n) := a.relaid inFunction n
    let (b, n) := b.relaid inFunction n
    (.pipe a b, n)
  | .negated s => let (s, n) := s.relaid inFunction n; (.negated s, n)
  | .timed bare s => let (s, n) := s.relaid inFunction n; (.timed bare s, n)
  | .background s => let (s, n) := s.relaid inFunction n; (.background s, n)
  | .subshell s => let (s, n) := s.relaid inFunction n; (.subshell s, n)
  | .group s =>
    if inFunction then let (s, n) := s.relaid true (n + 1); (.group s, n + 1)
    else let (s, n) := s.relaid false n; (.group s, n)
  | .loop opposite c b =>
    let (c, n) := c.relaid inFunction n
    let (b, n) := b.relaid inFunction (n + 1)
    (.loop opposite c b, n + 1)
  | .choice c yes no =>
    let (c, n) := c.relaid inFunction n
    let (yes, n) := yes.relaid inFunction (n + 1)
    match no with
    | .skip => (.choice c yes .skip, n + 1)
    | no =>
      let (no, n) := no.relaid inFunction (n + 2)
      (.choice c yes no, n + 1)
  | .each _ name ws b =>
    let (b, k) := b.relaid inFunction (n + 2)
    (.each n name ws b, k + 1)
  | .menu _ name ws b =>
    let (b, k) := b.relaid inFunction (n + 2)
    (.menu n name ws b, k + 1)
  | .count _ first c next b =>
    let (b, k) := b.relaid inFunction (n + 2)
    (.count n first c next b, k + 1)
  | .select _ subject bs =>
    let (bs, k) := bs.relaid inFunction n
    (.select n subject bs, k + 1)
  | .branch ps b ending next =>
    let (b, n) := b.relaid inFunction (n + 2)
    let (next, n) := next.relaid inFunction (n + 1)
    (.branch ps b ending next, n)
  | .arithmetic _ e => (.arithmetic n e, n + lineEnds e)
  | .test _ t => (.test n t, n)
  | .define name b => let (b, n) := b.relaid true (n + 1); (.define name b, n)

end Script

end JobLauncher.Shell
