import JobLauncher.Shell.Grammar.Test

/-!
# The grammar of commands

`nextLine` takes one complete line off the tokens of a script; a line is complete where every
command that it begins has ended.
-/

namespace JobLauncher.Shell.Grammar

/-- Words that mean nothing to the plain shell. -/
def fullKeywords : List String := ["[[", "function", "select", "time", "coproc"]

/-- Words that are no commands where a command is expected. -/
def closers : List String :=
  ["then", "else", "elif", "fi", "do", "done", "\x7d", "esac", "in", "]]"]

/-- The line of what follows the first part of a simple command. -/
def Simple.started (s : Simple) : Bool :=
  s.settings ≠ [] ∨ s.words ≠ [] ∨ s.redirections ≠ []

/-- Reads a simple command on. -/
def simpleFrom : Nat → Simple → Parse Simple
  | 0, s => return s
  | fuel + 1, s => do
    let next ← match ← redirection? with
      | some r => pure (some { s with redirections := s.redirections ++ [r] })
      | none =>
        match ← peek with
        | some (.word w) =>
          advance
          match if s.words = [] then w.setting? else none with
          | some setting => pure (some { s with settings := s.settings ++ [setting] })
          | none => pure (some { s with words := s.words ++ [w] })
        | _ => pure none
    match next with
    | none => return s
    | some next =>
      let n ← line
      simpleFrom fuel (if Simple.started s then next else { next with line := n })

/-- What ends the words of a `for` command. -/
def endWords : Parse Unit := do
  match ← peek with
  | some .newline | some (.operator ";") => advance
  | none => pure ()
  | _ => refuse

/-- Reads words. -/
def words : Nat → Parse (List Word)
  | 0 => return []
  | fuel + 1 => do
    match ← peek with
    | some (.word w) =>
      advance
      return w :: (← words fuel)
    | _ => return []

/-- The words of a `for` command that names none: the arguments of the script. -/
def allArguments : List Word := [{ parts := [.quote, .parameter true ['@']] }]

/-- Reads the words of a `for` command. -/
def loopWords (fuel : Nat) : Parse (List Word) := do
  let ended ← accept ";"
  skipLines
  if (← keyword?) == some "in" && !ended then
    advance
    let ws ← words fuel
    endWords
    skipLines
    return ws
  else
    skipLines
    return allArguments

/-- Reads the patterns of a branch, the first of which may follow a parenthesis. -/
def patterns : Nat → Parse (List Word)
  | 0 => refuse
  | fuel + 1 => do
    let w ← word
    if ← accept "|" then return w :: (← patterns fuel)
    else
      expectOperator ")"
      return [w]

/-- What ends a branch. -/
def ending? : Parse (Option Ending) := do
  if ← accept ";;" then return some .stop
  else if ← accept ";&" then return some .fall
  else if ← accept ";;&" then return some .retry
  else return none

/-- The parts of an expression between single semicolons. -/
def countParts (expression : List Char) : List (List Char) := splitAt ';' expression

/-- A command may begin with the next token. -/
def canBegin : Parse Bool := do
  match ← peek with
  | none | some .newline => return false
  | some (.operator op) => return op = "(" || isArrow op
  | some t => return !t.keyword?.any closers.contains

/-- Refuses two parentheses that begin an expression where it does not end; `text` is what follows
the first one. What is near is the end of the line up to the character after the next one. -/
def nearPair (n : Nat) (text : List Char) : SyntaxFault :=
  let after := (Frame.afterPair? text).getD []
  let pair := text.take (text.length - after.length)
  let seen := ('(' :: pair ++ after.take 2).reverse.dropWhile isBlankOrEnd
  let isSeparator (c : Char) : Bool := ";|&".toList.contains c
  let (near, before) := seen.span fun c => !(isBlankOrEnd c || isSeparator c)
  let separator := before.head?.filter isSeparator
  .near [] (String.ofList (separator.toList ++ near.reverse)) (n + pair.count '\n')

mutual

/-- Reads a command. -/
def command : Nat → Parse Script
  | 0 => refuse
  | fuel + 1 => do
    match ← compound? fuel with
    | some s => trailing fuel s
    | none =>
      match ← peek with
      | some (.word w) =>
        if (w.bare?.map String.ofList).any closers.contains then refuse
        else simple fuel
      | some (.number _) | some (.holder _) => simple fuel
      | some (.operator op) => if isArrow op then simple fuel else refuse
      | _ => refuse

/-- Reads a simple command. A word and a pair of parentheses begin a function. -/
def simple : Nat → Parse Script
  | 0 => refuse
  | fuel + 1 => do
    let s ← simpleFrom (2 * fuel) { line := ← line }
    match s with
    | { settings := [], words := [w], redirections := [], .. } =>
      if ← accept "(" then
        expectOperator ")"
        define fuel w.source
      else return .simple s
    | _ =>
      if (← peek) == some (.operator "(") then refuse else return .simple s

/-- Reads the body of a function. -/
def define : Nat → List Char → Parse Script
  | 0, _ => refuse
  | fuel + 1, name => do
    skipLines
    match ← compound? fuel with
    | some body => return .define name (← trailing fuel body)
    | none => refuse

/-- Reads a command that has a body, if one comes next. -/
def compound? : Nat → Parse (Option Script)
  | 0 => refuse
  | fuel + 1 => do
    let n ← line
    match ← peek with
    | some (.operator "(") =>
      advance
      let body ← list fuel ")"
      expectOperator ")"
      return some (.subshell body)
    | some (.group script closed) =>
      advance
      return some (.subshell (← nested fuel (n - script.count '\n') script closed))
    | some (.arithmetic e) =>
      advance
      return some (.arithmetic n e)
    | some t =>
      let plain := (← get).plain
      match t.keyword?.filter fun k => !(plain && fullKeywords.contains k) with
      | some "\x7b" =>
        advance
        let body ← list fuel "\x7d"
        expect "\x7d"
        return some (.group body)
      | some "while" =>
        advance
        return some (← loop fuel false)
      | some "until" =>
        advance
        return some (← loop fuel true)
      | some "if" =>
        advance
        return some (← choice fuel)
      | some "for" =>
        advance
        return some (← each fuel false)
      | some "select" =>
        advance
        return some (← each fuel true)
      | some "case" =>
        advance
        return some (← select fuel)
      | some "[[" =>
        advance
        return some (.test n (← test fuel))
      | some "function" =>
        advance
        let w ← word
        if ← accept "(" then expectOperator ")"
        return some (← define fuel w.source)
      | _ => return none
    | none => return none

/-- Reads the script inside parentheses that stand inside parentheses. -/
def nested : Nat → Nat → List Char → Bool → Parse Script
  | 0, _, _, _ => refuse
  | fuel + 1, n, text, closed => do
    if !closed then
      if let some rest := Frame.afterPair? text then
        if rest = [] ∨ rest = ['\n'] then throw (nearPair n text)
    let outer ← get
    set { outer with rest := codeTokens {} n text }
    let body ← list fuel ")"
    skipLines
    unless (← peek).isNone && closed do refuse
    set outer
    return body

/-- Reads what follows `while` or `until`. -/
def loop : Nat → Bool → Parse Script
  | 0, _ => refuse
  | fuel + 1, opposite => do
    let condition ← list fuel "do"
    return .loop opposite condition (← body fuel)

/-- Reads the body of a loop. -/
def body : Nat → Parse Script
  | 0 => refuse
  | fuel + 1 => do
    expect "do"
    let s ← list fuel "done"
    expect "done"
    return s

/-- Reads the body of a `for` command, which may also be in braces. -/
def eachBody : Nat → Parse Script
  | 0 => refuse
  | fuel + 1 => do
    if (← keyword?) == some "\x7b" then
      advance
      let s ← list fuel "\x7d"
      expect "\x7d"
      return s
    else body fuel

/-- Reads what follows `if` or `elif`. -/
def choice : Nat → Parse Script
  | 0 => refuse
  | fuel + 1 => do
    let condition ← list fuel "then"
    expect "then"
    let yes ← list fuel "fi"
    match ← keyword? with
    | some "fi" =>
      advance
      return .choice condition yes .skip
    | some "else" =>
      advance
      let no ← list fuel "fi"
      expect "fi"
      return .choice condition yes no
    | some "elif" =>
      advance
      return .choice condition yes (← choice fuel)
    | _ => refuse (some "fi")

/-- Reads what follows `for` or `select`. -/
def each : Nat → Bool → Parse Script
  | 0, _ => refuse
  | fuel + 1, chooses => do
    let n ← line
    match ← peek, chooses with
    | some (.arithmetic e), false =>
      advance
      match countParts e with
      | [first, condition, next] =>
        let _ ← accept ";"
        skipLines
        return .count n first condition next (← eachBody fuel)
      | _ =>
        throw { said := [(n, "syntax error: arithmetic expression required"),
          (n, "syntax error: \x60((" ++ String.ofList e ++ "))'")] }
    | some (.group text _), false => throw (nearPair (n - text.count '\n') text)
    | _, _ =>
      let next := (← peek).bind Token.keyword?
      if (← get).plain && !next.any fun k => isName k.toList then
        throw { said := [], plain := "Bad for loop variable" }
      let name ← word
      let ws ← loopWords fuel
      let body ← eachBody fuel
      if chooses then return .menu n name.source ws body
      else return .each n name.source ws body

/-- Reads what follows `case`. -/
def select : Nat → Parse Script
  | 0 => refuse
  | fuel + 1 => do
    let n ← line
    let subject ← word
    skipLines
    expect "in"
    skipLines
    return .select n subject (← branches fuel)

/-- Reads the branches of a `case` command. -/
def branches : Nat → Parse Script
  | 0 => refuse
  | fuel + 1 => do
    skipLines
    if (← keyword?) == some "esac" then
      advance
      return .skip
    else
      let _ ← accept "("
      if (← peek).isNone then refuse (some ")")
      let ps ← patterns fuel
      skipLines
      let body ← if ← canBegin then list fuel ";;" else pure .skip
      branchFrom fuel ps body

/-- Reads what follows the body of a branch. -/
def branchFrom : Nat → List Word → Script → Parse Script
  | 0, _, _ => refuse
  | fuel + 1, ps, body => do
    skipLines
    match ← ending? with
    | some ending => return .branch ps body ending (← branches fuel)
    | none =>
      expect "esac"
      return .branch ps body .stop .skip

/-- Reads commands joined by pipes. -/
def pipeline : Nat → Parse Script
  | 0 => refuse
  | fuel + 1 => do
    let plain := (← get).plain
    match (← keyword?).filter fun k => !(plain && fullKeywords.contains k) with
    | some "!" =>
      advance
      match ← peek with
      | none | some .newline | some (.operator ";") => return .negated .skip
      | _ => return .negated (← pipeline fuel)
    | some "time" =>
      advance
      let bare := (← keyword?) == some "-p"
      if bare then advance
      match ← peek with
      | none | some .newline | some (.operator ";") => return .timed bare .skip
      | _ => return .timed bare (← pipeline fuel)
    | some "coproc" =>
      advance
      return .background (← command fuel)
    | _ =>
      let a ← command fuel
      if ← accept "|" then
        skipLines
        return .pipe a (← pipeline fuel)
      else if ← accept "|&" then
        skipLines
        let join : Redirection := ⟨.number 2, .joinOutput, Word.literal ['1']⟩
        return .pipe (.redirected a [join]) (← pipeline fuel)
      else return a

/-- Reads pipelines joined by `&&` and `||`, the first of which is `a`. -/
def joined : Nat → Script → Parse Script
  | 0, _ => refuse
  | fuel + 1, a => do
    if ← accept "&&" then
      skipLines
      joined fuel (.both a (← pipeline fuel))
    else if ← accept "||" then
      skipLines
      joined fuel (.either a (← pipeline fuel))
    else return a

/-- Reads one command after another, over several lines if `lines`, up to one that cannot begin
here. -/
def listFrom : Nat → Bool → Parse Script
  | 0, _ => refuse
  | fuel + 1, lines => do
    let a ← joined fuel (← pipeline fuel)
    let (a, more) ← match ← peek with
      | some (.operator ";") => do
        advance
        pure (a, true)
      | some (.operator "&") => do
        advance
        pure (Script.background a, true)
      | some .newline => pure (a, lines)
      | _ => pure (a, false)
    if lines then skipLines
    if more && (← canBegin) then return .seq a (← listFrom fuel lines)
    else return a

/-- Reads the commands inside another one, which a word ends; there has to be one. -/
def list : Nat → String → Parse Script
  | 0, _ => refuse
  | fuel + 1, closer => do
    skipLines
    if (← peek).isNone then refuse (some closer)
    listFrom fuel true

end

/-- Reads the commands of the next line, if there is one. What follows has to be its end. -/
def lineAlone : Parse (Option Script) := do
  skipLines
  let fuel := 8 * (← get).rest.length + 8
  match ← peek with
  | none => return none
  | _ =>
    let s ← listFrom fuel false
    match ← peek with
    | none => return some s
    | some .newline =>
      advance
      return some s
    | _ => refuse

/-- Checks a script between parentheses, which ends where they do. -/
def checkInside (plain : Bool) (check : Token → Nat → Except SyntaxFault Unit) (n : Nat)
    (text : List Char) : Except SyntaxFault Unit := do
  let ts := codeTokens { plain } n text
  let last := n + text.count '\n'
  let state : State := { rest := ts ++ [(.operator ")", last)], endLine := last, plain }
  let read : Parse Unit := do
    skipLines
    unless ← accept ")" do
      let _ ← list (8 * ts.length + 8) ")"
      expectOperator ")"
  match read.run state with
  | .ok _ => ts.forM fun t => check t.1 t.2
  | .error e => throw { e with status := 127 }

/-- Checks the scripts and the lists in a token, which ends on a line. -/
def check (plain : Bool) : Nat → Token → Nat → Except SyntaxFault Unit
  | 0, _, _ => pure ()
  | fuel + 1, .word w, n =>
    w.parts.forM fun
      | .output _ false text => checkInside plain (check plain fuel) (n - text.count '\n') text
      | .process _ text => checkInside plain (check plain fuel) (n - text.count '\n') text
      | .items text => checkItems (n - text.count '\n') text
      | _ => pure ()
  | _, _, _ => pure ()

/-- Reads the commands of the next line and checks what is inside their words. -/
def nextLine : Parse (Option Script) := do
  let before ← get
  let s ← lineAlone
  let used := before.rest.take (before.rest.length - (← get).rest.length)
  match used.forM fun t => check before.plain 100 t.1 t.2 with
  | .ok _ => return s
  | .error e => throw e

/-- The state before a script that begins at a line. A last line without an end is given one. -/
def State.ofText (f : Flavour) (first : Nat) (text : List Char) : State :=
  let ts := codeTokens f first text
  let last := first + text.count '\n'
  if f.plain then { rest := ts, endLine := last, plain := true }
  else match ts.getLast? with
  | some (.unclosed _, _) => { rest := ts, endLine := last + 1 }
  | _ =>
    if text.getLast? = some '\n' then { rest := ts, endLine := last }
    else { rest := ts ++ [(.newline, last)], endLine := last + 1 }

end JobLauncher.Shell.Grammar
