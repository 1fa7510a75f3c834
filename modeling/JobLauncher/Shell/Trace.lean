import JobLauncher.Shell.Words

/-!
# Traces

What the shell shows of the commands that it is about to run, if that is asked for.
-/

namespace JobLauncher.Shell

/-- A word as a trace shows it. -/
def tracedWord (t : Bytes) : Bytes :=
  if t = [] then [apostrophe, apostrophe]
  else if Spelling.needsQuotes t then Spelling.betweenApostrophes t
  else if t.any Spelling.isHidden then Spelling.withEscapes t
  else t

/-- A word as the shell shows it in a trace. -/
def shownWord (t : Bytes) : Act Bytes := do
  match (← get).dialect with
  | .full => return tracedWord t
  | .plain => return t

/-- Shows a line before it is run, if that is asked for. -/
def trace (go : Perform) (line : Bytes) : Act Unit := do
  let m ← get
  if m.has "xtrace" then
    let mark ← textOfWord go (Word.ofText .double ((m.textNamed? "PS4").getD []))
    -- the first character is repeated for every level
    let mark := List.replicate m.depth (mark.headD '+') ++ mark
    modify fun m' => { m' with status := m.status }
    warn (mark ++ line ++ ['\n'])

/-- Notes the text of the command at hand. While a trap runs it stays that of the command before. -/
def noteText (text : Bytes) : Act Unit := modify fun m =>
  if m.trapping ∨ m.ending then m else { m with command := text }

end JobLauncher.Shell
