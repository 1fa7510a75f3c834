/-!
# Quoting for the shell

`quote` writes a text so that a shell reads it back as one word, unchanged. `escape` writes a text
so that a shell reads it back unchanged between double quotes. `quoteForRemote` does both, for a
word that travels inside the double-quoted command of a tool: the near shell takes the escapes off,
the far shell takes the quotes off.

`unescape?` is the near shell's part: what a text between double quotes stands for, nothing if it
would end the quotes or be expanded.
-/

namespace JobLauncher.Shell

/-- A character that no shell interprets, wherever in a word it stands. -/
def isSafe (c : Char) : Bool :=
  c.isAlphanum || "@%+=:,./_-".toList.contains c

/-- The apostrophe, which opens and closes a text that is taken literally. -/
def apostrophe : Char := '\x27'

/-- The backquote, which opens and closes a command to be substituted. -/
def backquote : Char := '\x60'

/-- A character between apostrophes. An apostrophe cannot stand there: it closes them, stands
between double quotes, and opens them again. -/
def quoteChar (c : Char) : List Char :=
  if c = apostrophe then [apostrophe, '"', apostrophe, '"', apostrophe] else [c]

/-- The word that reads back as `cs`. A text without any character to guard is its own word; the
empty one needs its quotes to be a word at all. -/
def quoteChars (cs : List Char) : List Char :=
  if cs ≠ [] ∧ cs.all isSafe then cs
  else [apostrophe] ++ cs.flatMap quoteChar ++ [apostrophe]

/-- The word that a shell reads back as `s`. -/
def quote (s : String) : String := String.ofList (quoteChars s.toList)

/-- A character that keeps its meaning between double quotes. -/
def isLiveInQuotes (c : Char) : Bool :=
  c == '\\' || c == '"' || c == '$' || c == backquote

/-- The text that reads back as `cs` between double quotes. -/
def escapeChars (cs : List Char) : List Char :=
  cs.flatMap fun c => if isLiveInQuotes c then ['\\', c] else [c]

/-- The text that a shell reads back as `s` between double quotes. -/
def escape (s : String) : String := String.ofList (escapeChars s.toList)

/-- The word `s` for a far shell, written between the double quotes of a near one. -/
def quoteForRemote (s : String) : String := escape (quote s)

/-- What a text between double quotes stands for. A backslash guards the four characters that are
live there and joins lines; before any other character it stands for itself. A live character
without its guard has no reading here: it would end the quotes or start an expansion. -/
def unescape? : List Char → Option (List Char)
  | [] => some []
  | c :: rest =>
    if c = '\\' then
      match rest with
      | [] => none
      | d :: rest =>
        if isLiveInQuotes d then (unescape? rest).map (d :: ·)
        else if d = '\n' then unescape? rest
        else (unescape? rest).map fun read => c :: d :: read
    else if isLiveInQuotes c then none
    else (unescape? rest).map (c :: ·)

theorem unescape?_cons {c : Char} (rest : List Char) (h : isLiveInQuotes c = false) :
    unescape? (c :: rest) = (unescape? rest).map (c :: ·) := by
  have hc : c ≠ '\\' := by rintro rfl; exact absurd h (by decide)
  rw [unescape?.eq_def]
  simp [hc, h]

theorem unescape?_guarded {c : Char} (rest : List Char) (h : isLiveInQuotes c = true) :
    unescape? ('\\' :: c :: rest) = (unescape? rest).map (c :: ·) := by
  rw [unescape?.eq_def]
  simp [h]

/-- What has been escaped is read first, and then what follows it. -/
theorem unescape?_escapeChars_append (cs rest : List Char) :
    unescape? (escapeChars cs ++ rest) = (unescape? rest).map (cs ++ ·) := by
  induction cs with
  | nil => exact Option.map_id'.symm
  | cons c cs ih =>
    have split : escapeChars (c :: cs) ++ rest
        = (if isLiveInQuotes c then ['\\', c] else [c]) ++ (escapeChars cs ++ rest) :=
      List.append_assoc ..
    by_cases h : isLiveInQuotes c = true
    · simp [split, h, unescape?_guarded _ h, ih, Function.comp_def]
    · simp only [Bool.not_eq_true] at h
      simp [split, h, unescape?_cons _ h, ih, Function.comp_def]

theorem unescape?_escapeChars (cs : List Char) : unescape? (escapeChars cs) = some cs := by
  have happend := unescape?_escapeChars_append cs []
  rw [List.append_nil] at happend
  simpa [unescape?] using happend

example : quote "it's" = "'it'\"'\"'s'" := by decide +kernel
example : quoteForRemote "a $b" = "'a \\$b'" := by decide +kernel

end JobLauncher.Shell
