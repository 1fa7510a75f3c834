import JobLauncher.Proofs.Shell.Reading
import JobLauncher.Remote

/-!
# Commands arrive as they were given

A command on a machine is read twice. The near shell reads the line of the SSH tool, and the far
shell reads what that line hands it as the command. The line is the far line, escaped between double
quotes (`shellCommand_eq_escape`), so what the near shell hands over is the far line itself, and
both lines are nothing but words (`words?_farLine`).

> `sshCommand_arrives`: the near shell reads the words of the tool, the machine and one command, and
> the far shell reads from that command the words that run it, each text of the caller being one
> word or the rest of one.
-/

namespace JobLauncher.Shell

theorem escape_append (a b : String) : escape (a ++ b) = escape a ++ escape b := by
  simp [escape, escapeChars]

/-- Nothing is escaped where nothing is live. -/
theorem escapeChars_inert {cs : List Char} (h : cs.any isLiveInQuotes = false) :
    escapeChars cs = cs := by
  induction cs with
  | nil => rfl
  | cons c cs ih =>
    obtain ⟨hc, hcs⟩ := Bool.or_eq_false_iff.mp (List.any_cons ▸ h)
    rw [escapeChars_cons_inert cs hc, ih hcs]

/-- A beginning without marks is left as it is. -/
theorem escape_inert_append {a : String} (h : a.toList.any isLiveInQuotes = false) (b : String) :
    escape (a ++ b) = a ++ escape b := by
  rw [escape_append]
  exact congrArg (· ++ escape b) (by rw [escape, escapeChars_inert h, String.ofList_toList])

theorem toList_escape (s : String) : (escape s).toList = escapeChars s.toList :=
  String.toList_ofList

theorem toList_quote (s : String) : (quote s).toList = quoteChars s.toList :=
  String.toList_ofList

/-- A word of safe characters as it is written, and what it stands for. -/
def bareWord (w : String) : List Char × String := (w.toList, w)

/-- A word that ends in a quoted text, as it is written, and what it stands for. -/
def quotedWord (start s : String) : List Char × String := ((start ++ quote s).toList, start ++ s)

theorem contributes_bareWord {w : String} (h : w.toList ≠ [] ∧ w.toList.all isSafe = true) :
    Contributes (bareWord w).1 (bareWord w).2.toList :=
  contributes_safe h.1 (List.all_eq_true.mp h.2)

/-- A safe beginning and a quoted text are read as one word. -/
theorem contributes_quotedWord {start : String} (h : start.toList.all isSafe = true) (s : String) :
    Contributes (quotedWord start s).1 (quotedWord start s).2.toList := by
  rw [quotedWord, String.toList_append, String.toList_append, toList_quote]
  by_cases hstart : start.toList = []
  · rw [hstart]
    exact contributes_quoteChars s.toList
  · exact (contributes_safe hstart (List.all_eq_true.mp h)).append (contributes_quoteChars s.toList)

/-- A text as it is written is some safe characters and a quoted text, and it stands for both. -/
def IsQuotedWord (p : List Char × String) : Prop :=
  ∃ start s : String, start.toList.all isSafe = true ∧ p = quotedWord start s

/-- A word of safe characters is its own quoted text. -/
theorem isQuotedWord_bareWord {w : String} (h : w.toList ≠ [] ∧ w.toList.all isSafe = true) :
    IsQuotedWord (bareWord w) := by
  have hquote : quote w = w := by
    rw [quote, quoteChars, if_pos h, String.ofList_toList]
  refine ⟨"", w, rfl, ?_⟩
  rw [bareWord, quotedWord, hquote, String.empty_append]

theorem IsQuotedWord.contributes {p : List Char × String} (h : IsQuotedWord p) :
    Contributes p.1 p.2.toList := by
  obtain ⟨start, s, hstart, rfl⟩ := h
  exact contributes_quotedWord hstart s

/-- What is escaped between double quotes goes on with the word before them. -/
theorem contributes_escaped {start opening : String}
    (hstart : start.toList ≠ [] ∧ start.toList.all isSafe = true)
    (hopening : opening.toList = start.toList ++ ['"']) (s : String) :
    Contributes (opening ++ escape s ++ "\"").toList (start ++ s).toList := by
  have hwritten : (opening ++ escape s ++ "\"").toList
      = start.toList ++ (['"'] ++ escapeChars s.toList ++ ['"']) := by
    rw [String.toList_append, String.toList_append, toList_escape, hopening]
    simp
  rw [hwritten, String.toList_append]
  exact (contributes_bareWord hstart).append (contributes_doubleQuoted s.toList)

end JobLauncher.Shell

namespace JobLauncher.Remote

open Shell

/-- The command that a login shell of the superuser runs, as the far shell gets it. -/
def loginLine (cmd : String) : String := "sudo -i bash -c " ++ quote (inWorkDir cmd)

/-- The line of the far shell, as the far shell gets it. -/
def farLine (cmd : String) : Option String → String
  | none => loginLine cmd
  | some s => "sudo screen -dmS " ++ quote s ++ " " ++ loginLine cmd

/-- What stands between the double quotes of the near line is the far line, escaped. -/
theorem shellCommand_eq_escape (cmd : String) (session : Option String) :
    shellCommand cmd session = escape (farLine cmd session) := by
  have hlogin : escape (loginLine cmd) = "sudo -i bash -c " ++ quoteForRemote (inWorkDir cmd) :=
    escape_inert_append (by decide) _
  cases session with
  | none => exact hlogin.symm
  | some s =>
    have hscreen : escape ("sudo screen -dmS " ++ quote s)
        = "sudo screen -dmS " ++ quoteForRemote s :=
      escape_inert_append (by decide) _
    have hblank (t : String) : escape (t ++ " ") = escape t ++ " " := escape_append t " "
    show "sudo screen -dmS " ++ quoteForRemote s ++ " "
        ++ ("sudo -i bash -c " ++ quoteForRemote (inWorkDir cmd))
      = escape ("sudo screen -dmS " ++ quote s ++ " " ++ loginLine cmd)
    rw [escape_append, hlogin, hblank, hscreen]

/-- The words of the far line, each as it is written and what it stands for. -/
def farParts (cmd : String) (session : Option String) : List (List Char × String) :=
  (match session with
    | none => []
    | some s => [bareWord "sudo", bareWord "screen", bareWord "-dmS", quotedWord "" s])
  ++ [bareWord "sudo", bareWord "-i", bareWord "bash", bareWord "-c", quotedWord "" (inWorkDir cmd)]

/-- The words for the shell at the other end mean what they are meant to. -/
theorem contributes_farParts (cmd : String) (session : Option String) :
    ∀ p ∈ farParts cmd session, Contributes p.1 p.2.toList := by
  have hquoted (s : String) : Contributes (quotedWord "" s).1 (quotedWord "" s).2.toList :=
    contributes_quotedWord (by decide) s
  cases session with
  | none =>
    simp only [farParts, List.nil_append, List.forall_mem_cons]
    exact ⟨contributes_bareWord (by decide), contributes_bareWord (by decide),
      contributes_bareWord (by decide), contributes_bareWord (by decide), hquoted _,
      List.forall_mem_nil _⟩
  | some s =>
    simp only [farParts, List.cons_append, List.nil_append, List.forall_mem_cons]
    exact ⟨contributes_bareWord (by decide), contributes_bareWord (by decide),
      contributes_bareWord (by decide), hquoted _, contributes_bareWord (by decide),
      contributes_bareWord (by decide), contributes_bareWord (by decide),
      contributes_bareWord (by decide), hquoted _, List.forall_mem_nil _⟩

/-- The line for that shell is these words with blanks between them. -/
theorem toList_farLine (cmd : String) (session : Option String) :
    (farLine cmd session).toList = spaced ((farParts cmd session).map (·.1)) := by
  have hlogin : (loginLine cmd).toList = spaced ((farParts cmd none).map (·.1)) := by
    rw [loginLine, String.toList_append]
    simp [spaced, List.intercalate, farParts, bareWord, quotedWord]
  cases session with
  | none => exact hlogin
  | some s =>
    have hsplit : spaced ((farParts cmd (some s)).map (·.1))
        = "sudo screen -dmS ".toList ++ (quote s).toList
          ++ ' ' :: spaced ((farParts cmd none).map (·.1)) := by
      simp [spaced, List.intercalate, farParts, bareWord, quotedWord]
    show ("sudo screen -dmS " ++ quote s ++ " " ++ loginLine cmd).toList = _
    rw [hsplit, ← hlogin]
    simp

/-- The far shell reads the words that run the command. -/
theorem words?_farLine (cmd : String) (session : Option String) :
    words? (farLine cmd session).toList = some ((farParts cmd session).map (·.2)) := by
  rw [toList_farLine]
  exact words?_spaced (contributes_farParts cmd session) (by simp [farParts])

/-- The words of the near line after those of the tool, each as it is written and what it stands
for. -/
def nearParts (target : Target) (far : String) : List (List Char × String) :=
  [bareWord "-q", bareWord "ssh", quotedWord "" target.name,
    quotedWord "--project=" target.project, quotedWord "--zone=" target.zone,
    (("--command=\"" ++ escape far ++ "\"").toList, "--command=" ++ far)]

theorem contributes_nearParts (target : Target) (far : String) :
    ∀ p ∈ nearParts target far, Contributes p.1 p.2.toList := by
  simp only [nearParts, List.forall_mem_cons]
  exact ⟨contributes_bareWord (by decide), contributes_bareWord (by decide),
    contributes_quotedWord (by decide) _, contributes_quotedWord (by decide) _,
    contributes_quotedWord (by decide) _,
    contributes_escaped (by decide) (by decide) far, List.forall_mem_nil _⟩

/-- The whole line is the tool and these words, with blanks between them. -/
theorem toList_sshCommand (target : Target) (cmd : String) (session : Option String) :
    (sshCommand target cmd session).toList = target.tool.toList ++ [' ']
      ++ spaced ((nearParts target (farLine cmd session)).map (·.1)) := by
  have hsplit (far : String) : spaced ((nearParts target far).map (·.1))
      = "-q ssh ".toList ++ (quote target.name).toList
        ++ " --project=".toList ++ (quote target.project).toList
        ++ " --zone=".toList ++ (quote target.zone).toList
        ++ " --command=\"".toList ++ (escape far).toList ++ "\"".toList := by
    simp [spaced, List.intercalate, nearParts, bareWord, quotedWord]
  rw [hsplit, sshCommand, shellCommand_eq_escape]
  simp

/-- A command arrives as it was given: the near shell reads the words of the tool, then the machine,
and one more word that holds the command, and from that the far shell reads the words that run it.
-/
theorem sshCommand_arrives (target : Target) (cmd : String) (session : Option String)
    (htool : ∀ c ∈ target.tool.toList, isSafe c = true ∨ isBlank c = true) :
    ∃ far, words? (sshCommand target cmd session).toList
        = some (bareWords target.tool.toList ++ ["-q", "ssh", target.name,
            "--project=" ++ target.project, "--zone=" ++ target.zone, "--command=" ++ far])
      ∧ words? far.toList
        = some ((match session with
            | none => []
            | some s => ["sudo", "screen", "-dmS", s])
          ++ ["sudo", "-i", "bash", "-c", "pushd /root && " ++ cmd]) := by
  refine ⟨farLine cmd session, ?_, ?_⟩
  · rw [toList_sshCommand,
      words?_bare_spaced htool (contributes_nearParts target _) (List.cons_ne_nil _ _)]
    simp [nearParts, bareWord, quotedWord]
  · rw [words?_farLine]
    cases session with
    | none => simp [farParts, bareWord, quotedWord, inWorkDir, workDir]
    | some s => simp [farParts, bareWord, quotedWord, inWorkDir, workDir]

/-- A machine, a session and a command that are written to be misread. -/
theorem sshCommand_arrives_hostile :
    (∀ c ∈ "gcloud  alpha compute".toList, isSafe c = true ∨ isBlank c = true) ∧
    ∃ far, words? (sshCommand ⟨"gcloud  alpha compute", "vm 1; touch x", "$(id)", ""⟩
          "it's \"$HOME\" \\\n#" (some "'\x60s")).toList
        = some ["gcloud", "alpha", "compute", "-q", "ssh", "vm 1; touch x", "--project=$(id)",
            "--zone=", "--command=" ++ far]
      ∧ words? far.toList
        = some ["sudo", "screen", "-dmS", "'\x60s", "sudo", "-i", "bash", "-c",
            "pushd /root && it's \"$HOME\" \\\n#"] := by
  have hall : ("gcloud  alpha compute".toList.all fun c => isSafe c || isBlank c) = true := by
    decide
  have htool : ∀ c ∈ "gcloud  alpha compute".toList, isSafe c = true ∨ isBlank c = true :=
    fun c hc => Bool.or_eq_true_iff.mp (List.all_eq_true.mp hall c hc)
  have hwords : bareWords "gcloud  alpha compute".toList = ["gcloud", "alpha", "compute"] := by
    decide
  obtain ⟨far, hnear, hfar⟩ := sshCommand_arrives
    ⟨"gcloud  alpha compute", "vm 1; touch x", "$(id)", ""⟩ "it's \"$HOME\" \\\n#"
    (some "'\x60s") htool
  refine ⟨htool, far, ?_, hfar⟩
  rw [hnear, hwords]
  rfl

end JobLauncher.Remote
