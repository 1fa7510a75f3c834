import JobLauncher.Docker
import JobLauncher.Proofs.Shell.Delivery
import JobLauncher.Proofs.Shell.Kept
import JobLauncher.Proofs.Text.ByteOrder

/-!
# Commands arrive in containers

The line that starts a container is one for the far shell, escaped between double quotes as the
command on a machine is. Its parts are escaped one by one, and since escaping and putting blanks
between words can be done in either order (`escapeChars_spaced`), the line as a whole is the escape
of a line of words (`runCommand_eq_escape`).

> `runCommand_arrives`: sent as the command of the SSH tool, the line arrives at the far shell as
> the words that start the container, each text of the caller being one word or the rest of one.

Flags are not quoted, so a flag can be several words, or spoil the line. What stands before them is
read all the same, and is the start of whatever is read (`isPrefix_of_runCommand`).
-/

namespace JobLauncher.Shell

@[simp] theorem spaced_singleton (w : Bytes) : spaced [w] = w := List.append_nil w

@[simp] theorem spaced_cons_cons (w v : Bytes) (ws : List Bytes) :
    spaced (w :: v :: ws) = w ++ ' ' :: spaced (v :: ws) := rfl

theorem spaced_cons (w : Bytes) {ws : List Bytes} (h : ws ≠ []) :
    spaced (w :: ws) = w ++ ' ' :: spaced ws := by
  obtain ⟨v, ws, rfl⟩ := List.exists_cons_of_ne_nil h
  exact spaced_cons_cons w v ws

theorem spaced_append {us ws : List Bytes} (hus : us ≠ []) (hws : ws ≠ []) :
    spaced (us ++ ws) = spaced us ++ ' ' :: spaced ws := by
  induction us with
  | nil => exact absurd rfl hus
  | cons u us ih =>
    have hcons : spaced (u :: (us ++ ws)) = u ++ ' ' :: spaced (us ++ ws) :=
      spaced_cons u (List.append_ne_nil_of_right_ne_nil us hws)
    by_cases hnil : us = []
    · subst hnil
      rw [spaced_singleton]
      exact hcons
    · rw [List.cons_append, hcons, ih hnil, spaced_cons u hnil, List.append_assoc]
      rfl

/-- Groups of words with blanks within and between them are the words with blanks between them. -/
theorem spaced_map_spaced {gs : List (List Bytes)} (h : ∀ g ∈ gs, g ≠ []) :
    spaced (gs.map spaced) = spaced gs.flatten := by
  induction gs with
  | nil => rfl
  | cons g gs ih =>
    have hrest := ih fun g' hg' => h g' (List.mem_cons_of_mem g hg')
    cases gs with
    | nil => simp
    | cons g' gs =>
      have hg' : g' ≠ [] := h g' (List.mem_cons_of_mem g List.mem_cons_self)
      have hflatten : (g' :: gs).flatten ≠ [] := by simp [hg']
      rw [List.flatten_cons, spaced_append (h g List.mem_cons_self) hflatten, ← hrest]
      rfl

/-- Blanks are not escaped, so a line is escaped word by word. -/
theorem escapeChars_spaced (ws : List Bytes) :
    escapeChars (spaced ws) = spaced (ws.map escapeChars) := by
  induction ws with
  | nil => rfl
  | cons w ws ih =>
    cases ws with
    | nil => simp
    | cons v ws =>
      have hblank (rest : Bytes) : escapeChars (w ++ ' ' :: rest)
          = escapeChars w ++ ' ' :: escapeChars rest := List.flatMap_append
      rw [spaced_cons_cons, hblank, ih]
      rfl

/-- Texts that are joined with blanks are words with blanks between them. -/
theorem toList_join (ps : List String) :
    (Text.join " " ps).toList = spaced (ps.map String.toList) := by
  induction ps with
  | nil => rfl
  | cons p ps ih =>
    cases ps with
    | nil => simp [Text.join]
    | cons q ps =>
      have hsplit : Text.join " " (p :: q :: ps) = p ++ " " ++ Text.join " " (q :: ps) := rfl
      rw [hsplit, String.toList_append, String.toList_append, ih, List.append_assoc]
      rfl

/-- A text that contributes to a word is one word where nothing stands around it. -/
theorem words?_of_contributes {w : List Char} {t : String} (h : Contributes w t.toList) :
    words? w = some [t] := by
  have hone : ∀ p ∈ [(w, t)], Contributes p.1 p.2.toList := List.forall_mem_singleton.mpr h
  have hread := words?_spaced hone (List.cons_ne_nil _ _)
  rwa [List.map_singleton, spaced_singleton] at hread

end JobLauncher.Shell

namespace JobLauncher.Docker

open Shell

/-- Words of an option as they are written and what they stand for: some as they are, and one that
ends in a quoted text. -/
def optionWords (bares : List String) (opening s : String) : List (List Char × String) :=
  bares.map bareWord ++ [quotedWord opening s]

/-- An option is written in quoted words: the words that stand for it and the value. -/
theorem isQuotedWord_optionWords {bares : List String} {opening : String}
    (hbares : ∀ w ∈ bares, w.toList ≠ [] ∧ w.toList.all isSafe = true)
    (hopening : opening.toList.all isSafe = true) (s : String) :
    ∀ p ∈ optionWords bares opening s, IsQuotedWord p := by
  intro p hp
  rcases List.mem_append.mp hp with hbare | hquoted
  · obtain ⟨w, hw, rfl⟩ := List.mem_map.mp hbare
    exact isQuotedWord_bareWord (hbares w hw)
  · exact ⟨opening, s, hopening, List.mem_singleton.mp hquoted⟩

/-- The words with which the line begins. -/
def startWords : List String :=
  ["docker", "run", "--rm", "--privileged", "-u", "root", "--network=host"]

/-- The words that start the container, in the groups in which the line writes them. -/
def runGroups (cmd : String) (options : RunOptions) : List (List (List Char × String)) :=
  [startWords.map bareWord]
    ++ (options.session.map fun s => optionWords ["-d"] "--name=" s).toList
    ++ options.env.map (fun name => optionWords ["-e"] "" name)
    ++ options.volumes.toList.map (fun v => optionWords ["-v"] "" (v.1 ++ ":" ++ v.2))
    ++ options.flags.map (fun flag => [bareWord flag])
    ++ [optionWords [] "" options.image,
        optionWords ["/bin/bash", "-c"] "" (Remote.inWorkDir cmd)]

/-- The parts of the line before the flags. -/
def leadParts (options : RunOptions) : List String :=
  ["docker run --rm --privileged -u root --network=host"]
    ++ (options.session.map fun s => "-d --name=" ++ quoteForRemote s).toList
    ++ options.env.map (fun name => "-e " ++ quoteForRemote name)
    ++ options.volumes.toList.map (fun v => "-v " ++ quoteForRemote (v.1 ++ ":" ++ v.2))

/-- The words of these parts, in groups. -/
def leadGroups (options : RunOptions) : List (List (List Char × String)) :=
  [startWords.map bareWord]
    ++ (options.session.map fun s => optionWords ["-d"] "--name=" s).toList
    ++ options.env.map (fun name => optionWords ["-e"] "" name)
    ++ options.volumes.toList.map (fun v => optionWords ["-v"] "" (v.1 ++ ":" ++ v.2))

/-- What these words stand for. -/
def leadWords (options : RunOptions) : List String :=
  startWords
    ++ (match options.session with
      | none => []
      | some s => ["-d", "--name=" ++ s])
    ++ options.env.flatMap (fun name => ["-e", name])
    ++ options.volumes.toList.flatMap (fun v => ["-v", v.1 ++ ":" ++ v.2])

/-- The line is what comes before the flags, the flags, and then the image and the command. -/
theorem runParts_eq (cmd : String) (options : RunOptions) : runParts cmd options
    = leadParts options ++ (options.flags
      ++ [quoteForRemote options.image,
        "/bin/bash -c " ++ quoteForRemote (Remote.inWorkDir cmd)]) :=
  List.append_assoc ..

theorem runGroups_eq (cmd : String) (options : RunOptions) : runGroups cmd options
    = leadGroups options ++ (options.flags.map (fun flag => [bareWord flag])
      ++ [optionWords [] "" options.image,
        optionWords ["/bin/bash", "-c"] "" (Remote.inWorkDir cmd)]) :=
  List.append_assoc ..

/-- No group is empty. -/
theorem ne_nil_of_mem_runGroups {cmd : String} {options : RunOptions}
    {g : List (List Char × String)} (h : g ∈ runGroups cmd options) : g ≠ [] := by
  rintro rfl
  simp [runGroups, startWords, optionWords] at h

theorem ne_nil_of_mem_leadGroups {options : RunOptions} {g : List (List Char × String)}
    (h : g ∈ leadGroups options) : g ≠ [] := by
  refine @ne_nil_of_mem_runGroups "" options g ?_
  rw [runGroups_eq]
  exact List.mem_append_left _ h

/-- What comes before the flags is written in quoted words, whatever the options. -/
theorem isQuotedWord_leadGroups (options : RunOptions) :
    ∀ g ∈ leadGroups options, ∀ p ∈ g, IsQuotedWord p := by
  have hstart : ∀ w ∈ startWords, w.toList ≠ [] ∧ w.toList.all isSafe = true := by decide
  simp only [leadGroups, List.forall_mem_append, List.forall_mem_cons, List.forall_mem_map,
    Option.mem_toList, Option.map_eq_some_iff, forall_exists_index, and_imp,
    forall_apply_eq_imp_iff₂]
  refine ⟨⟨⟨⟨?start, List.forall_mem_nil _⟩, fun s _ => ?session⟩, fun name _ => ?env⟩,
    fun v _ => ?volume⟩
  case start => exact fun w hw => isQuotedWord_bareWord (hstart w hw)
  case session => exact isQuotedWord_optionWords (by decide) (by decide) s
  case env => exact isQuotedWord_optionWords (by decide) (by decide) name
  case volume => exact isQuotedWord_optionWords (by decide) (by decide) _

/-- So is the whole line, if the flags are safe. -/
theorem isQuotedWord_runGroups {cmd : String} {options : RunOptions}
    (hflags : ∀ flag ∈ options.flags, flag.toList ≠ [] ∧ flag.toList.all isSafe = true) :
    ∀ g ∈ runGroups cmd options, ∀ p ∈ g, IsQuotedWord p := by
  simp only [runGroups_eq, List.forall_mem_append, List.forall_mem_cons, List.forall_mem_map]
  refine ⟨isQuotedWord_leadGroups options, fun flag h => ?flag, ?image, ?command,
    List.forall_mem_nil _⟩
  case flag => exact ⟨isQuotedWord_bareWord (hflags flag h), List.forall_mem_nil _⟩
  case image => exact isQuotedWord_optionWords (by decide) (by decide) _
  case command => exact isQuotedWord_optionWords (by decide) (by decide) _

/-- A group of words as it is written between the double quotes of the near shell. -/
def written (g : List (List Char × String)) : Bytes := escapeChars (spaced (g.map (·.1)))

/-- Nothing is escaped in a safe word. -/
theorem written_bareWord {w : String} (h : w.toList.all isSafe = true) :
    written [bareWord w] = w.toList :=
  (congrArg escapeChars (spaced_singleton w.toList)).trans
    (escapeChars_inert (any_isLiveInQuotes_of_isSafe h))

/-- An option is written with nothing to escape before its quoted text. -/
theorem written_optionWords {start opening : String} {bares : List String}
    (hstart : start.toList = bares.flatMap (fun w => w.toList ++ [' ']) ++ opening.toList)
    (hinert : start.toList.any isLiveInQuotes = false) (s : String) :
    written (optionWords bares opening s) = (start ++ quoteForRemote s).toList := by
  have hspaced : spaced ((optionWords bares opening s).map (·.1)) = (start ++ quote s).toList := by
    rw [String.toList_append, hstart]
    clear hstart hinert
    induction bares with
    | nil => simp [optionWords, quotedWord]
    | cons w bares ih =>
      have hne : (optionWords bares opening s).map (·.1) ≠ [] := by simp [optionWords]
      have hsplit : spaced ((optionWords (w :: bares) opening s).map (·.1))
          = w.toList ++ ' ' :: spaced ((optionWords bares opening s).map (·.1)) :=
        spaced_cons w.toList hne
      rw [hsplit, ih]
      simp
  rw [written, hspaced, quoteForRemote, ← escape_inert_append hinert, toList_escape]

/-- Each part of the line writes its group of words, -/
theorem map_toList_leadParts (options : RunOptions) :
    (leadParts options).map String.toList = (leadGroups options).map written := by
  have hstart : "docker run --rm --privileged -u root --network=host".toList
      = written (startWords.map bareWord) := by decide
  have hsession (s : String) : ("-d --name=" ++ quoteForRemote s).toList
      = written (optionWords ["-d"] "--name=" s) :=
    (written_optionWords (by decide) (by decide) s).symm
  have henv (name : String) : ("-e " ++ quoteForRemote name).toList
      = written (optionWords ["-e"] "" name) :=
    (written_optionWords (by decide) (by decide) name).symm
  have hvolume (v : String × String) : ("-v " ++ quoteForRemote (v.1 ++ ":" ++ v.2)).toList
      = written (optionWords ["-v"] "" (v.1 ++ ":" ++ v.2)) :=
    (written_optionWords (by decide) (by decide) _).symm
  simp only [leadParts, leadGroups, List.map_append, List.map_map, Function.comp_def,
    Option.toList_map, List.map_cons, List.map_nil, hstart, hsession, henv, hvolume]

/-- and so do the flags, if they are words, and what stands after them. -/
theorem map_toList_runParts {cmd : String} {options : RunOptions}
    (hflags : ∀ flag ∈ options.flags, flag.toList ≠ [] ∧ flag.toList.all isSafe = true) :
    (runParts cmd options).map String.toList = (runGroups cmd options).map written := by
  have hflag : options.flags.map String.toList
      = options.flags.map fun flag => written [bareWord flag] :=
    List.map_congr_left fun flag h => (written_bareWord (hflags flag h).2).symm
  have himage : (quoteForRemote options.image).toList
      = written (optionWords [] "" options.image) := by
    rw [@written_optionWords "" "" [] rfl rfl options.image, String.empty_append]
  have hcommand : ("/bin/bash -c " ++ quoteForRemote (Remote.inWorkDir cmd)).toList
      = written (optionWords ["/bin/bash", "-c"] "" (Remote.inWorkDir cmd)) :=
    (written_optionWords (by decide) (by decide) _).symm
  simp only [runParts_eq, runGroups_eq, List.map_append, map_toList_leadParts, List.map_map,
    Function.comp_def, List.map_cons, List.map_nil, hflag, himage, hcommand]

/-- Groups that are written one by one are their words, written together. -/
theorem spaced_map_written {gs : List (List (List Char × String))} (h : ∀ g ∈ gs, g ≠ []) :
    spaced (gs.map written) = escapeChars (spaced (gs.flatten.map (·.1))) := by
  have hgroups : ∀ g ∈ gs.map (List.map (·.1)), g ≠ [] := by
    intro g hg
    obtain ⟨g', hg', rfl⟩ := List.mem_map.mp hg
    exact fun he => h g' hg' (List.map_eq_nil_iff.mp he)
  rw [List.map_flatten, ← spaced_map_spaced hgroups, escapeChars_spaced, List.map_map, List.map_map]
  rfl

/-- The line for the far shell, as the far shell gets it. -/
def farLine (cmd : String) (options : RunOptions) : String :=
  String.ofList (spaced ((runGroups cmd options).flatten.map (·.1)))

/-- What stands between the double quotes of the near line is the far line, escaped. -/
theorem runCommand_eq_escape {cmd : String} {options : RunOptions}
    (hflags : ∀ flag ∈ options.flags, flag.toList ≠ [] ∧ flag.toList.all isSafe = true) :
    runCommand cmd options = escape (farLine cmd options) := by
  rw [← String.toList_inj, runCommand, toList_join, map_toList_runParts hflags, toList_escape,
    farLine, String.toList_ofList, spaced_map_written fun g => ne_nil_of_mem_runGroups]

/-- The far shell reads the words that start the container. -/
theorem words?_farLine {cmd : String} {options : RunOptions}
    (hflags : ∀ flag ∈ options.flags, flag.toList ≠ [] ∧ flag.toList.all isSafe = true) :
    words? (farLine cmd options).toList = some ((runGroups cmd options).flatten.map (·.2)) := by
  rw [farLine, String.toList_ofList]
  refine words?_spaced (fun p hp => ?_) (by simp [runGroups, startWords])
  obtain ⟨g, hg, hp⟩ := List.mem_flatten.mp hp
  exact (isQuotedWord_runGroups hflags g hg p hp).contributes

/-- What the words before the flags mean. -/
theorem map_snd_leadGroups (options : RunOptions) :
    (leadGroups options).flatten.map (·.2) = leadWords options := by
  cases hsession : options.session with
  | _ =>
    simp only [leadGroups, leadWords, hsession, List.flatten_append, List.map_append,
      ← List.flatMap_def, List.map_flatMap, optionWords, bareWord, quotedWord, List.map_cons,
      List.map_nil, String.empty_append]
    rfl

/-- What the words that start the container stand for. -/
theorem map_snd_runGroups (cmd : String) (options : RunOptions) :
    (runGroups cmd options).flatten.map (·.2)
      = startWords
        ++ (match options.session with
          | none => []
          | some s => ["-d", "--name=" ++ s])
        ++ options.env.flatMap (fun name => ["-e", name])
        ++ options.volumes.toList.flatMap (fun v => ["-v", v.1 ++ ":" ++ v.2])
        ++ options.flags
        ++ [options.image, "/bin/bash", "-c", "pushd /root && " ++ cmd] := by
  have hflags : (options.flags.flatMap fun flag => [flag]) = options.flags :=
    List.flatMap_singleton' options.flags
  show _ = leadWords options ++ options.flags
    ++ [options.image, "/bin/bash", "-c", "pushd /root && " ++ cmd]
  rw [runGroups_eq, List.flatten_append, List.map_append, map_snd_leadGroups, List.append_assoc]
  simp only [List.flatten_append, List.map_append, ← List.flatMap_def, List.map_flatMap,
    optionWords, bareWord, quotedWord, List.map_cons, List.map_nil, hflags, String.empty_append]
  rfl

/-- Whatever the flags are, if words can be read from the line, they begin with those before the
flags. -/
theorem isPrefix_of_runCommand {cmd : String} {options : RunOptions} {far : List Char}
    {argv : List String} (hfar : unescape? (runCommand cmd options).toList = some far)
    (hargv : words? far = some argv) : leadWords options <+: argv := by
  have hquoted : ∀ p ∈ (leadGroups options).flatten, Contributes p.1 p.2.toList := by
    intro p hp
    obtain ⟨g, hg, hp⟩ := List.mem_flatten.mp hp
    exact (isQuotedWord_leadGroups options g hg p hp).contributes
  have hline : (runCommand cmd options).toList
      = escapeChars (spaced ((leadGroups options).flatten.map (·.1)))
        ++ ' ' :: spaced ((options.flags ++ [quoteForRemote options.image,
          "/bin/bash -c " ++ quoteForRemote (Remote.inWorkDir cmd)]).map String.toList) := by
    rw [runCommand, toList_join, runParts_eq, List.map_append, map_toList_leadParts,
      spaced_append (by simp [leadGroups]) (by simp),
      spaced_map_written fun g => ne_nil_of_mem_leadGroups]
  rw [hline, unescape?_escapeChars_append, unescape?_cons _ (by decide)] at hfar
  obtain ⟨rest, hrest, rfl⟩ := Option.map_eq_some_iff.mp hfar
  obtain ⟨rest, -, rfl⟩ := Option.map_eq_some_iff.mp hrest
  have hlead := isPrefix_words?_spaced hquoted (by simp [leadGroups, startWords]) hargv
  rwa [map_snd_leadGroups] at hlead

/-- Sent as the command of the SSH tool, the line arrives as it was meant: the near shell takes the
escapes off, and from what it hands over the far shell reads the words that start the container.
Volumes are mounted in the order of the bytes of their host paths. Flags are written as they are, so
they have to be words as they stand. -/
theorem runCommand_arrives (cmd : String) (options : RunOptions)
    (hflags : ∀ flag ∈ options.flags, flag.toList ≠ [] ∧ flag.toList.all isSafe = true) :
    ∃ far : String, unescape? (runCommand cmd options).toList = some far.toList
      ∧ words? ("--command=\"" ++ runCommand cmd options ++ "\"").toList
          = some ["--command=" ++ far]
      ∧ words? far.toList = some (["docker", "run", "--rm", "--privileged", "-u", "root",
            "--network=host"]
          ++ (match options.session with
            | none => []
            | some s => ["-d", "--name=" ++ s])
          ++ options.env.flatMap (fun name => ["-e", name])
          ++ options.volumes.toList.flatMap (fun v => ["-v", v.1 ++ ":" ++ v.2])
          ++ options.flags
          ++ [options.image, "/bin/bash", "-c", "pushd /root && " ++ cmd])
      ∧ (options.volumes.toList.map fun v => Text.utf8 v.1).Pairwise (· < ·) := by
  have hescape := @runCommand_eq_escape cmd options hflags
  refine ⟨farLine cmd options, ?unescaped, ?handedOver, ?read, ?sorted⟩
  case unescaped => rw [hescape, toList_escape, unescape?_escapeChars]
  case handedOver =>
    rw [hescape]
    exact words?_of_contributes (contributes_escaped (by decide) (by decide) (farLine cmd options))
  case read => rw [words?_farLine hflags, map_snd_runGroups, startWords]
  case sorted =>
    rw [List.pairwise_map]
    exact options.volumes.sorted.imp Text.lt_iff_utf8_lt.mp

/-- Texts that are written to be misread, empty ones among them, and volumes that are given in
another order. -/
def hostile : RunOptions where
  image := "img; $(id)"
  session := some ""
  env := ["", "A B", "'\x60\\\""]
  volumes := Dict.ofList [("é d", ""), ("$HOME\n", "it's")]
  flags := ["--shm-size=1g", "-t"]

/-- Quotes, blanks and marks of the shell in all places arrive as they are. -/
theorem runCommand_arrives_hostile :
    (∀ flag ∈ hostile.flags, flag.toList ≠ [] ∧ flag.toList.all isSafe = true) ∧
    ∃ far : String, unescape? (runCommand "echo \"$X\" \\\n#" hostile).toList = some far.toList
      ∧ words? ("--command=\"" ++ runCommand "echo \"$X\" \\\n#" hostile ++ "\"").toList
          = some ["--command=" ++ far]
      ∧ words? far.toList = some ["docker", "run", "--rm", "--privileged", "-u", "root",
          "--network=host", "-d", "--name=", "-e", "", "-e", "A B", "-e", "'\x60\\\"",
          "-v", "$HOME\n:it's", "-v", "é d:", "--shm-size=1g", "-t", "img; $(id)", "/bin/bash", "-c",
          "pushd /root && echo \"$X\" \\\n#"]
      ∧ (hostile.volumes.toList.map fun v => Text.utf8 v.1).Pairwise (· < ·) := by
  have hflags : ∀ flag ∈ hostile.flags, flag.toList ≠ [] ∧ flag.toList.all isSafe = true := by
    decide
  obtain ⟨far, hunescaped, hnear, hfar, hsorted⟩ :=
    runCommand_arrives "echo \"$X\" \\\n#" hostile hflags
  refine ⟨hflags, far, hunescaped, hnear, ?_, hsorted⟩
  rw [hfar]
  rfl

end JobLauncher.Docker
