import JobLauncher.Proofs.Shell.Container
import JobLauncher.Proofs.Shell.Spoiled

/-!
# Lines that are read without being sent

The line that starts a container is escaped for double quotes, so that it can be sent to a machine.
Read directly, outside double quotes, it means what it should only if there was nothing to escape. A
backslash that escapes is a character like any other between apostrophes; and since an apostrophe in
a text has become two that close and open quotes, all that follows it is read with the quotes the
wrong way round, which may hide what has gone wrong before.

What settles it is the number of backslashes. No backslash of a text is lost, whichever way the
quotes are (`Holds.steps`), and the first character that is escaped adds one to it, since the quotes
are still right there (`holds_quoteChars`). So the words of such a line, if it has words at all,
have more backslashes than they should.

> `runCommand_reads_directly`: the line has the words that start the container exactly if none of
> the texts has a character that quotes or expands.
-/

namespace JobLauncher.Shell

/-! ## The text of words -/

/-- The characters that a part has in the text of its word. -/
def Part.characters : Part → List Char
  | .char _ c => [c]
  | _ => []

/-- The characters of a token that is a word. -/
def Token.characters : Token → List Char
  | .word w => w.parts.flatMap Part.characters
  | _ => []

/-- Where each element of a list has a value, what the elements have is what their values have. -/
theorem flatMap_eq_of_mapM {α β γ : Type} {f : α → Option β} {g : α → List γ} {k : β → List γ}
    (hfg : ∀ a b, f a = some b → g a = k b) {as : List α} {bs : List β}
    (h : as.mapM f = some bs) : as.flatMap g = bs.flatMap k := by
  induction as generalizing bs with
  | nil =>
    cases h
    rfl
  | cons a as ih =>
    rw [List.mapM_cons] at h
    obtain ⟨b, hb, h⟩ := Option.bind_eq_some_iff.mp h
    obtain ⟨bs, hbs, h⟩ := Option.bind_eq_some_iff.mp h
    cases h
    rw [List.flatMap_cons, List.flatMap_cons, hfg a b hb, ih hbs]

/-- Parts that are taken literally stand for the characters that are taken. -/
theorem flatMap_characters {ps : List Part} {as : List (List Char)}
    (h : ps.mapM Part.taken? = some as) : ps.flatMap Part.characters = as.flatten := by
  rw [← List.flatMap_id]
  refine flatMap_eq_of_mapM (fun p a ha => ?_) h
  cases p with
  | char quoted c => exact Option.some.inj ha
  | quote => exact Option.some.inj ha
  | _ => cases ha

/-- A token that is taken literally stands for its text. -/
theorem characters_of_taken? {t : Token} {text : String} (h : t.taken? = some text) :
    t.characters = text.toList := by
  cases t with
  | word w =>
    obtain ⟨as, has, rfl⟩ := Option.map_eq_some_iff.mp h
    rw [String.toList_ofList]
    exact flatMap_characters has
  | _ => cases h

theorem count_backslash_cons (c : Char) (cs : List Char) :
    (c :: cs).count '\\' = [c].count '\\' + cs.count '\\' := by
  rw [← List.singleton_append, List.count_append]

namespace Reader

variable {s s' s'' : Reader} {m m' : Mode} {t t' : List Char} {n : Nat} {c : Char}

/-- The characters of the words that have been read and of the one that has begun. -/
def soFar (s : Reader) : List Char :=
  s.tokens.reverse.flatMap (·.1.characters) ++ (s.word.getD []).reverse.flatMap Part.characters

/-- From `s` to `s'`, a reader has come to `mode` and `text` has been added to its words. -/
structure Reads (s s' : Reader) (mode : Mode) (text : List Char) : Prop where
  mode : s'.mode = mode
  soFar : s'.soFar = s.soFar ++ text

theorem soFar_add (s : Reader) (p : Part) : (s.add p).soFar = s.soFar ++ p.characters := by
  simp [soFar, add, List.flatMap_append]

theorem Reads.trans (h : Reads s s' m t) (h' : Reads s' s'' m' t') : Reads s s'' m' (t ++ t') where
  mode := h'.mode
  soFar := by rw [h'.soFar, h.soFar, List.append_assoc]

/-- A reader that has moved on over characters has read just these. -/
theorem MovedOn.reads (h : MovedOn s s' m t) : Reads s s' m t where
  mode := h.mode_eq
  soFar := by
    have htokens : s'.around.tokens = s.around.tokens := by rw [h.around]; rfl
    have htokens : s'.tokens = s.tokens := htokens
    obtain ⟨ps, hps, hword⟩ := h.word
    obtain ⟨as, has, rfl⟩ := Option.map_eq_some_iff.mp hps
    have htext := flatMap_characters (mapM_of_imp (fun p a => Part.taken?_of_fixed?) has)
    unfold Reader.soFar
    rw [htokens, hword, Option.getD_some, List.reverse_append, List.reverse_reverse,
      List.flatMap_append, htext, List.append_assoc]

/-! ## One character -/

/-- To take a step is to react, and to note the place. -/
theorem Reads.noted (h : Reads s (s.react c) m t) : Reads s (s.step c) m t := ⟨h.mode, h.soFar⟩

/-- The apostrophe that closes quotes is no character of the word. -/
theorem reads_closeSingle (hm : s.mode = .single) :
    Reads s (s.step apostrophe) (.plain .bare) [] := by
  have hreact : s.react apostrophe = s.goto (.plain .bare) := by simp only [react, hm, if_true]
  refine Reads.noted ?_
  rw [hreact]
  exact ⟨rfl, (List.append_nil _).symm⟩

/-- Between apostrophes a backslash is a character like any other. -/
theorem reads_single_live (hm : s.mode = .single) (hc : isLiveInQuotes c = true) :
    Reads s (s.steps ['\\', c]) .single ['\\', c] := by
  have hne : c ≠ apostrophe := fun e => by subst e; exact absurd hc (by decide)
  have hback : MovedOn s (s.step '\\') .single ['\\'] := step_single hm (by decide)
  exact (hback.trans (step_single hback.mode_eq hne)).reads

/-- The end of a word loses no characters, unless the word is not known and all is spoiled. -/
theorem soFar_flush (s : Reader) : s.flush.Spoiled ∨ s.flush.soFar = s.soFar := by
  unfold Reader.flush
  cases hword : s.word with
  | none => exact .inr rfl
  | some parts =>
    rcases s.wordToken_eq_or { parts := parts.reverse, source := s.source.reverse } with heq | hnone
    · refine .inr ?_
      simp only [soFar, emit, heq, hword, List.reverse_cons, List.flatMap_append, Option.getD_none,
        Option.getD_some, List.flatMap_cons, List.reverse_nil, List.flatMap_nil, List.append_nil]
      rfl
    · exact .inl (spoiled_emit hnone s)

/-- The end of a word takes no character away. -/
theorem lost_or_reads_flush (hm : s.mode = .plain .bare) :
    s.flush.Lost ∨ Reads s s.flush (.plain .bare) [] := by
  have hmode : s.flush.mode = s.mode := by
    unfold Reader.flush
    cases s.word with
    | _ => rfl
  rcases soFar_flush s with hspoiled | hsame
  · exact .inl (.spoiled hspoiled)
  · exact .inr ⟨hmode.trans hm, by rw [hsame, List.append_nil]⟩

/-- Where nothing is quoted, a character that does not quote or expand leaves it so. -/
theorem lost_or_reads_bare (hm : s.mode = .plain .bare) (hlive : isLiveInQuotes c = false)
    (hquote : c ≠ apostrophe) : (s.step c).Lost ∨ ∃ t, Reads s (s.step c) (.plain .bare) t := by
  suffices hreact : (s.react c).Lost ∨ ∃ t, Reads s (s.react c) (.plain .bare) t from
    hreact.imp Lost.noted fun ⟨t, h⟩ => ⟨t, h.noted⟩
  have hdead {d : Char} (hd : isLiveInQuotes d = true) : c ≠ d := by
    rintro rfl
    rw [hd] at hlive
    cases hlive
  have hafter := unquoted_stepPlain s c
  rw [react_bare hm]
  generalize s.stepPlain c = s' at hafter ⊢
  cases hafter with
  | backslash hc => exact absurd hc (hdead rfl)
  | apostrophe hc => exact absurd hc hquote
  | double hc => exact absurd hc (hdead rfl)
  | dollar hc => exact absurd hc (hdead rfl)
  | back hc => exact absurd hc (hdead rfl)
  | add groups => exact .inr ⟨[c], hm, soFar_add s (.char false c)⟩
  | blank hblank => exact (lost_or_reads_flush hm).imp_right fun h => ⟨[], h⟩
  | line hend => exact .inl (.spoiled (spoiled_endLine s))
  | items => exact .inl (.foreign rfl)
  | operator => exact .inl (.foreign rfl)
  | comment => exact .inl (.spoiled (spoiled_emit rfl s))

/-! ## Backslashes are not lost -/

/-- The words that have been read have at least `n` backslashes, if the reader is not lost. -/
inductive Holds (n : Nat) (s : Reader) : Prop where
  | lost (h : s.Lost)
  | bare (hmode : s.mode = .plain .bare) (hcount : n ≤ s.soFar.count '\\')
  | single (hmode : s.mode = .single) (hcount : n ≤ s.soFar.count '\\')

/-- Backslashes are read like other characters. -/
theorem Reads.count (h : Reads s s' m t) :
    s'.soFar.count '\\' = s.soFar.count '\\' + t.count '\\' := by
  rw [h.soFar, List.count_append]

/-- Outside quotes the bound on backslashes grows with those that are read. -/
theorem Reads.holds_bare (h : Reads s s' (.plain .bare) t) (hn : n ≤ s.soFar.count '\\')
    {k : Nat} (hk : k ≤ t.count '\\') : Holds (n + k) s' :=
  .bare h.mode (by rw [h.count]; exact Nat.add_le_add hn hk)

theorem Reads.holds_single (h : Reads s s' .single t) (hn : n ≤ s.soFar.count '\\')
    {k : Nat} (hk : k ≤ t.count '\\') : Holds (n + k) s' :=
  .single h.mode (by rw [h.count]; exact Nat.add_le_add hn hk)

/-- A character and the backslash that may be written before it. -/
theorem Holds.steps_escaped (h : Holds n s) (c : Char) :
    Holds (n + [c].count '\\') (s.steps (escapeChars [c])) := by
  by_cases hc : isLiveInQuotes c = true
  · rw [escapeChars_cons_live [] hc]
    -- a reading that is lost stays lost; otherwise the backslash is read, in quotes or not
    cases h with
    | lost h => exact .lost (h.steps _)
    | bare hm hn => exact (steps_guarded_bare hm hc).reads.holds_bare hn (Nat.le_refl _)
    | single hm hn =>
      exact (reads_single_live hm hc).holds_single hn (List.Sublist.count_le _ (by simp))
  · have hc : isLiveInQuotes c = false := Bool.eq_false_iff.mpr hc
    have hplain : [c].count '\\' = 0 :=
      List.count_eq_zero.mpr fun hmem => by
        rw [← List.mem_singleton.mp hmem] at hc
        cases hc
    rw [escapeChars_cons_inert [] hc, hplain]
    cases h with
    | lost h => exact .lost (h.steps _)
    | bare hm hn =>
      by_cases hquote : c = apostrophe
      · subst hquote
        exact (step_openSingle hm).reads.holds_single hn (Nat.zero_le _)
      · rcases lost_or_reads_bare hm hc hquote with hlost | ⟨t, hread⟩
        · exact .lost hlost
        · exact hread.holds_bare hn (Nat.zero_le _)
    | single hm hn =>
      by_cases hquote : c = apostrophe
      · subst hquote
        exact (reads_closeSingle hm).holds_bare hn (Nat.zero_le _)
      · exact (step_single hm hquote).reads.holds_single hn (Nat.zero_le _)

/-- The bound is kept over any escaped text, and grows by the backslashes of the text. -/
theorem Holds.steps (h : Holds n s) (cs : List Char) :
    Holds (n + cs.count '\\') (s.steps (escapeChars cs)) := by
  induction cs generalizing s n with
  | nil => exact h
  | cons c cs ih =>
    have hsplit : escapeChars (c :: cs) = escapeChars [c] ++ escapeChars cs := by
      rw [← List.singleton_append, escapeChars, List.flatMap_append]
      rfl
    -- one character and its escape at a time; the bound for the rest is the one this character left
    rw [hsplit, Reader.steps_append, count_backslash_cons, ← Nat.add_assoc]
    exact ih (h.steps_escaped c)

end Reader

/-! ## The first character that is escaped -/

/-- The characters that quote or expand. -/
def quotingMarks : List Char := [apostrophe, '"', '\\', '$', backquote]

/-- The marks that spoil a direct reading are those that are escaped, and the apostrophe. -/
theorem mem_quotingMarks {c : Char} :
    c ∈ quotingMarks ↔ c = apostrophe ∨ isLiveInQuotes c = true := by
  simp [quotingMarks, isLiveInQuotes, or_assoc, or_left_comm]

theorem not_mem_quotingMarks_of_isSafe {c : Char} (h : isSafe c = true) : c ∉ quotingMarks :=
  not_mem_of_isSafe h (by decide)

/-- Quoting neither adds a backslash nor takes one away. -/
theorem count_flatMap_quoteChar (cs : List Char) :
    (cs.flatMap quoteChar).count '\\' = cs.count '\\' := by
  induction cs with
  | nil => rfl
  | cons c cs ih =>
    have hc : (quoteChar c).count '\\' = [c].count '\\' := by
      by_cases hquote : c = apostrophe
      · subst hquote
        decide
      · rw [quoteChar, if_neg hquote]
    rw [List.flatMap_cons, List.count_append, ih, hc, count_backslash_cons c cs]

/-- Quoting a text adds no backslash and takes none away. -/
theorem count_quoteChars (cs : List Char) : (quoteChars cs).count '\\' = cs.count '\\' := by
  by_cases hplain : cs ≠ [] ∧ cs.all isSafe = true
  · rw [quoteChars, if_pos hplain]
  · have hquote : [apostrophe].count '\\' = 0 := by decide
    rw [quoteChars, if_neg hplain, List.count_append, List.count_append, hquote,
      count_flatMap_quoteChar, Nat.zero_add, Nat.add_zero]

namespace Reader

variable {s : Reader} {n : Nat} {c : Char}

/-- Between apostrophes, a character that quotes or expands brings one backslash more. -/
theorem holds_quoteChar (hm : s.mode = .single) (hn : n ≤ s.soFar.count '\\')
    (hc : c ∈ quotingMarks) :
    Holds (n + ([c].count '\\' + 1)) (s.steps (escapeChars (quoteChar c))) := by
  rcases mem_quotingMarks.mp hc with rfl | hlive
  · -- the apostrophe closes the quotes; the quote after the next one is read between apostrophes
    have hwritten : escapeChars (quoteChar apostrophe)
        = [apostrophe] ++ (['\\', '"'] ++ ([apostrophe] ++ (['\\', '"'] ++ [apostrophe]))) := by
      decide
    have hclosed := reads_closeSingle hm
    have hguarded := hclosed.trans (steps_guarded_bare (c := '"') hclosed.mode rfl).reads
    have hopened := hguarded.trans (step_openSingle hguarded.mode).reads
    have hinside := hopened.trans (reads_single_live (c := '"') hopened.mode rfl)
    have hagain := hinside.trans (reads_closeSingle hinside.mode)
    rw [hwritten, steps_append, steps_append, steps_append, steps_append]
    exact hagain.holds_bare hn (by decide)
  · have hquote : c ≠ apostrophe := fun e => by subst e; cases hlive
    rw [quoteChar, if_neg hquote, escapeChars_cons_live [] hlive]
    refine (reads_single_live hm hlive).holds_single hn ?_
    exact Nat.le_of_eq List.count_cons_self.symm

/-- A quoted text in which something is escaped brings one backslash more than it has. -/
theorem holds_flatMap_quoteChar {cs : List Char} (hcs : ∃ c ∈ cs, c ∈ quotingMarks)
    (hm : s.mode = .single) (hn : n ≤ s.soFar.count '\\') :
    Holds (n + (cs.count '\\' + 1)) (s.steps (escapeChars (cs.flatMap quoteChar))) := by
  induction cs generalizing s n with
  | nil =>
    obtain ⟨c, hc, -⟩ := hcs
    exact absurd hc List.not_mem_nil
  | cons c cs ih =>
    have hsplit : escapeChars ((c :: cs).flatMap quoteChar)
        = escapeChars (quoteChar c) ++ escapeChars (cs.flatMap quoteChar) :=
      List.flatMap_append
    rw [hsplit, steps_append]
    -- the first mark brings the backslash too many; from there on the bound is only kept
    by_cases hmark : c ∈ quotingMarks
    · have hrest := (holds_quoteChar hm hn hmark).steps (cs.flatMap quoteChar)
      have hcount : n + ((c :: cs).count '\\' + 1)
          = n + ([c].count '\\' + 1) + (cs.flatMap quoteChar).count '\\' := by
        rw [count_flatMap_quoteChar, count_backslash_cons]
        omega
      rwa [hcount]
    · obtain ⟨hquote, hlive⟩ := not_or.mp fun h => hmark (mem_quotingMarks.mpr h)
      have hread := (step_single hm hquote).reads
      rw [quoteChar, if_neg hquote, escapeChars_cons_inert [] (Bool.eq_false_iff.mpr hlive)]
      have hcs : ∃ d ∈ cs, d ∈ quotingMarks := by
        obtain ⟨d, hd, hdmark⟩ := hcs
        rcases List.mem_cons.mp hd with rfl | hd
        · exact absurd hdmark hmark
        · exact ⟨d, hd, hdmark⟩
      have hmore : n + [c].count '\\' ≤ (s.step c).soFar.count '\\' := by
        rw [hread.count]
        exact Nat.add_le_add_right hn _
      rw [count_backslash_cons, Nat.add_assoc, ← Nat.add_assoc]
      exact ih hcs hread.mode hmore

/-- A quoted text that has one of the marks is read with a backslash more than it has. -/
theorem holds_quoteChars {cs : List Char} (hcs : ∃ c ∈ cs, c ∈ quotingMarks)
    (hm : s.mode = .plain .bare) (hn : n ≤ s.soFar.count '\\') :
    Holds (n + (cs.count '\\' + 1)) (s.steps (escapeChars (quoteChars cs))) := by
  have hunsafe : ¬ (cs ≠ [] ∧ cs.all isSafe = true) := by
    rintro ⟨-, hsafe⟩
    obtain ⟨c, hc, hmark⟩ := hcs
    exact not_mem_quotingMarks_of_isSafe (List.all_eq_true.mp hsafe c hc) hmark
  have hsplit : escapeChars (quoteChars cs)
      = [apostrophe] ++ escapeChars (cs.flatMap quoteChar) ++ escapeChars [apostrophe] := by
    rw [quoteChars, if_neg hunsafe]
    simp only [escapeChars, List.flatMap_append]
    rfl
  have hopened := (step_openSingle hm).reads
  -- the opening apostrophe brings no character, so the bound at the start still holds inside the
  -- quotes
  have hmore : n ≤ (s.step apostrophe).soFar.count '\\' := by
    rw [hopened.count]
    exact Nat.le_add_right_of_le hn
  have hinside := holds_flatMap_quoteChar hcs hopened.mode hmore
  rw [hsplit, steps_append, steps_append]
  exact hinside.steps [apostrophe]

end Reader

/-! ## Words on a line -/

/-- A quoted word is a safe beginning and a quoted rest. -/
theorem IsQuotedWord.exists_split {p : List Char × String} (h : IsQuotedWord p) :
    ∃ start cs : List Char, start.all isSafe = true ∧ p.1 = start ++ quoteChars cs
      ∧ p.2.toList = start ++ cs := by
  obtain ⟨start, s, hstart, rfl⟩ := h
  refine ⟨start.toList, s.toList, hstart, ?_, String.toList_append⟩
  rw [quotedWord, String.toList_append, toList_quote]

/-- So it is written with as many backslashes as it means. -/
theorem IsQuotedWord.count_eq {p : List Char × String} (h : IsQuotedWord p) :
    p.1.count '\\' = p.2.toList.count '\\' := by
  obtain ⟨start, cs, -, hwritten, htext⟩ := h.exists_split
  rw [hwritten, htext, List.count_append, List.count_append, count_quoteChars]

/-- Without apostrophes, a text is quoted by nothing but apostrophes around it. -/
theorem mem_quoteChars {cs : List Char} (hcs : apostrophe ∉ cs) {c : Char}
    (hc : c ∈ quoteChars cs) : c ∈ cs ∨ c = apostrophe := by
  unfold quoteChars at hc
  split at hc
  · exact .inl hc
  · simp only [List.mem_append, List.mem_singleton, List.mem_flatMap] at hc
    rcases hc with (hopen | ⟨d, hd, hc⟩) | hclose
    · exact .inr hopen
    · rw [quoteChar, if_neg fun e : d = apostrophe => hcs (e ▸ hd)] at hc
      exact .inl (List.mem_singleton.mp hc ▸ hd)
    · exact .inr hclose

/-- Nothing is escaped in a word that has nothing that quotes or expands. -/
theorem IsQuotedWord.escapeChars_eq {p : List Char × String} (h : IsQuotedWord p)
    (hp : ∀ c ∈ p.2.toList, c ∉ quotingMarks) : escapeChars p.1 = p.1 := by
  obtain ⟨start, cs, -, hwritten, htext⟩ := h.exists_split
  have hinert {c : Char} (hc : c ∈ p.2.toList) : ¬ isLiveInQuotes c = true :=
    fun hlive => hp c hc (mem_quotingMarks.mpr (.inr hlive))
  rw [htext] at hp hinert
  have hquote : apostrophe ∉ cs := fun hc =>
    hp apostrophe (List.mem_append_right start hc) (mem_quotingMarks.mpr (.inl rfl))
  rw [hwritten]
  refine escapeChars_inert (List.any_eq_false.mpr fun c hc => ?_)
  rcases List.mem_append.mp hc with hc | hc
  · exact hinert (List.mem_append_left cs hc)
  rcases mem_quoteChars hquote hc with hc | rfl
  · exact hinert (List.mem_append_right start hc)
  · decide

/-- The characters that some words stand for, one after another. -/
def meaning (ps : List (List Char × String)) : List Char := ps.flatMap (·.2.toList)

theorem mem_meaning {ps : List (List Char × String)} {c : Char} :
    c ∈ meaning ps ↔ ∃ p ∈ ps, c ∈ p.2.toList := List.mem_flatMap

/-- The words of a line after the first one, as they are written. -/
def others (ps : List (List Char × String)) : List Char := ps.flatMap fun p => ' ' :: p.1

theorem spaced_cons_eq (p : List Char × String) (ps : List (List Char × String)) :
    spaced ((p :: ps).map (·.1)) = p.1 ++ others ps := by
  induction ps generalizing p with
  | nil => rw [List.map_singleton, spaced_singleton, others, List.flatMap_nil, List.append_nil]
  | cons q ps ih =>
    have hsplit : spaced ((p :: q :: ps).map (·.1)) = p.1 ++ ' ' :: spaced ((q :: ps).map (·.1)) :=
      spaced_cons_cons _ _ _
    rw [hsplit, ih, others, others, List.flatMap_cons, List.cons_append]

/-- As many backslashes are written in the other words as are meant. -/
theorem count_others {ps : List (List Char × String)} (h : ∀ p ∈ ps, IsQuotedWord p) :
    (others ps).count '\\' = (meaning ps).count '\\' := by
  induction ps with
  | nil => rfl
  | cons p ps ih =>
    have hp := (h p List.mem_cons_self).count_eq
    have hps := ih fun q hq => h q (List.mem_cons_of_mem p hq)
    have hblank : [' '].count '\\' = 0 := by decide
    rw [others, meaning, List.flatMap_cons, List.flatMap_cons, List.count_append, List.count_append,
      count_backslash_cons, hblank, Nat.zero_add, hp]
    exact congrArg _ hps

namespace Reader

variable {s : Reader} {n : Nat}

/-- Safe characters are read as they are. -/
theorem reads_safe {cs : List Char} (hcs : cs.all isSafe = true) (hm : s.mode = .plain .bare) :
    Reads s (s.steps cs) (.plain .bare) cs := by
  by_cases hnil : cs = []
  · subst hnil
    exact ⟨hm, (List.append_nil _).symm⟩
  · exact (contributes_safe hnil (List.all_eq_true.mp hcs) s hm).reads

/-- A word with one of the marks in what it means is read with a backslash too many. -/
theorem holds_quotedWord {p : List Char × String} (h : IsQuotedWord p)
    (hp : ∃ c ∈ p.2.toList, c ∈ quotingMarks) (hm : s.mode = .plain .bare)
    (hn : n ≤ s.soFar.count '\\') :
    Holds (n + (p.2.toList.count '\\' + 1)) (s.steps (escapeChars p.1)) := by
  obtain ⟨start, cs, hstart, hwritten, htext⟩ := h.exists_split
  have hsplit : escapeChars p.1 = start ++ escapeChars (quoteChars cs) := by
    have hinert : escapeChars start = start :=
      escapeChars_inert (any_isLiveInQuotes_of_isSafe hstart)
    rw [hwritten, escapeChars, List.flatMap_append]
    exact congrArg (· ++ escapeChars (quoteChars cs)) hinert
  have hcs : ∃ c ∈ cs, c ∈ quotingMarks := by
    obtain ⟨c, hc, hmark⟩ := hp
    rw [htext] at hc
    rcases List.mem_append.mp hc with hc | hc
    · exact absurd hmark (not_mem_quotingMarks_of_isSafe (List.all_eq_true.mp hstart c hc))
    · exact ⟨c, hc, hmark⟩
  have hread := reads_safe hstart hm
  have hmore : n + start.count '\\' ≤ (s.steps start).soFar.count '\\' := by
    rw [hread.count]
    exact Nat.add_le_add_right hn _
  rw [hsplit, steps_append, htext, List.count_append, Nat.add_assoc, ← Nat.add_assoc]
  exact holds_quoteChars hcs hread.mode hmore

/-- What follows a word in which something is escaped may be read the wrong way round, but it keeps
its backslashes. -/
theorem holds_line_of_first {p : List Char × String} {ps : List (List Char × String)}
    (hp : IsQuotedWord p) (hps : ∀ q ∈ ps, IsQuotedWord q)
    (hmark : ∃ c ∈ p.2.toList, c ∈ quotingMarks)
    (hm : s.mode = .plain .bare) (hn : n ≤ s.soFar.count '\\') :
    Holds (n + ((meaning (p :: ps)).count '\\' + 1))
      (s.steps (escapeChars (p.1 ++ others ps))) := by
  have hsplit : escapeChars (p.1 ++ others ps) = escapeChars p.1 ++ escapeChars (others ps) :=
    List.flatMap_append
  have hcount : n + ((meaning (p :: ps)).count '\\' + 1)
      = n + (p.2.toList.count '\\' + 1) + (others ps).count '\\' := by
    rw [count_others hps, meaning, List.flatMap_cons, List.count_append, ← meaning]
    omega
  rw [hsplit, steps_append, hcount]
  exact (holds_quotedWord hp hmark hm hn).steps (others ps)

/-- A line of words in which something is escaped brings one backslash more than its words have. The
words before the first such word are read as they should be. -/
theorem holds_line {p : List Char × String} {ps : List (List Char × String)}
    (h : ∀ q ∈ p :: ps, IsQuotedWord q) (hmark : ∃ c ∈ meaning (p :: ps), c ∈ quotingMarks)
    (hm : s.mode = .plain .bare) (hn : n ≤ s.soFar.count '\\') :
    Holds (n + ((meaning (p :: ps)).count '\\' + 1))
      (s.steps (escapeChars (p.1 ++ others ps))) := by
  induction ps generalizing p s n with
  | nil =>
    have hmark : ∃ c ∈ p.2.toList, c ∈ quotingMarks := by
      rwa [meaning, List.flatMap_cons, List.flatMap_nil, List.append_nil] at hmark
    exact holds_line_of_first (h p List.mem_cons_self) (List.forall_mem_nil _) hmark hm hn
  | cons q ps ih =>
    obtain ⟨hp, hps⟩ := List.forall_mem_cons.mp h
    -- if the first word has no mark it is read as it is, and the mark is in one of the others
    by_cases hpmark : ∃ c ∈ p.2.toList, c ∈ quotingMarks
    · exact holds_line_of_first hp hps hpmark hm hn
    have hpmark : ∀ c ∈ p.2.toList, c ∉ quotingMarks := fun c hc hcm => hpmark ⟨c, hc, hcm⟩
    have hqmark : ∃ c ∈ meaning (q :: ps), c ∈ quotingMarks := by
      obtain ⟨c, hc, hcm⟩ := hmark
      rcases List.mem_append.mp hc with hc | hc
      · exact absurd hcm (hpmark c hc)
      · exact ⟨c, hc, hcm⟩
    have hsplit : escapeChars (p.1 ++ others (q :: ps))
        = p.1 ++ ' ' :: escapeChars (q.1 ++ others ps) := by
      rw [escapeChars, List.flatMap_append]
      exact congrArg (· ++ escapeChars (others (q :: ps))) (hp.escapeChars_eq hpmark)
    have hread := (hp.contributes s hm).reads
    rw [hsplit, steps_append, steps_cons]
    -- the blank ends the word, unless it has spoiled the reading
    rcases lost_or_reads_bare (c := ' ') hread.mode rfl (by decide) with hlost | ⟨t, hblank⟩
    · exact .lost (hlost.steps _)
    have hmore : n + p.2.toList.count '\\' ≤ ((s.steps p.1).step ' ').soFar.count '\\' := by
      rw [hblank.count, hread.count]
      omega
    have hcount : n + ((meaning (p :: q :: ps)).count '\\' + 1)
        = n + p.2.toList.count '\\' + ((meaning (q :: ps)).count '\\' + 1) := by
      rw [meaning, List.flatMap_cons, List.count_append, ← meaning]
      omega
    rw [hcount]
    exact ih hps hqmark hblank.mode hmore

/-! ## The end of the line -/

theorem characters_fillEmpty (n : Nat) (t : Placed) :
    (finish.fillEmpty n t).1.characters = t.1.characters := by
  obtain ⟨t, line⟩ := t
  cases t with
  | document d =>
    unfold finish.fillEmpty
    exact iteInduction (motive := fun t : Placed => t.1.characters = []) (fun _ => rfl) fun _ => rfl
  | _ => rfl

theorem flatMap_characters_fillEmpty (n : Nat) (ts : List Placed) :
    (ts.map (finish.fillEmpty n)).reverse.flatMap (·.1.characters)
      = ts.reverse.flatMap (·.1.characters) := by
  have hsame : (fun t : Placed => (finish.fillEmpty n t).1.characters) = (·.1.characters) :=
    funext (characters_fillEmpty n)
  rw [← List.map_reverse, List.flatMap_map, hsame]

/-- At the end of the line the word ends, and no character is lost. -/
theorem spoiled_or_finish (hm : s.mode = .plain .bare) :
    s.finish.Spoiled ∨ s.finish.tokens.reverse.flatMap (·.1.characters) = s.soFar := by
  unfold Reader.finish
  rw [hm]
  simp only [reduceCtorEq, if_false]
  split
  next => exact .inl ((spoiled_cutOff s _).fillEmpty _)
  next =>
    refine (soFar_flush s).imp (fun h => h.fillEmpty _) fun hsame => ?_
    have hword : s.flush.word = none := by
      unfold Reader.flush
      cases hword : s.word with
      | none => exact hword
      | some parts => rfl
    rw [flatMap_characters_fillEmpty, ← hsame, soFar, hword]
    exact (List.append_nil _).symm

/-- The words of a line have the backslashes that the reader has. -/
theorem Holds.count_le (h : Holds n s) {ws : List String}
    (hws : (s.finish.tokens.reverse.map (·.1)).mapM Token.taken? = some ws) :
    n ≤ (ws.flatMap String.toList).count '\\' := by
  have hspoiled (h : s.finish.Spoiled) : False := by
    obtain ⟨t, ht, hnone⟩ := h
    exact ne_none_of_mapM hws (List.mem_map_of_mem (List.mem_reverse.mpr ht)) hnone
  cases h with
  | lost h => exact (hspoiled h.finish).elim
  | single hm hn => exact (hspoiled (spoiled_finish_of_single hm)).elim
  | bare hm hn =>
    rcases spoiled_or_finish hm with h | hsame
    · exact (hspoiled h).elim
    · have htext := flatMap_eq_of_mapM (fun t w => characters_of_taken?) hws
      rw [List.flatMap_map] at htext
      rwa [← htext, hsame]

end Reader

/-! ## Lines -/

/-- An escaped line of words is read directly as these words only if nothing in them quotes or
expands. -/
theorem not_mem_quotingMarks_of_takenWords? {ps : List (List Char × String)}
    (h : ∀ p ∈ ps, IsQuotedWord p) (hne : ps ≠ [])
    (hread : takenWords? (escapeChars (spaced (ps.map (·.1)))) = some (ps.map (·.2))) :
    ∀ c ∈ meaning ps, c ∉ quotingMarks := by
  intro c hc hmark
  obtain ⟨p, ps, rfl⟩ := List.exists_cons_of_ne_nil hne
  rw [spaced_cons_eq] at hread
  have hholds := Reader.holds_line (s := { line := 1 }) h ⟨c, hc, hmark⟩ rfl (Nat.zero_le _)
  have hcount := hholds.count_le hread
  rw [List.flatMap_map, Nat.zero_add] at hcount
  exact absurd hcount (Nat.not_succ_le_self _)

/-- A line of words in which nothing quotes or expands is the same line when it is escaped. -/
theorem escapeChars_spaced_eq {ps : List (List Char × String)} (h : ∀ p ∈ ps, IsQuotedWord p)
    (hps : ∀ c ∈ meaning ps, c ∉ quotingMarks) :
    escapeChars (spaced (ps.map (·.1))) = spaced (ps.map (·.1)) := by
  rw [escapeChars_spaced, List.map_map]
  refine congrArg spaced (List.map_congr_left fun p hp => ?_)
  exact (h p hp).escapeChars_eq fun c hc => hps c (mem_meaning.mpr ⟨p, hp, hc⟩)

/-- Read directly, an escaped line of words is these words exactly if nothing in them quotes or
expands. -/
theorem words?_escapeChars_spaced {ps : List (List Char × String)} (h : ∀ p ∈ ps, IsQuotedWord p)
    (hne : ps ≠ []) :
    (words? (escapeChars (spaced (ps.map (·.1)))) = some (ps.map (·.2))
      ↔ ∀ c ∈ meaning ps, c ∉ quotingMarks)
    ∧ (takenWords? (escapeChars (spaced (ps.map (·.1)))) = some (ps.map (·.2))
      ↔ ∀ c ∈ meaning ps, c ∉ quotingMarks) := by
  have hplain (hps : ∀ c ∈ meaning ps, c ∉ quotingMarks) :
      words? (escapeChars (spaced (ps.map (·.1)))) = some (ps.map (·.2)) := by
    rw [escapeChars_spaced_eq h hps]
    exact words?_spaced (fun p hp => (h p hp).contributes) hne
  have hmarked := not_mem_quotingMarks_of_takenWords? h hne
  exact ⟨⟨fun hread => hmarked (takenWords?_of_words? hread), hplain⟩,
    ⟨hmarked, fun hps => takenWords?_of_words? (hplain hps)⟩⟩

end JobLauncher.Shell

namespace JobLauncher.Docker

open Shell

/-- A text without any character that quotes or expands. -/
def IsPlain (s : String) : Prop := ∀ c ∈ s.toList, c ∉ quotingMarks

instance (s : String) : Decidable (IsPlain s) :=
  decidable_of_iff (s.toList.all fun c => !quotingMarks.contains c) <| by
    simp only [IsPlain, List.all_eq_true, Bool.not_eq_true', List.contains_eq_mem,
      decide_eq_false_iff_not]

theorem isPlain_append {s t : String} : IsPlain (s ++ t) ↔ IsPlain s ∧ IsPlain t := by
  unfold IsPlain
  rw [String.toList_append, List.forall_mem_append]

theorem isPlain_of_isSafe {s : String} (h : s.toList.all isSafe = true) : IsPlain s :=
  fun c hc => not_mem_quotingMarks_of_isSafe (List.all_eq_true.mp h c hc)

/-- The texts of the caller that the line quotes. -/
def quotedTexts (cmd : String) (options : RunOptions) : List String :=
  options.session.toList ++ options.env ++ options.volumes.toList.flatMap (fun v => [v.1, v.2])
    ++ [options.image, cmd]

/-- What the line has beside the texts that it quotes neither quotes nor expands. -/
theorem isPlain_runGroups {cmd : String} {options : RunOptions}
    (hflags : ∀ flag ∈ options.flags, flag.toList ≠ [] ∧ flag.toList.all isSafe = true) :
    (∀ c ∈ meaning (runGroups cmd options).flatten, c ∉ quotingMarks)
      ↔ ∀ t ∈ quotedTexts cmd options, IsPlain t := by
  -- the words that come with the options have no marks, so only the texts that are given count
  have htexts : (∀ c ∈ meaning (runGroups cmd options).flatten, c ∉ quotingMarks)
      ↔ ∀ t ∈ (runGroups cmd options).flatten.map (·.2), IsPlain t := by
    unfold meaning IsPlain
    rw [List.forall_mem_flatMap, List.forall_mem_map]
  have henv : (∀ t ∈ options.env.flatMap (fun name => ["-e", name]), IsPlain t)
      ↔ ∀ t ∈ options.env, IsPlain t := by
    have hoption : IsPlain "-e" := by decide
    simp only [List.forall_mem_flatMap, List.forall_mem_cons, List.not_mem_nil, false_implies,
      implies_true, hoption, true_and, and_true]
  have hvolumes : (∀ t ∈ options.volumes.toList.flatMap (fun v => ["-v", v.1 ++ ":" ++ v.2]),
        IsPlain t)
      ↔ ∀ t ∈ options.volumes.toList.flatMap (fun v => [v.1, v.2]), IsPlain t := by
    have hoption : IsPlain "-v" ∧ IsPlain ":" := by decide
    simp only [List.forall_mem_flatMap, List.forall_mem_cons, List.not_mem_nil, false_implies,
      implies_true, isPlain_append, hoption, true_and, and_true]
  have hplain : ∀ t ∈ options.flags, IsPlain t := fun t ht => isPlain_of_isSafe (hflags t ht).2
  have hstart : ∀ t ∈ startWords, IsPlain t := by decide
  have hcommand : (∀ t ∈ [options.image, "/bin/bash", "-c", "pushd /root && " ++ cmd], IsPlain t)
      ↔ ∀ t ∈ [options.image, cmd], IsPlain t := by
    have hwords : IsPlain "/bin/bash" ∧ IsPlain "-c" ∧ IsPlain "pushd /root && " := by decide
    simp [isPlain_append, hwords]
  rw [htexts, map_snd_runGroups, quotedTexts]
  simp only [List.forall_mem_append, henv, hvolumes, hcommand, eq_true hstart, eq_true hplain,
    true_and, and_true]
  have hname : IsPlain "-d" ∧ IsPlain "--name=" := by decide
  cases options.session with
  | none => simp
  | some s => simp [isPlain_append, hname]

/-- Read directly, the line has the words that start the container exactly if none of the texts that
it quotes has an apostrophe, a double quote, a backslash, a dollar sign or a backquote. That is so
whether a character of a pattern is taken as it is or makes the line more than words. -/
theorem runCommand_reads_directly (cmd : String) (options : RunOptions)
    (hflags : ∀ flag ∈ options.flags, flag.toList ≠ [] ∧ flag.toList.all isSafe = true) :
    let intended := ["docker", "run", "--rm", "--privileged", "-u", "root", "--network=host"]
      ++ (match options.session with
        | none => []
        | some s => ["-d", "--name=" ++ s])
      ++ options.env.flatMap (fun name => ["-e", name])
      ++ options.volumes.toList.flatMap (fun v => ["-v", v.1 ++ ":" ++ v.2])
      ++ options.flags
      ++ [options.image, "/bin/bash", "-c", "pushd /root && " ++ cmd]
    (words? (runCommand cmd options).toList = some intended
      ↔ ∀ t ∈ quotedTexts cmd options, ∀ c ∈ t.toList, c ∉ quotingMarks)
    ∧ (takenWords? (runCommand cmd options).toList = some intended
      ↔ ∀ t ∈ quotedTexts cmd options, ∀ c ∈ t.toList, c ∉ quotingMarks) := by
  intro intended
  have hquoted : ∀ p ∈ (runGroups cmd options).flatten, IsQuotedWord p := by
    intro p hp
    obtain ⟨g, hg, hp⟩ := List.mem_flatten.mp hp
    exact isQuotedWord_runGroups hflags g hg p hp
  have hne : (runGroups cmd options).flatten ≠ [] := by simp [runGroups, startWords]
  have hline : (runCommand cmd options).toList
      = escapeChars (spaced ((runGroups cmd options).flatten.map (·.1))) := by
    rw [runCommand_eq_escape hflags, toList_escape, farLine, String.toList_ofList]
  have hread := words?_escapeChars_spaced hquoted hne
  rw [isPlain_runGroups hflags, ← hline, map_snd_runGroups] at hread
  exact hread

/-- Texts with blanks, operators and patterns, but without any character that quotes or expands. -/
def spacious : RunOptions where
  image := "img; *?"
  session := some ""
  env := ["", "A B", "~#"]
  volumes := Dict.ofList [("é d", ""), ("[x]\n", "&& ()")]
  flags := ["--shm-size=1g", "-t"]

/-- The same line with an apostrophe in an early text and one in a late one, so that the quotes are
right again at the end. -/
def entangled : RunOptions := { spacious with session := some "it's", image := "it's" }

/-- One line with much in it that needs quotes reads as it was meant, and one with apostrophes does
not. -/
theorem runCommand_reads_directly_examples :
    (∀ flag ∈ spacious.flags, flag.toList ≠ [] ∧ flag.toList.all isSafe = true)
    ∧ words? (runCommand "ls | wc >f" spacious).toList
        = some ["docker", "run", "--rm", "--privileged", "-u", "root", "--network=host", "-d",
          "--name=", "-e", "", "-e", "A B", "-e", "~#", "-v", "[x]\n:&& ()", "-v", "é d:",
          "--shm-size=1g", "-t", "img; *?", "/bin/bash", "-c", "pushd /root && ls | wc >f"]
    ∧ words? (runCommand "ls" entangled).toList
        ≠ some ["docker", "run", "--rm", "--privileged", "-u", "root", "--network=host", "-d",
          "--name=it's", "-e", "", "-e", "A B", "-e", "~#", "-v", "[x]\n:&& ()", "-v", "é d:",
          "--shm-size=1g", "-t", "it's", "/bin/bash", "-c", "pushd /root && ls"] := by
  have hflags : ∀ flag ∈ spacious.flags, flag.toList ≠ [] ∧ flag.toList.all isSafe = true := by
    decide
  have hplain : ∀ t ∈ quotedTexts "ls | wc >f" spacious, IsPlain t := by decide
  have hmarked : ¬ ∀ t ∈ quotedTexts "ls" entangled, IsPlain t := by decide
  obtain ⟨hread, -⟩ := runCommand_reads_directly "ls | wc >f" spacious hflags
  obtain ⟨hmisread, -⟩ := runCommand_reads_directly "ls" entangled hflags
  exact ⟨hflags, hread.mpr hplain, fun h => hmarked (hmisread.mp h)⟩

end JobLauncher.Docker
