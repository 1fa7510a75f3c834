import JobLauncher.Shell.Token

/-!
# Reading words back

What a reader makes of the texts that `quoteChars` and `escapeChars` write. A text contributes to
the word it stands in: `Contributes written text` says that a reader that is not inside quotes takes
`written` for the characters of `text`, all of them in the word that has begun or begins here, and
that it is outside quotes again afterwards. Nothing is assumed of the reader but that.

> `contributes_safe`, `contributes_quoteChars`, `contributes_doubleQuoted`: a text that needs no
> quotes, one that `quoteChars` has quoted, and one that `escapeChars` has escaped between double
> quotes each contribute what they were written from.

Contributions put together contribute together (`Contributes.append`). `HasRead` says which words
stand between the start of a line and the reader; a blank ends the word (`HasRead.blank`), and so
does the end of the line (`words?_of_hasRead`).
-/

namespace JobLauncher.Shell

/-! ## Characters without meaning -/

/-- A safe character is none of those that a shell looks for. -/
theorem not_mem_of_isSafe {c : Char} {cs : List Char} (h : isSafe c = true)
    (hcs : cs.any isSafe = false) : c ∉ cs := by
  intro hc
  exact List.any_eq_false.mp hcs c hc h

/-- Safe characters mean nothing to the shell. -/
theorem isActive_of_isSafe {c : Char} (h : isSafe c = true) : isActive c = false := by
  rw [isActive, List.contains_eq_mem]
  exact decide_eq_false (not_mem_of_isSafe h (by decide))

theorem isOperatorChar_of_isSafe {c : Char} (h : isSafe c = true) : isOperatorChar c = false := by
  rw [isOperatorChar, List.contains_eq_mem]
  exact decide_eq_false (not_mem_of_isSafe h (by decide))

theorem any_isLiveInQuotes_of_isSafe {cs : List Char} (h : cs.all isSafe = true) :
    cs.any isLiveInQuotes = false := by
  refine List.any_eq_false.mpr fun c hc hlive => ?_
  have hmem : c ∈ ['\\', '"', '$', backquote] := by
    simpa [isLiveInQuotes, or_assoc] using hlive
  exact not_mem_of_isSafe (List.all_eq_true.mp h c hc) (by decide) hmem

/-- The characters that open a quote or an expansion, or end a word or a line. -/
def marks : List Char := ['\\', apostrophe, '"', '$', backquote, '(', '|', ' ', '\t', '\n', '#']

theorem not_mem_marks {c : Char} (h : isSafe c = true) : c ∉ marks :=
  not_mem_of_isSafe h (by decide)

/-! ## The text of parts -/

/-- They stand for themselves outside quotes. -/
theorem fixed?_of_isSafe {c : Char} (h : isSafe c = true) :
    (Part.char false c).fixed? = some [c] := by
  show (if (!false && isActive c) = true then none else some [c]) = some [c]
  rw [isActive_of_isSafe h]
  rfl

/-- Where a whole list has values, each of its elements has one. -/
theorem ne_none_of_mapM {α β : Type} {f : α → Option β} {xs : List α} {ys : List β}
    (h : xs.mapM f = some ys) {x : α} (hx : x ∈ xs) : f x ≠ none := by
  induction xs generalizing ys with
  | nil => exact absurd hx List.not_mem_nil
  | cons a xs ih =>
    rw [List.mapM_cons] at h
    obtain ⟨b, hb, h⟩ := Option.bind_eq_some_iff.mp h
    obtain ⟨bs, hbs, -⟩ := Option.bind_eq_some_iff.mp h
    rcases List.mem_cons.mp hx with rfl | hx
    · rw [hb]; exact Option.some_ne_none b
    · exact ih hbs hx

/-- What parts stand for one after another, if each of them stands for itself. -/
def fixedText (ps : List Part) : Option (List Char) := (ps.mapM Part.fixed?).map List.flatten

theorem fixedText_append {ps qs : List Part} {a b : List Char} (ha : fixedText ps = some a)
    (hb : fixedText qs = some b) : fixedText (ps ++ qs) = some (a ++ b) := by
  obtain ⟨as, has, rfl⟩ := Option.map_eq_some_iff.mp ha
  obtain ⟨bs, hbs, rfl⟩ := Option.map_eq_some_iff.mp hb
  simp [fixedText, List.mapM_append, has, hbs]

theorem fixedText_singleton {p : Part} {a : List Char} (h : p.fixed? = some a) :
    fixedText [p] = some a := by
  simp [fixedText, h]

/-- Every part of a word that stands for itself does so. -/
theorem fixed?_of_mem {ps : List Part} {a : List Char} (h : fixedText ps = some a) {p : Part}
    (hp : p ∈ ps) : p.fixed? ≠ none := by
  obtain ⟨as, has, -⟩ := Option.map_eq_some_iff.mp h
  exact ne_none_of_mapM has hp

/-- A word without a bracket that nothing quotes has no index that is still open. -/
theorem isOpenIndex_of_not_mem {ps : List Part} (h : Part.char false '[' ∉ ps) :
    isOpenIndex ps = false := by
  have hget : ∀ n : Nat, (ps.reverse[n]? == some (Part.char false '[')) = false := by
    intro n
    rw [beq_eq_false_iff_ne]
    exact fun he => h (List.mem_reverse.mp (List.mem_of_getElem? he))
  simp only [isOpenIndex, hget, Bool.and_false, Bool.false_and]

/-- Such a bracket would be a pattern, so a word that stands for itself has none. -/
theorem isOpenIndex_of_fixedText {ps : List Part} {a : List Char}
    (h : fixedText ps.reverse = some a) : isOpenIndex ps = false :=
  isOpenIndex_of_not_mem fun hm => fixed?_of_mem h (List.mem_reverse.mpr hm) (by decide)

namespace Reader

/-! ## Moving on within a word -/

/-- A reader without the word that has begun and without the places it has noted: what stays the
same while a word is read. -/
def around (s : Reader) : Reader := { s with word := none, source := [], line := 0, opened := 0 }

@[simp] theorem around_add (s : Reader) (p : Part) : (s.add p).around = s.around := rfl

@[simp] theorem around_goto (s : Reader) (m : Mode) : (s.goto m).around = s.around.goto m := rfl

@[simp] theorem around_quote (s : Reader) : s.quote.around = s.around := rfl

@[simp] theorem around_step (s : Reader) (c : Char) : (s.step c).around = (s.react c).around := rfl

/-- `s` is `s₀` moved on within one word by something that stands for `text`, and now in `mode`. -/
structure MovedOn (s₀ s : Reader) (mode : Mode) (text : List Char) : Prop where
  around : s.around = s₀.around.goto mode
  word : ∃ ps, fixedText ps = some text ∧ s.word = some (ps.reverse ++ s₀.word.getD [])

namespace MovedOn

variable {s₀ s s' : Reader} {m m' : Mode} {t t' : List Char}

theorem mode_eq (h : MovedOn s₀ s m t) : s.mode = m := congrArg Reader.mode h.around

/-- The first part of what is new. -/
theorem of_add {p : Part} (hp : p.fixed? = some t) (hm : s.mode = m) : MovedOn s (s.add p) m t where
  around := by rw [around_add, ← hm]; rfl
  word := ⟨[p], fixedText_singleton hp, rfl⟩

theorem trans (h : MovedOn s₀ s m t) (h' : MovedOn s s' m' t') : MovedOn s₀ s' m' (t ++ t') where
  around := by rw [h'.around, h.around]; rfl
  word := by
    obtain ⟨ps, hps, hw⟩ := h.word
    obtain ⟨qs, hqs, hw'⟩ := h'.word
    refine ⟨ps ++ qs, fixedText_append hps hqs, ?_⟩
    rw [hw', hw]
    simp

/-- A change of the mode alone. -/
theorem goto (h : MovedOn s₀ s m t) (m' : Mode) : MovedOn s₀ (s.goto m') m' t where
  around := by rw [around_goto, h.around]; rfl
  word := h.word

/-- To take a step is to react, and to note the place. -/
theorem step {c : Char} (h : MovedOn s₀ (s.react c) m t) : MovedOn s₀ (s.step c) m t where
  around := by rw [around_step, h.around]
  word := h.word

end MovedOn

/-! ## One character -/

/-- Outside quotes and away from all else a step is one of plain text. -/
theorem react_bare {s : Reader} (hm : s.mode = .plain .bare) (c : Char) :
    s.react c = s.stepPlain c := by
  have hgoto : s.goto (.plain .bare) = s := by rw [← hm]; rfl
  simp only [react, hm, stepText, if_true, hgoto]

theorem react_double {s : Reader} (hm : s.mode = .plain .double) (c : Char) :
    s.react c = s.stepQuoted .double c := by
  have hgoto : s.goto (.plain .double) = s := by rw [← hm]; rfl
  have hne : Quoting.double ≠ .bare := by decide
  simp only [react, hm, stepText, if_neg hne, hgoto]

/-- A character that does not go on with an operator ends it and is read after it. A parenthesis is
apart: it can open an expansion there. -/
theorem step_operator {s : Reader} {done : List Char} {c : Char} (hmode : s.mode = .operator done)
    (hparen : c ≠ '(') (hends : s.isOperator (String.ofList (c :: done).reverse) = false) :
    s.step c = (s.endOperator done).step c := by
  have hafter : (s.endOperator done).react c = (s.endOperator done).stepPlain c := react_bare rfl c
  have hreact : s.react c = (s.endOperator done).react c := by
    rw [hafter]
    simp only [react, hmode, stepOperator, hparen, hends, false_and, and_false, if_false,
      Bool.false_eq_true]
  simp only [step, hreact]

/-- Where nothing is quoted, a safe character is part of the word, whatever has been read. -/
theorem stepPlain_safe (s : Reader) {c : Char} (h : isSafe c = true) :
    s.stepPlain c = s.add (.char false c) := by
  have hmarks := not_mem_marks h
  simp only [marks, List.mem_cons, List.not_mem_nil, or_false, not_or] at hmarks
  obtain ⟨hback, hapostrophe, hquote, hdollar, hbackquote, hopen, hbar, hblank, htab, hend,
    hhash⟩ := hmarks
  have hclose : c ≠ ')' := fun e => by subst e; exact absurd h (by decide)
  have hspace : isBlankOrEnd c = false := by simp [isBlankOrEnd, hblank, htab, hend]
  have hspace' : isBlank c = false := by simp [isBlank, hblank, htab]
  have hgroups : ({ s.add (.char false c) with groups := s.groups } : Reader)
      = s.add (.char false c) := rfl
  simp only [stepPlain, hback, hapostrophe, hquote, hdollar, hbackquote, hopen, hbar, hclose,
    hend, hhash, hspace, hspace', isOperatorChar_of_isSafe h, if_false, decide_false, Bool.false_and,
    Bool.or_false, Bool.false_eq_true, false_and, hgroups, ite_self]

/-- A safe character outside quotes is one more of the word. -/
theorem step_safe {s : Reader} {c : Char} (hm : s.mode = .plain .bare) (h : isSafe c = true) :
    MovedOn s (s.step c) (.plain .bare) [c] := by
  refine MovedOn.step ?_
  rw [react_bare hm, stepPlain_safe s h]
  exact MovedOn.of_add (fixed?_of_isSafe h) hm

/-- A quote begins the word or goes on with it, without a character. -/
theorem movedOn_quote {s : Reader} {m : Mode} (hm : s.mode = m) : MovedOn s s.quote m [] where
  around := by rw [around_quote, ← hm]; rfl
  word := ⟨[.quote], rfl, rfl⟩

/-- An apostrophe outside quotes opens them and adds nothing to the word. -/
theorem step_openSingle {s : Reader} (hm : s.mode = .plain .bare) :
    MovedOn s (s.step apostrophe) .single [] := by
  refine MovedOn.step ?_
  rw [react_bare hm]
  exact (movedOn_quote hm).goto .single

theorem step_openDouble {s : Reader} (hm : s.mode = .plain .bare) :
    MovedOn s (s.step '"') (.plain .double) [] := by
  refine MovedOn.step ?_
  rw [react_bare hm]
  exact (movedOn_quote hm).goto (.plain .double)

/-- Between apostrophes every other character stands for itself. -/
theorem step_single {s : Reader} {c : Char} (hm : s.mode = .single) (hc : c ≠ apostrophe) :
    MovedOn s (s.step c) .single [c] := by
  have hreact : s.react c = s.add (.char true c) := by simp only [react, hm, if_neg hc]
  refine MovedOn.step ?_
  rw [hreact]
  exact MovedOn.of_add rfl hm

/-- The next apostrophe closes them. -/
theorem step_closeSingle {s₀ s : Reader} {t : List Char} (h : MovedOn s₀ s .single t) :
    MovedOn s₀ (s.step apostrophe) (.plain .bare) t := by
  have hreact : s.react apostrophe = s.goto (.plain .bare) := by
    simp only [react, h.mode_eq, if_true]
  refine MovedOn.step ?_
  rw [hreact]
  exact h.goto _

/-- Between double quotes a character that is not live there stands for itself. -/
theorem step_double {s : Reader} {c : Char} (hm : s.mode = .plain .double)
    (hc : isLiveInQuotes c = false) : MovedOn s (s.step c) (.plain .double) [c] := by
  have hreact : s.react c = s.add (.char true c) := by
    simp only [isLiveInQuotes, Bool.or_eq_false_iff, beq_eq_false_iff_ne] at hc
    obtain ⟨⟨⟨hback, hquote⟩, hdollar⟩, hbackquote⟩ := hc
    rw [react_double hm]
    simp only [stepQuoted, hback, hquote, hdollar, hbackquote, if_false, false_and]
  refine MovedOn.step ?_
  rw [hreact]
  exact MovedOn.of_add rfl hm

theorem step_closeDouble {s₀ s : Reader} {t : List Char} (h : MovedOn s₀ s (.plain .double) t) :
    MovedOn s₀ (s.step '"') (.plain .bare) t := by
  refine MovedOn.step ?_
  rw [react_double h.mode_eq]
  exact h.goto _

/-- A backslash that quotes makes a live character stand for itself. -/
theorem steps_guarded_of_react {s : Reader} {q : Quoting} {c : Char} (hq : q = .bare ∨ q = .double)
    (hback : s.react '\\' = s.goto (.guarded q)) (hc : isLiveInQuotes c = true) :
    MovedOn s (s.steps ['\\', c]) (.plain q) [c] := by
  have hguarded : (s.step '\\').mode = .guarded q := by
    show (s.react '\\').mode = _
    rw [hback]; rfl
  have hend : c ≠ '\n' := fun e => by subst e; exact absurd hc (by decide)
  have hreact : (s.step '\\').react c = ((s.step '\\').goto (.plain q)).add (.char true c) := by
    rcases hq with rfl | rfl
    · simp [react, hguarded, stepGuarded, hend, Quoting.holds]
    · simp [react, hguarded, stepGuarded, hend, hc, Quoting.holds]
  rw [steps_cons, steps_cons, steps_nil]
  refine MovedOn.step ?_
  rw [hreact]
  refine ⟨?_, [.char true c], rfl, ?_⟩
  · rw [around_add, around_goto, around_step, hback, around_goto]; rfl
  · show some (Part.char true c :: (s.react '\\').word.getD []) = _
    rw [hback]; rfl

/-- So it does between double quotes, -/
theorem steps_guarded {s : Reader} {c : Char} (hm : s.mode = .plain .double)
    (hc : isLiveInQuotes c = true) : MovedOn s (s.steps ['\\', c]) (.plain .double) [c] := by
  refine steps_guarded_of_react (.inr rfl) ?_ hc
  rw [react_double hm]
  rfl

/-- and where nothing else is quoted. -/
theorem steps_guarded_bare {s : Reader} {c : Char} (hm : s.mode = .plain .bare)
    (hc : isLiveInQuotes c = true) : MovedOn s (s.steps ['\\', c]) (.plain .bare) [c] := by
  refine steps_guarded_of_react (.inl rfl) ?_ hc
  rw [react_bare hm]
  rfl

end Reader

/-! ## Texts that contribute to a word -/

/-- Outside quotes a reader takes `written` for the characters of `text`, all within one word. -/
def Contributes (written text : List Char) : Prop :=
  ∀ s : Reader, s.mode = .plain .bare → Reader.MovedOn s (s.steps written) (.plain .bare) text

theorem Contributes.append {a b t u : List Char} (ha : Contributes a t) (hb : Contributes b u) :
    Contributes (a ++ b) (t ++ u) := by
  intro s hm
  rw [Reader.steps_append]
  exact (ha s hm).trans (hb _ (ha s hm).mode_eq)

/-- A text of safe characters needs no quotes, unless it is empty. -/
theorem contributes_safe {cs : List Char} (hne : cs ≠ []) (h : ∀ c ∈ cs, isSafe c = true) :
    Contributes cs cs := by
  induction cs with
  | nil => exact absurd rfl hne
  | cons c cs ih =>
    have hc : Contributes [c] [c] := fun s hm => Reader.step_safe hm (h c List.mem_cons_self)
    by_cases hcs : cs = []
    · rw [hcs]; exact hc
    · exact hc.append (ih hcs fun d hd => h d (List.mem_cons_of_mem c hd))

/-- Between apostrophes, `quoteChar` writes any character so that it stands for itself. -/
theorem movedOn_quoteChar {s₀ s : Reader} {t : List Char} (h : Reader.MovedOn s₀ s .single t)
    (c : Char) : Reader.MovedOn s₀ (s.steps (quoteChar c)) .single (t ++ [c]) := by
  by_cases hc : c = apostrophe
  · -- the quote is closed, and opened again after a pair of double quotes
    subst hc
    have hclosed := Reader.step_closeSingle h
    have hopened := hclosed.trans (Reader.step_openDouble hclosed.mode_eq)
    have hinside := hopened.trans
      (Reader.step_double (c := apostrophe) hopened.mode_eq (by decide))
    have hagain := Reader.step_closeDouble hinside
    have hsingle := hagain.trans (Reader.step_openSingle hagain.mode_eq)
    rwa [List.append_nil, List.append_nil] at hsingle
  · rw [quoteChar, if_neg hc]
    exact h.trans (Reader.step_single h.mode_eq hc)

/-- Between apostrophes a quoted text is read character by character as it was before quoting. -/
theorem movedOn_quoteChars {cs : List Char} :
    ∀ {s₀ s : Reader} {t : List Char}, Reader.MovedOn s₀ s .single t →
      Reader.MovedOn s₀ (s.steps (cs.flatMap quoteChar)) .single (t ++ cs) := by
  induction cs with
  | nil => intro s₀ s t h; rw [List.append_nil]; exact h
  | cons c cs ih =>
    intro s₀ s t h
    rw [List.flatMap_cons, Reader.steps_append, List.append_cons]
    exact ih (movedOn_quoteChar h c)

/-- A quoted text is read back as it was. -/
theorem contributes_quoteChars (cs : List Char) : Contributes (quoteChars cs) cs := by
  by_cases hplain : cs ≠ [] ∧ cs.all isSafe = true
  · rw [quoteChars, if_pos hplain]
    exact contributes_safe hplain.1 (List.all_eq_true.mp hplain.2)
  · rw [quoteChars, if_neg hplain]
    intro s hm
    rw [Reader.steps_append, Reader.steps_append]
    exact Reader.step_closeSingle (movedOn_quoteChars (Reader.step_openSingle hm))

/-- A character with a meaning in double quotes gets a backslash. -/
theorem escapeChars_cons_live {c : Char} (cs : List Char) (h : isLiveInQuotes c = true) :
    escapeChars (c :: cs) = '\\' :: c :: escapeChars cs := by
  rw [escapeChars, List.flatMap_cons, if_pos h]
  rfl

theorem escapeChars_cons_inert {c : Char} (cs : List Char) (h : isLiveInQuotes c = false) :
    escapeChars (c :: cs) = c :: escapeChars cs := by
  rw [escapeChars, List.flatMap_cons, h]
  rfl

/-- Between double quotes, an escaped text stands for what it was. -/
theorem movedOn_escapeChars {cs : List Char} :
    ∀ {s₀ s : Reader} {t : List Char}, Reader.MovedOn s₀ s (.plain .double) t →
      Reader.MovedOn s₀ (s.steps (escapeChars cs)) (.plain .double) (t ++ cs) := by
  induction cs with
  | nil => intro s₀ s t h; rw [List.append_nil]; exact h
  | cons c cs ih =>
    intro s₀ s t h
    rw [List.append_cons]
    by_cases hc : isLiveInQuotes c = true
    · rw [escapeChars_cons_live cs hc]
      exact ih (h.trans (Reader.steps_guarded h.mode_eq hc))
    · have hc : isLiveInQuotes c = false := Bool.eq_false_iff.mpr hc
      rw [escapeChars_cons_inert cs hc]
      exact ih (h.trans (Reader.step_double h.mode_eq hc))

/-- An escaped text between double quotes is read back as it was. -/
theorem contributes_doubleQuoted (cs : List Char) :
    Contributes (['"'] ++ escapeChars cs ++ ['"']) cs := by
  intro s hm
  rw [Reader.steps_append, Reader.steps_append]
  exact Reader.step_closeDouble (movedOn_escapeChars (Reader.step_openDouble hm))

/-! ## Lines of words -/

/-- The words of a text in which nothing is quoted: what stands between its blanks. -/
def bareWords (cs : List Char) : List String :=
  ((cs.splitOnP isBlank).filter (· ≠ [])).map String.ofList

namespace Reader

/-- The reader has read nothing but words, each of which stands for itself: those of `done` and, if
one has begun, so far the text `begun`. -/
structure HasRead (s : Reader) (done : List String) (begun : Option (List Char)) : Prop where
  mode : s.mode = .plain .bare
  single : s.single = false
  groups : s.groups = 0
  tokens : (s.tokens.reverse.map (·.1)).mapM Token.text? = some done
  word : s.word.map (fun ps => fixedText ps.reverse) = begun.map some

namespace HasRead

variable {s : Reader} {done : List String} {begun : Option (List Char)}

/-- The parts of the word that has begun. -/
theorem parts {t : List Char} (h : s.HasRead done (some t)) :
    ∃ ps, s.word = some ps ∧ fixedText ps.reverse = some t := by
  obtain ⟨ps, hps, ht⟩ := Option.map_eq_some_iff.mp h.word
  exact ⟨ps, hps, ht⟩

theorem word_eq_none (h : s.HasRead done none) : s.word = none := Option.map_eq_none_iff.mp h.word

/-- What contributes to a word goes on with it, or begins one. -/
theorem contribute (h : s.HasRead done begun) {written text : List Char}
    (hc : Contributes written text) :
    (s.steps written).HasRead done (some (begun.getD [] ++ text)) := by
  have hmoved := hc s h.mode
  have haround := hmoved.around
  have hstays {α : Type} (f : Reader → α) (hf : f (s.steps written).around = f (s.steps written))
      (hf' : f (s.around.goto (.plain .bare)) = f s) : f (s.steps written) = f s := by
    rw [← hf, haround, hf']
  obtain ⟨qs, hqs, hw⟩ := hmoved.word
  refine ⟨hmoved.mode_eq, (hstays (·.single) rfl rfl).trans h.single,
    (hstays (·.groups) rfl rfl).trans h.groups, ?_, ?_⟩
  · rw [hstays (·.tokens) rfl rfl]
    exact h.tokens
  · rw [hw, Option.map_some, List.reverse_append, List.reverse_reverse, Option.map_some]
    refine congrArg some (fixedText_append ?_ hqs)
    cases begun with
    | none => rw [h.word_eq_none]; rfl
    | some t =>
      obtain ⟨ps, hps, ht⟩ := h.parts
      rw [hps]
      exact ht

/-- All tokens are words. -/
theorem exists_word (h : s.HasRead done begun) {t : Placed} (ht : t ∈ s.tokens) :
    ∃ w, t.1 = .word w := by
  have htext := ne_none_of_mapM h.tokens (List.mem_map_of_mem (List.mem_reverse.mpr ht))
  cases ht' : t.1 with
  | word w => exact ⟨w, rfl⟩
  | _ => rw [ht'] at htext; exact absurd rfl htext

/-- No arrow announces a document, so a word is a word. -/
theorem wordToken (h : s.HasRead done begun) (w : Word) : s.wordToken w = .word w := by
  unfold Reader.wordToken
  split
  next heq =>
    obtain ⟨w', hw'⟩ := h.exists_word (heq ▸ List.mem_cons_self)
    exact Token.noConfusion hw'
  next heq =>
    obtain ⟨w', hw'⟩ := h.exists_word (heq ▸ List.mem_cons_self)
    exact Token.noConfusion hw'
  next => rfl

/-- The word that has begun is one more of those that have been read. -/
theorem flush (h : s.HasRead done begun) :
    s.flush.HasRead (done ++ begun.toList.map String.ofList) none := by
  cases begun with
  | none =>
    have hflush : s.flush = s := by rw [Reader.flush, h.word_eq_none]
    rw [hflush, Option.toList_none, List.map_nil, List.append_nil]
    exact h
  | some t =>
    obtain ⟨ps, hps, ht⟩ := h.parts
    have hword (w : Word) : s.wordToken w = .word w := h.wordToken w
    refine ⟨?_, ?_, ?_, ?_, ?_⟩ <;> simp only [Reader.flush, hps, hword]
    · exact h.mode
    · exact h.single
    · exact h.groups
    · have htext : Token.text? (.word { parts := ps.reverse, source := s.source.reverse })
          = some (String.ofList t) := by
        show (ps.reverse.mapM Part.fixed?).map (fun cs => String.ofList cs.flatten) = _
        obtain ⟨as, has, rfl⟩ := Option.map_eq_some_iff.mp ht
        rw [has, Option.map_some]
      simp only [emit, List.reverse_cons, List.map_append, List.mapM_append, h.tokens,
        List.map_cons, List.map_nil, List.mapM_cons, List.mapM_nil, htext]
      rfl
    · rfl

/-- The word that has begun is not an index that is still open. -/
theorem isInIndex (h : s.HasRead done begun) : s.isInIndex = false := by
  have hopen : s.word.any isOpenIndex = false := by
    cases begun with
    | none => rw [h.word_eq_none]; rfl
    | some t =>
      obtain ⟨ps, hps, ht⟩ := h.parts
      rw [hps]
      exact isOpenIndex_of_fixedText ht
  rw [Reader.isInIndex, hopen, Bool.and_false]

/-- A blank ends the word. -/
theorem blank (h : s.HasRead done begun) {c : Char} (hc : isBlank c = true) :
    (s.step c).HasRead (done ++ begun.toList.map String.ofList) none := by
  have hreact : s.react c = s.flush := by
    rw [react_bare h.mode]
    simp only [isBlank, Bool.or_eq_true, beq_iff_eq] at hc
    rcases hc with rfl | rfl <;>
      simp [stepPlain, h.single, h.groups, h.isInIndex, isBlank, apostrophe, backquote]
  have hflush := h.flush
  exact ⟨by rw [← hflush.mode, ← hreact]; rfl, by rw [← hflush.single, ← hreact]; rfl,
    by rw [← hflush.groups, ← hreact]; rfl, by rw [← hflush.tokens, ← hreact]; rfl,
    by rw [← hflush.word, ← hreact]; rfl⟩

/-- A text in which nothing is quoted is read as the words between its blanks. `begun` is the word
that is under way, last character first. -/
theorem splitOnP {cs : List Char} (hcs : ∀ c ∈ cs, isSafe c = true ∨ isBlank c = true) :
    ∀ (begun : List Char) {s : Reader} {done : List String},
      s.HasRead done (if begun = [] then none else some begun.reverse) →
      (s.steps (cs ++ [' '])).HasRead
        (done ++ ((cs.splitOnPPrepend isBlank begun).filter (· ≠ [])).map String.ofList) none := by
  induction cs with
  | nil =>
    intro begun s done h
    -- the blank at the end finishes the word that is open, if there is one
    have hblank := h.blank (c := ' ') rfl
    by_cases hbegun : begun = []
    · subst hbegun
      exact hblank
    · rw [if_neg hbegun] at hblank
      have hne : begun.reverse ≠ [] := fun e => hbegun (List.reverse_eq_nil_iff.mp e)
      simpa [hne] using hblank
  | cons c cs ih =>
    intro begun s done h
    have hrest : ∀ d ∈ cs, isSafe d = true ∨ isBlank d = true :=
      fun d hd => hcs d (List.mem_cons_of_mem c hd)
    rw [List.cons_append, Reader.steps_cons]
    by_cases hc : isBlank c = true
    -- a blank ends the word; a blank after a blank adds none
    · have hafter := ih hrest [] (by rw [if_pos rfl]; exact h.blank hc)
      rw [List.splitOnPPrepend_cons_pos hc]
      by_cases hbegun : begun = []
      · subst hbegun
        simpa using hafter
      · have hne : begun.reverse ≠ [] := fun e => hbegun (List.reverse_eq_nil_iff.mp e)
        simpa [hbegun, hne] using hafter
    · have hsafe := (hcs c List.mem_cons_self).resolve_right hc
      have hone := h.contribute (contributes_safe (List.cons_ne_nil c [])
        (fun d hd => by rw [List.mem_singleton.mp hd]; exact hsafe))
      rw [List.splitOnPPrepend_cons_neg (Bool.eq_false_iff.mpr hc)]
      refine ih hrest (c :: begun) ?_
      rw [if_neg (List.cons_ne_nil c begun), List.reverse_cons]
      by_cases hbegun : begun = []
      · subst hbegun
        exact hone
      · rw [if_neg hbegun] at hone
        exact hone

/-- A line goes on with texts that each contribute to a word, with blanks between them. -/
theorem spaced {ps : List (List Char × String)} (hps : ∀ p ∈ ps, Contributes p.1 p.2.toList)
    (hne : ps ≠ []) :
    ∀ {s : Reader} {done : List String}, s.HasRead done none →
      ∃ before last, (s.steps (spaced (ps.map (·.1)))).HasRead before (some last)
        ∧ before ++ [String.ofList last] = done ++ ps.map (·.2) := by
  induction ps with
  | nil => exact absurd rfl hne
  | cons p ps ih =>
    intro s done h
    have hp := h.contribute (hps p List.mem_cons_self)
    by_cases hnil : ps = []
    · subst hnil
      refine ⟨done, p.2.toList, ?_, ?_⟩
      · simpa [Shell.spaced] using hp
      · rw [String.ofList_toList]; rfl
    · obtain ⟨q, qs, rfl⟩ := List.exists_cons_of_ne_nil hnil
      have hsplit : Shell.spaced ((p :: q :: qs).map (·.1))
          = p.1 ++ ' ' :: Shell.spaced ((q :: qs).map (·.1)) := rfl
      obtain ⟨before, last, hread, heq⟩ := ih (fun r hr => hps r (List.mem_cons_of_mem p hr)) hnil
        (hp.blank (c := ' ') rfl)
      refine ⟨before, last, ?_, ?_⟩
      · rw [hsplit, Reader.steps_append, Reader.steps_cons]
        exact hread
      · rw [heq]
        simp

/-- At the end of a line, the words are those that have been read. -/
theorem finish (h : s.HasRead done begun) :
    (s.finish.tokens.reverse.map (·.1)).mapM Token.text?
      = some (done ++ begun.toList.map String.ofList) := by
  have hfill (n : Nat) : ∀ t ∈ s.flush.tokens, Reader.finish.fillEmpty n t = t := by
    intro t ht
    obtain ⟨w, hw⟩ := h.flush.exists_word ht
    obtain ⟨token, line⟩ := t
    rw [show token = .word w from hw]
    rfl
  have hfinish : s.finish.tokens = s.flush.tokens := by
    simp only [Reader.finish, h.mode, h.isInIndex]
    exact (List.map_congr_left (hfill _)).trans (List.map_id _)
  rw [hfinish]
  exact h.flush.tokens

end HasRead

end Reader

/-- Nothing has been read yet. -/
theorem hasRead_start : ({ line := 1 } : Reader).HasRead [] none := ⟨rfl, rfl, rfl, rfl, rfl⟩

/-- The words of a line are those that have been read at its end. -/
theorem words?_of_hasRead {cs : List Char} {done : List String} {begun : Option (List Char)}
    (h : (Reader.steps { line := 1 } cs).HasRead done begun) :
    words? cs = some (done ++ begun.toList.map String.ofList) := by
  rw [words?, tokens, tokensFrom]
  exact h.finish

/-- The words of a line are what its parts contribute. -/
theorem words?_spaced {ps : List (List Char × String)}
    (hps : ∀ p ∈ ps, Contributes p.1 p.2.toList) (hne : ps ≠ []) :
    words? (spaced (ps.map (·.1))) = some (ps.map (·.2)) := by
  obtain ⟨before, last, hread, heq⟩ := hasRead_start.spaced hps hne
  rw [words?_of_hasRead hread]
  exact congrArg some heq

/-- The words of a line that begins with words in which nothing is quoted. -/
theorem words?_bare_spaced {cs : List Char} (hcs : ∀ c ∈ cs, isSafe c = true ∨ isBlank c = true)
    {ps : List (List Char × String)} (hps : ∀ p ∈ ps, Contributes p.1 p.2.toList) (hne : ps ≠ []) :
    words? (cs ++ [' '] ++ spaced (ps.map (·.1))) = some (bareWords cs ++ ps.map (·.2)) := by
  have htool := Reader.HasRead.splitOnP hcs [] (by rw [if_pos rfl]; exact hasRead_start)
  obtain ⟨before, last, hread, heq⟩ := htool.spaced hps hne
  rw [← Reader.steps_append] at hread
  rw [words?_of_hasRead hread]
  exact congrArg some heq

end JobLauncher.Shell
