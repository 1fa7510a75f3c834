import JobLauncher.Proofs.Shell.Container

/-!
# Quoted texts anywhere in a line

What `quote` writes is read back wherever a word may begin or go on, and what `quoteForRemote`
writes is read as a quoted word wherever it stands between double quotes. The lemmas about readers
assume no more than the mode that the reader is in; here they are brought to the places where a text
is put into a line: within a word of safe characters, right after an operator, and between other
texts in the same pair of double quotes.

> `quoting_round_trip`: a quoted text adds its characters to one word and leaves nothing quoted; an
> escaped one leaves the double quotes open throughout and stands for the quoted text. So no two
> texts are written alike.
-/

namespace JobLauncher.Shell

namespace Reader

/-! ## Where a word may begin or go on -/

/-- Nothing is quoted where `s` is, and `written` is read from `s` as from `s₀`: `s` is in a word or
between words, or it is at the end of an operator that does not go on with `written`. -/
inductive Outside (written : List Char) : Reader → Reader → Prop where
  | plain {s : Reader} (hmode : s.mode = .plain .bare) : Outside written s s
  | operator {s : Reader} {done : List Char} (hmode : s.mode = .operator done)
      (hends : ∀ c, written.head? = some c →
        s.isOperator (String.ofList (c :: done).reverse) = false) :
      Outside written s (s.endOperator done)

/-- Wherever a word may begin, it is read as it would be read after a blank. -/
theorem Outside.movedOn {written text : List Char} {s s₀ : Reader} (h : Outside written s s₀)
    (hne : written ≠ []) (hparen : written.head? ≠ some '(') (hc : Contributes written text) :
    MovedOn s₀ (s.steps written) (.plain .bare) text := by
  cases h with
  | plain hmode => exact hc s hmode
  | @operator done hmode hends =>
    obtain ⟨c, cs, rfl⟩ := List.exists_cons_of_ne_nil hne
    have hc' : c ≠ '(' := fun e => hparen (congrArg some e)
    have hstep : s.step c = (s.endOperator done).step c := step_operator hmode hc' (hends c rfl)
    rw [steps_cons, hstep, ← steps_cons]
    exact hc _ rfl

/-! ## Between double quotes -/

/-- The reader is between double quotes, perhaps right after a backslash. -/
def IsDoubleQuoted (s : Reader) : Prop := s.mode = .plain .double ∨ s.mode = .guarded .double

theorem mode_step_backslash {s : Reader} (hm : s.mode = .plain .double) :
    (s.step '\\').mode = .guarded .double := by
  show (s.react '\\').mode = _
  rw [react_double hm]
  rfl

/-- Whatever is escaped, no part of it ends the double quotes. -/
theorem isDoubleQuoted_of_prefix {cs : List Char} :
    ∀ {s : Reader}, s.mode = .plain .double →
      ∀ part, part <+: escapeChars cs → (s.steps part).IsDoubleQuoted := by
  induction cs with
  | nil =>
    intro s hm part hpart
    rw [List.prefix_nil.mp hpart]
    exact .inl hm
  | cons c cs ih =>
    intro s hm part hpart
    by_cases hc : isLiveInQuotes c = true
    · rw [escapeChars_cons_live cs hc] at hpart
      obtain rfl | ⟨guarded, rfl, hguarded⟩ := List.prefix_cons_iff.mp hpart
      · exact .inl hm
      obtain rfl | ⟨rest, rfl, hrest⟩ := List.prefix_cons_iff.mp hguarded
      · exact .inr (mode_step_backslash hm)
      · exact ih (steps_guarded hm hc).mode_eq rest hrest
    · have hc : isLiveInQuotes c = false := Bool.eq_false_iff.mpr hc
      rw [escapeChars_cons_inert cs hc] at hpart
      obtain rfl | ⟨rest, rfl, hrest⟩ := List.prefix_cons_iff.mp hpart
      · exact .inl hm
      · exact ih (step_double hm hc).mode_eq rest hrest

/-- A text that is not empty begins a word or goes on with it, whatever has been read. -/
theorem movedOn_of_ne_nil {cs : List Char} (hne : cs ≠ []) {s : Reader}
    (hm : s.mode = .plain .double) :
    MovedOn s (s.steps (escapeChars cs)) (.plain .double) cs := by
  obtain ⟨c, cs, rfl⟩ := List.exists_cons_of_ne_nil hne
  by_cases hc : isLiveInQuotes c = true
  · rw [escapeChars_cons_live cs hc]
    exact movedOn_escapeChars (steps_guarded hm hc)
  · have hc : isLiveInQuotes c = false := Bool.eq_false_iff.mpr hc
    rw [escapeChars_cons_inert cs hc]
    exact movedOn_escapeChars (step_double hm hc)

end Reader

/-! ## The texts around -/

/-- Even nothing is written as something: a pair of quotes. -/
theorem quoteChars_ne_nil (cs : List Char) : quoteChars cs ≠ [] := by
  unfold quoteChars
  split
  next h => exact h.1
  next => exact List.cons_ne_nil _ _

/-- A quoted text begins with a safe character or with an apostrophe. -/
theorem head_quoteChars {cs : List Char} {c : Char} (h : (quoteChars cs).head? = some c) :
    isSafe c = true ∨ c = apostrophe := by
  unfold quoteChars at h
  split at h
  next hsafe => exact .inl (List.all_eq_true.mp hsafe.2 c (List.mem_of_head? h))
  next => exact .inr (Option.some.inj h).symm

/-- A quoted text within a word of safe characters. -/
theorem contributes_glued {before after : String} (hbefore : before.toList.all isSafe = true)
    (hafter : after.toList.all isSafe = true) (s : String) :
    Contributes (before ++ quote s ++ after).toList (before ++ s ++ after).toList := by
  have hquoted : Contributes (before ++ quote s).toList (before ++ s).toList :=
    contributes_quotedWord hbefore s
  rw [String.toList_append, @String.toList_append (before ++ s)]
  by_cases hnil : after.toList = []
  · rw [hnil, List.append_nil, List.append_nil]
    exact hquoted
  · exact hquoted.append (contributes_safe hnil (List.all_eq_true.mp hafter))

theorem glued_ne_nil (before s after : String) : (before ++ quote s ++ after).toList ≠ [] := by
  rw [String.toList_append, String.toList_append, toList_quote]
  exact List.append_ne_nil_of_left_ne_nil
    (List.append_ne_nil_of_right_ne_nil _ (quoteChars_ne_nil s.toList)) _

/-- Neither of them is a parenthesis, and no more are the safe characters before it. -/
theorem head_glued {before : String} (hbefore : before.toList.all isSafe = true)
    (s after : String) : (before ++ quote s ++ after).toList.head? ≠ some '(' := by
  intro h
  obtain ⟨c, cs, hcs⟩ := List.exists_cons_of_ne_nil (quoteChars_ne_nil s.toList)
  have hc : isSafe c = true ∨ c = apostrophe := head_quoteChars (by rw [hcs]; rfl)
  rw [String.toList_append, String.toList_append, toList_quote, hcs] at h
  cases hchars : before.toList with
  | nil =>
    rw [hchars] at h
    obtain rfl : c = '(' := Option.some.inj h
    rcases hc with hsafe | hquote
    · exact absurd hsafe (by decide)
    · exact absurd hquote (by decide)
  | cons d ds =>
    rw [hchars] at h hbefore
    obtain rfl : d = '(' := Option.some.inj h
    exact absurd (List.all_eq_true.mp hbefore _ List.mem_cons_self) (by decide)

/-- Texts with nothing to escape around an escaped one are escaped with it. -/
theorem toList_escaped {before after : String} (hbefore : before.toList.any isLiveInQuotes = false)
    (hafter : after.toList.any isLiveInQuotes = false) (s : String) :
    (before ++ quoteForRemote s ++ after).toList
      = escapeChars (before ++ quote s ++ after).toList := by
  have hsame : (before ++ quoteForRemote s ++ after) = escape (before ++ quote s ++ after) := by
    have hend : escape after = after := by
      rw [escape, escapeChars_inert hafter, String.ofList_toList]
    rw [escape_append, escape_inert_append hbefore, hend]
    rfl
  rw [hsame, toList_escape]

/-- So different texts are quoted differently. -/
theorem quote_injective : Function.Injective quote := by
  intro s t h
  have hread (s : String) : words? (quote s).toList = some [s] := by
    rw [toList_quote]
    exact words?_of_contributes (contributes_quoteChars s.toList)
  have hsame := hread s
  rw [h, hread t] at hsame
  exact (List.singleton_inj.mp (Option.some.inj hsame)).symm

/-- They stay different when they are escaped as well. -/
theorem quoteForRemote_injective : Function.Injective quoteForRemote := by
  intro s t h
  have hread (s : String) : unescape? (quoteForRemote s).toList = some (quote s).toList := by
    rw [quoteForRemote, toList_escape, unescape?_escapeChars]
  have hsame := hread s
  rw [h, hread t] at hsame
  exact quote_injective (String.toList_inj.mp (Option.some.inj hsame)).symm

/-- Quoted and escaped texts are read back, wherever they stand. A quoted one, with or without safe
characters around it, adds its characters to the word that it stands in and leaves nothing quoted.
An escaped one, with or without texts around it in the same double quotes, stands for the quoted
text and does not end the quotes anywhere. -/
theorem quoting_round_trip :
    (∀ before s after : String,
      before.toList.all isSafe = true → after.toList.all isSafe = true →
      (∀ r r₀ : Reader, Reader.Outside (before ++ quote s ++ after).toList r r₀ →
        Reader.MovedOn r₀ (r.steps (before ++ quote s ++ after).toList) (.plain .bare)
          (before ++ s ++ after).toList)
      ∧ words? (before ++ quote s ++ after).toList = some [before ++ s ++ after])
    ∧ (∀ before s after : String,
      before.toList.any isLiveInQuotes = false → after.toList.any isLiveInQuotes = false →
      (∀ r : Reader, r.mode = .plain .double →
        Reader.MovedOn r (r.steps (before ++ quoteForRemote s ++ after).toList) (.plain .double)
          (before ++ quote s ++ after).toList
        ∧ ∀ part, part <+: (before ++ quoteForRemote s ++ after).toList →
            (r.steps part).IsDoubleQuoted)
      ∧ unescape? (before ++ quoteForRemote s ++ after).toList
          = some (before ++ quote s ++ after).toList)
    ∧ Function.Injective quote ∧ Function.Injective quoteForRemote := by
  refine ⟨fun before s after hbefore hafter => ?quoted,
    fun before s after hbefore hafter => ?escaped, quote_injective, quoteForRemote_injective⟩
  case quoted =>
    have hglued := contributes_glued hbefore hafter s
    have hne := glued_ne_nil before s after
    -- a parenthesis right after an operator would be read otherwise
    have hparen := head_glued hbefore s after
    exact ⟨fun r r₀ hr => hr.movedOn hne hparen hglued, words?_of_contributes hglued⟩
  case escaped =>
    rw [toList_escaped hbefore hafter]
    have hne := glued_ne_nil before s after
    exact ⟨fun r hm => ⟨Reader.movedOn_of_ne_nil hne hm, Reader.isDoubleQuoted_of_prefix hm⟩,
      unescape?_escapeChars _⟩

/-- A text that is written to be misread. -/
def misleading : String := "it's \x60id\x60 \"$(id)\" \\\n#"

/-- A reader that has come to the end of two characters that are one operator. -/
def afterOperator : Reader := Reader.steps {} "true &&".toList

/-- A text full of quotes, backslashes and variables comes through. -/
theorem quoting_round_trip_misleading :
    "--name=".toList.all isSafe = true ∧ ".log".toList.all isSafe = true
    ∧ words? ("--name=" ++ quote misleading ++ ".log").toList
        = some ["--name=" ++ misleading ++ ".log"]
    ∧ afterOperator.mode = .operator ['&', '&']
    ∧ Reader.MovedOn (afterOperator.endOperator ['&', '&'])
        (afterOperator.steps ("--name=" ++ quote misleading ++ ".log").toList) (.plain .bare)
        ("--name=" ++ misleading ++ ".log").toList
    ∧ "echo 'now: ".toList.any isLiveInQuotes = false ∧ "'".toList.any isLiveInQuotes = false
    ∧ unescape? ("echo 'now: " ++ quoteForRemote misleading ++ "'").toList
        = some ("echo 'now: " ++ quote misleading ++ "'").toList := by
  obtain ⟨hquoted, hescaped, -⟩ := quoting_round_trip
  have hbefore : "--name=".toList.all isSafe = true := by decide
  have hafter : ".log".toList.all isSafe = true := by decide
  have hopen : "echo 'now: ".toList.any isLiveInQuotes = false := by decide
  have hclose : "'".toList.any isLiveInQuotes = false := by decide
  have hmode : afterOperator.mode = .operator ['&', '&'] := by decide +kernel
  have hends : ∀ c, ("--name=" ++ quote misleading ++ ".log").toList.head? = some c →
      afterOperator.isOperator (String.ofList (c :: ['&', '&']).reverse) = false := by
    intro c hc
    have hdash : '-' = c := Option.some.inj hc
    subst hdash
    decide +kernel
  obtain ⟨hread, hwords⟩ := hquoted "--name=" misleading ".log" hbefore hafter
  obtain ⟨-, hunescape⟩ := hescaped "echo 'now: " misleading "'" hopen hclose
  exact ⟨hbefore, hafter, hwords, hmode, hread _ _ (.operator hmode hends), hopen, hclose,
    hunescape⟩

end JobLauncher.Shell
