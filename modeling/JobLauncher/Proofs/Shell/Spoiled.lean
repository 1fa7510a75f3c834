import JobLauncher.Proofs.Shell.Kept

/-!
# Lines that are more than words

What makes a line more than words stays in it: an operator, a comment, the end of a line, something
to be looked up. A reader that has met such a thing is `Lost`, and it stays lost whatever follows
(`Lost.steps`), so the line has no words (`takenWords?_of_lost`).

The words here are taken in a wider sense than those of `words?`. A character that a shell may act
on, such as one of a pattern, stands for itself where there is nothing to find, and `takenWords?`
takes it as it is.
-/

namespace JobLauncher.Shell

/-! ## Words, taken as they are -/

/-- The characters that a part stands for, patterns being taken as they are. -/
def Part.taken? : Part → Option (List Char)
  | .char _ c => some [c]
  | .quote => some []
  | _ => none

/-- The text of a token that is a word in which nothing is looked up. -/
def Token.taken? : Token → Option String
  | .word w => (w.parts.mapM Part.taken?).map fun cs => String.ofList cs.flatten
  | _ => none

/-- The words of a line that is nothing but words, patterns being taken as they are. -/
def takenWords? (cs : List Char) : Option (List String) := (tokens cs).mapM Token.taken?

/-- What stands for itself is taken as it is. -/
theorem Part.taken?_of_fixed? {p : Part} {a : List Char} (h : p.fixed? = some a) :
    p.taken? = some a := by
  cases p with
  | char quoted c => exact (Option.ite_none_left_eq_some.mp h).2
  | quote => exact h
  | _ => cases h

/-- What succeeds on each element of a list gives the same if it is done in a wider sense. -/
theorem mapM_of_imp {α β : Type} {f g : α → Option β} (hfg : ∀ a b, f a = some b → g a = some b)
    {xs : List α} {ys : List β} (h : xs.mapM f = some ys) : xs.mapM g = some ys := by
  induction xs generalizing ys with
  | nil => exact h
  | cons a xs ih =>
    rw [List.mapM_cons] at h ⊢
    obtain ⟨b, hb, h⟩ := Option.bind_eq_some_iff.mp h
    obtain ⟨bs, hbs, h⟩ := Option.bind_eq_some_iff.mp h
    rw [hfg a b hb, ih hbs]
    exact h

/-- A line of words that stand for themselves is a line of these words. -/
theorem takenWords?_of_words? {cs : List Char} {ws : List String} (h : words? cs = some ws) :
    takenWords? cs = some ws := by
  refine mapM_of_imp (fun t w ht => ?_) h
  cases t with
  | word w' =>
    obtain ⟨as, has, hw⟩ := Option.map_eq_some_iff.mp ht
    have htaken := mapM_of_imp (fun p a => Part.taken?_of_fixed?) has
    exact Option.map_eq_some_iff.mpr ⟨as, htaken, hw⟩
  | _ => cases ht

namespace Reader

/-! ## Readers that are lost -/

/-- Something that has been read is not a word. -/
def Spoiled (s : Reader) : Prop := ∃ t ∈ s.tokens, t.1.taken? = none

/-- Something in the word that has begun is looked up. -/
def HasExpansion (s : Reader) : Prop := ∃ p ∈ s.word.getD [], p.taken? = none

end Reader

/-- What is read is no part of a word. -/
def Mode.isBeside : Mode → Bool
  | .comment | .document _ _ => true
  | _ => false

/-- What is being read will not be a word, nor a part of one that is taken as it is. -/
def Mode.isForeign : Mode → Bool
  | .operator _ => true
  | .inside _ o _ _ => o != .escapes
  | _ => false

namespace Reader

/-- What has been read cannot become words any more. -/
inductive Lost (s : Reader) : Prop where
  | spoiled (h : s.Spoiled)
  | expansion (hmode : s.mode.isBeside = false) (h : s.HasExpansion)
  | foreign (h : s.mode.isForeign = true)

variable {s : Reader}

/-! ### What is spoiled stays so -/

theorem spoiled_emit {t : Token} (h : t.taken? = none) (s : Reader) : (s.emit t).Spoiled :=
  ⟨_, List.mem_cons_self, h⟩

theorem spoiled_endLine (s : Reader) : s.endLine.Spoiled := by
  have hline : (s.flush.emit .newline).Spoiled := spoiled_emit rfl _
  exact iteInduction (motive := Spoiled) (fun _ => hline) fun _ => hline

theorem spoiled_endOperator (s : Reader) (done : List Char) : (s.endOperator done).Spoiled :=
  spoiled_emit rfl s

/-- A document that gets its text remains one. -/
theorem exists_fill {ts : List Placed} (text : List Char) (cut : Option Nat)
    (h : ∃ t ∈ ts, t.1.taken? = none) : ∃ t ∈ fill text cut ts, t.1.taken? = none := by
  fun_induction fill text cut ts with
  | case1 => exact h
  | case2 d n earlier hkept ih =>
    exact ⟨_, List.mem_cons_self, rfl⟩
  | case3 d n earlier hfilled =>
    exact ⟨_, List.mem_cons_self, rfl⟩
  | case4 t earlier hother ih =>
    obtain ⟨t', ht', hnone⟩ := h
    rcases List.mem_cons.mp ht' with rfl | ht'
    · exact ⟨t', List.mem_cons_self, hnone⟩
    · obtain ⟨t'', ht'', hnone⟩ := ih ⟨t', ht', hnone⟩
      exact ⟨t'', List.mem_cons_of_mem t ht'', hnone⟩

/-- A token that has been found stays there when a line end is moved. -/
theorem exists_moveNewline {ts : List Placed} (line : Nat) (h : ∃ t ∈ ts, t.1.taken? = none) :
    ∃ t ∈ moveNewline line ts, t.1.taken? = none := by
  unfold moveNewline
  split
  · exact ⟨_, List.mem_cons_self, rfl⟩
  · exact h

/-- A document is not taken, filled or not. -/
theorem taken?_fillEmpty (n : Nat) (t : Placed) :
    (finish.fillEmpty n t).1.taken? = t.1.taken? := by
  obtain ⟨t, line⟩ := t
  cases t with
  | document d =>
    unfold finish.fillEmpty
    exact iteInduction (motive := fun t : Placed => t.1.taken? = none) (fun _ => rfl) fun _ => rfl
  | _ => rfl

theorem Spoiled.fillEmpty (h : s.Spoiled) (n : Nat) :
    Spoiled { s with tokens := s.tokens.map (finish.fillEmpty n) } := by
  obtain ⟨t, ht, hnone⟩ := h
  exact ⟨_, List.mem_map_of_mem ht, by rw [taken?_fillEmpty]; exact hnone⟩

/-- What is spoiled stays so: no step takes a token back. -/
theorem lasting_spoiled : Lasting fun ts => ∃ t ∈ ts, t.1.taken? = none where
  cons := fun ⟨t', ht', hnone⟩ t => ⟨t', List.mem_cons_of_mem t ht', hnone⟩
  fill h text cut := exists_fill text cut h
  moveNewline h line := exists_moveNewline line h
  fillEmpty {ts} h line := Spoiled.fillEmpty (s := { tokens := ts }) h line

/-! ### What is looked up in a word stays in it -/

theorem HasExpansion.add (h : s.HasExpansion) (p : Part) : (s.add p).HasExpansion := by
  obtain ⟨p', hp', hnone⟩ := h
  exact ⟨p', List.mem_cons_of_mem p hp', hnone⟩

/-- A word is a word unless it announces a document. -/
theorem wordToken_eq_or (s : Reader) (w : Word) :
    s.wordToken w = .word w ∨ (s.wordToken w).taken? = none := by
  unfold wordToken
  split
  next =>
    split
    next => exact .inl rfl
    next => exact .inr rfl
  next => exact .inr rfl
  next => exact .inl rfl

/-- A word in which something is looked up has no text. -/
theorem HasExpansion.flush (h : s.HasExpansion) : s.flush.Spoiled := by
  obtain ⟨p, hp, hnone⟩ := h
  unfold Reader.flush
  cases hword : s.word with
  | none =>
    rw [hword] at hp
    exact absurd hp List.not_mem_nil
  | some parts =>
    rw [hword] at hp
    refine spoiled_emit ?_ s
    rcases s.wordToken_eq_or { parts := parts.reverse, source := s.source.reverse }
      with heq | hnone'
    · rw [heq]
      refine Option.map_eq_none_iff.mpr ?_
      cases hparts : parts.reverse.mapM Part.taken? with
      | none => rfl
      | some as => exact absurd hnone (ne_none_of_mapM hparts (List.mem_reverse.mpr hp))
    · exact hnone'

/-- Outside quotes, a word with an expansion goes on, or ends and spoils the reading. -/
theorem HasExpansion.stepPlain (hm : s.mode = .plain .bare) (h : s.HasExpansion) (c : Char) :
    (s.stepPlain c).Lost := by
  have hstep := unquoted_stepPlain s c
  -- the cases are what the step can come to, and not the branches of its definition
  generalize s.stepPlain c = s' at hstep ⊢
  cases hstep with
  | apostrophe => exact .expansion rfl (h.add _)
  | double => exact .expansion rfl (h.add _)
  | add groups =>
    have hmode : Mode.isBeside s.mode = false := by rw [hm]; rfl
    exact .expansion hmode (h.add _)
  | blank => exact .spoiled h.flush
  | line => exact .spoiled (spoiled_endLine s)
  | operator => exact .foreign rfl
  | comment => exact .spoiled (spoiled_emit rfl s)
  | _ => exact .expansion rfl h

theorem HasExpansion.stepQuoted {q : Quoting} (hm : s.mode = .plain q) (h : s.HasExpansion)
    (c : Char) : (s.stepQuoted q c).Lost := by
  have hmode : Mode.isBeside s.mode = false := by rw [hm]; rfl
  unfold Reader.stepQuoted
  repeat' split
  any_goals exact .expansion rfl h
  exact .expansion hmode (h.add _)

theorem HasExpansion.stepText (h : s.HasExpansion) (q : Quoting) (c : Char) :
    (s.stepText q c).Lost :=
  iteInduction (motive := Lost)
    (fun _ => HasExpansion.stepPlain (s := s.goto (.plain .bare)) rfl h c)
    fun _ => HasExpansion.stepQuoted (s := s.goto (.plain q)) rfl h c

theorem HasExpansion.stepGuarded (h : s.HasExpansion) (q : Quoting) (c : Char) :
    (s.stepGuarded q c).Lost := by
  unfold Reader.stepGuarded
  repeat' split
  · exact .expansion rfl h
  · exact .expansion rfl ((h.add _).add _)
  · exact .expansion rfl (h.add _)

theorem HasExpansion.stepDollar (h : s.HasExpansion) (q : Quoting) (c : Char) :
    (s.stepDollar q c).Lost := by
  unfold Reader.stepDollar
  repeat' split
  · exact .expansion rfl h
  · exact .expansion rfl (h.add _)
  · exact .expansion rfl (h.add _)
  · exact .expansion rfl (h.add _)
  · exact .expansion rfl h
  · exact .expansion rfl h
  · exact .expansion rfl h
  · exact (h.add _).stepText q c

theorem word_foldl_add (ps : List Part) (s : Reader) :
    (ps.foldl Reader.add s).word.getD [] = ps.reverse ++ s.word.getD [] := by
  induction ps generalizing s with
  | nil => rfl
  | cons p ps ih =>
    rw [List.foldl_cons, ih, List.reverse_cons, List.append_assoc]
    rfl

/-- An expansion is looked up, unless it is one that writes characters another way. -/
theorem exists_expansion {o : Opening} (ho : o ≠ .escapes) (q : Quoting) (inside : List Char) :
    ∃ p ∈ expansion q o inside, p.taken? = none := by
  cases o with
  | escapes => exact absurd rfl ho
  | output | command =>
    cases henclosed : Frame.enclosed? inside with
    | _ =>
      simp only [expansion, henclosed]
      exact ⟨_, List.mem_cons_self, rfl⟩
  | _ => exact ⟨_, List.mem_cons_self, rfl⟩

/-- The end of an expansion leaves it in the word, or makes a token of it. -/
theorem lost_endExpansion {q : Quoting} {o : Opening} {inside : List Char}
    (h : o ≠ .escapes ∨ s.HasExpansion) : (s.endExpansion q o inside).Lost := by
  have hparts : ((expansion q o inside).foldl Reader.add s).HasExpansion := by
    unfold HasExpansion
    rw [word_foldl_add]
    rcases h with ho | ⟨p, hp, hnone⟩
    · obtain ⟨p, hp, hnone⟩ := exists_expansion ho q inside
      exact ⟨p, List.mem_append_left _ (List.mem_reverse.mpr hp), hnone⟩
    · exact ⟨p, List.mem_append_right _ hp, hnone⟩
  cases o with
  | command =>
    refine .spoiled (spoiled_emit ?_ s)
    split
    all_goals rfl
  | _ => exact .expansion rfl hparts

/-- Inside an expansion the reading is lost already. -/
theorem lost_stepInside {q : Quoting} {o : Opening} (h : o ≠ .escapes ∨ s.HasExpansion)
    (frames : List Frame) (done : List Char) (c : Char) :
    (s.stepInside q o frames done c).Lost := by
  unfold stepInside
  cases Frame.after c done frames with
  | nil => exact lost_endExpansion h
  | cons f fs =>
    rcases h with ho | h
    · exact .foreign (bne_iff_ne.mpr ho)
    · exact .expansion rfl h

/-- An operator is not taken literally, however it ends. -/
theorem lost_stepOperator (s : Reader) (done : List Char) (c : Char) :
    (s.stepOperator done c).Lost := by
  have hrest : ((s.endOperator done).stepPlain c).Lost :=
    .spoiled (lasting_spoiled.stepPlain (spoiled_endOperator s done) c)
  unfold stepOperator
  repeat' split
  any_goals exact .foreign rfl
  exact hrest

/-- In every mode that belongs to a word, an expansion in that word is not lost sight of. -/
theorem HasExpansion.react (hmode : s.mode.isBeside = false) (h : s.HasExpansion) (c : Char) :
    (s.react c).Lost := by
  unfold Reader.react
  cases hm : s.mode with
  | plain q => exact h.stepText q c
  | guarded q => exact h.stepGuarded q c
  | single =>
    have hmode' : Mode.isBeside s.mode = false := hmode
    exact iteInduction (motive := Lost) (fun _ => .expansion rfl h)
      fun _ => .expansion hmode' (h.add _)
  | dollar q => exact h.stepDollar q c
  | name q done =>
    exact iteInduction (motive := Lost) (fun _ => .expansion rfl h) fun _ => (h.add _).stepText q c
  | inside q o frames done => exact lost_stepInside (.inr h) frames done c
  | operator done => exact lost_stepOperator s done c
  | comment => rw [hm] at hmode; cases hmode
  | document done line => rw [hm] at hmode; cases hmode

/-! ### What is lost stays so -/

/-- No character brings back a reading that is lost. -/
theorem Lost.react (h : s.Lost) (c : Char) : (s.react c).Lost := by
  cases h with
  | spoiled h => exact .spoiled (lasting_spoiled.react h c)
  | expansion hmode h => exact h.react hmode c
  | foreign h =>
    unfold Reader.react
    cases hm : s.mode with
    | operator done => exact lost_stepOperator s done c
    | inside q o frames done =>
      rw [hm] at h
      exact lost_stepInside (.inl (bne_iff_ne.mp h)) frames done c
    | _ => rw [hm] at h; cases h

/-- To take a step is to react, and to note the place. -/
theorem Lost.noted {c : Char} (h : (s.react c).Lost) : (s.step c).Lost := by
  cases h with
  | spoiled h => exact .spoiled h
  | expansion hmode h => exact .expansion hmode h
  | foreign h => exact .foreign h

theorem Lost.step (h : s.Lost) (c : Char) : (s.step c).Lost := (h.react c).noted

theorem Lost.steps (h : s.Lost) (cs : List Char) : (s.steps cs).Lost := by
  induction cs generalizing s with
  | nil => exact h
  | cons c cs ih => exact ih (h.step c)

/-! ### The end of the line -/

theorem spoiled_cutOff (s : Reader) (needed : Char) : (s.cutOff needed).Spoiled :=
  ⟨_, List.mem_cons_self, rfl⟩

/-- An expansion that is cut off by the end of the text spoils the reading. -/
theorem spoiled_cutInside (s : Reader) (o : Opening) (frames : List Frame) (done : List Char) :
    (s.cutInside o frames done).Spoiled := by
  unfold cutInside
  simp only
  repeat' split
  all_goals exact ⟨_, List.mem_cons_self, rfl⟩

/-- The end of the line ends the word, unless it comes too early. -/
theorem spoiled_close (q : Quoting) {s : Reader} (h : s.Spoiled ∨ s.HasExpansion) :
    Spoiled
      (if q = .double then s.cutOff '"' else if s.isInIndex then s.cutOff ']' else s.flush) := by
  split
  · exact spoiled_cutOff s _
  split
  · exact spoiled_cutOff s _
  · exact h.elim lasting_spoiled.flush HasExpansion.flush

/-- Outside of operators and expansions it shows in the tokens or in the word. -/
theorem Lost.spoiled_or_hasExpansion (h : s.Lost) (hmode : s.mode.isForeign = false) :
    s.Spoiled ∨ s.HasExpansion := by
  cases h with
  | spoiled h => exact .inl h
  | expansion hbeside h => exact .inr h
  | foreign h => rw [hmode] at h; cases h

/-- Between words there is no word it could still show in. -/
theorem Lost.spoiled_of_isBeside (h : s.Lost) (hmode : s.mode.isBeside = true) : s.Spoiled := by
  cases h with
  | spoiled h => exact h
  | expansion hbeside h => rw [hmode] at hbeside; cases hbeside
  | foreign h =>
    cases hm : s.mode with
    | comment => rw [hm] at h; cases h
    | document done line => rw [hm] at h; cases h
    | _ => rw [hm] at hmode; cases hmode

/-- A quote that is still open at the end is no word. -/
theorem spoiled_finish_of_single (hm : s.mode = .single) : s.finish.Spoiled := by
  unfold Reader.finish
  rw [hm]
  exact (spoiled_cutOff s apostrophe).fillEmpty s.line

/-- A reader that is lost does not find back at the end. -/
theorem Lost.finish (h : s.Lost) : s.finish.Spoiled := by
  have hadd (p : Part) (hword : s.Spoiled ∨ s.HasExpansion) :
      (s.add p).Spoiled ∨ (s.add p).HasExpansion := hword.imp id fun h => h.add p
  unfold Reader.finish
  refine Spoiled.fillEmpty ?_ _
  cases hm : s.mode with
  | plain q => exact spoiled_close q (h.spoiled_or_hasExpansion (by rw [hm]; rfl))
  | guarded q => exact spoiled_close q (hadd _ (h.spoiled_or_hasExpansion (by rw [hm]; rfl)))
  | single => exact spoiled_cutOff s _
  | dollar q => exact spoiled_close q (hadd _ (h.spoiled_or_hasExpansion (by rw [hm]; rfl)))
  | name q done => exact spoiled_close q (hadd _ (h.spoiled_or_hasExpansion (by rw [hm]; rfl)))
  | inside q o frames done => exact spoiled_cutInside s o frames done
  | operator done => exact spoiled_endOperator s done
  | comment => exact h.spoiled_of_isBeside (by rw [hm]; rfl)
  | document done line =>
    have hspoiled : s.Spoiled := h.spoiled_of_isBeside (by rw [hm]; rfl)
    cases hd : s.currentDocument? with
    | none => exact hspoiled
    | some d =>
      simp only
      repeat' split
      all_goals exact lasting_spoiled.endDocument hspoiled _ _

end Reader

/-- A line on which the reader is lost has no words. -/
theorem takenWords?_of_lost {cs : List Char} (h : (Reader.steps { line := 1 } cs).Lost) :
    takenWords? cs = none := by
  obtain ⟨t, ht, hnone⟩ := h.finish
  cases hwords : takenWords? cs with
  | none => rfl
  | some ws =>
    refine absurd hnone (ne_none_of_mapM (f := Token.taken?) hwords ?_)
    exact List.mem_map_of_mem (List.mem_reverse.mpr ht)

end JobLauncher.Shell
