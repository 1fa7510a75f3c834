import JobLauncher.Proofs.Shell.Reading

/-!
# What has been read

A reader goes through a line once, and what comes later changes little of the tokens before it: a
document that has been announced gets its text, and the end of the line before it moves. A statement
that holds after such a change, and with one more token, is `Lasting`. It holds for the rest of the
line (`Lasting.steps`) and at its end (`Lasting.finish`) if it holds once.

Words are not changed at all, so the words that have been read are there at the end.

> `isPrefix_words?`: if a line begins with words that are ended, and words can be read from the
> line at all, they begin with these.
-/

namespace JobLauncher.Shell

namespace Reader

/-! ## What one character can do where nothing is quoted -/

/-- What becomes of a reader by a character that stands outside quotes. -/
inductive Unquoted (s : Reader) (c : Char) : Reader → Prop where
  | backslash (hc : c = '\\') : Unquoted s c (s.goto (.guarded .bare))
  | apostrophe (hc : c = apostrophe) : Unquoted s c (s.quote.goto .single)
  | double (hc : c = '"') : Unquoted s c (s.quote.goto (.plain .double))
  | dollar (hc : c = '$') : Unquoted s c (s.goto (.dollar .bare))
  | back (hc : c = backquote) : Unquoted s c (s.enter .bare .back [.back])
  | add (groups : Nat) : Unquoted s c { s.add (.char false c) with groups }
  | blank (hc : isBlank c = true) : Unquoted s c s.flush
  | line (hc : c = '\n') : Unquoted s c s.endLine
  | items : Unquoted s c (s.enter .bare .items [.parens 0])
  | operator : Unquoted s c (s.beginOperator c)
  | comment : Unquoted s c ((s.emit .comment).goto .comment)

/-- What a step outside quotes can come to. -/
theorem unquoted_stepPlain (s : Reader) (c : Char) : Unquoted s c (s.stepPlain c) := by
  have hadd : Unquoted s c (s.add (.char false c)) := .add s.groups
  have choose {p : Prop} [Decidable p] {a b : Reader} (ha : p → Unquoted s c a)
      (hb : Unquoted s c b) : Unquoted s c (if p then a else b) :=
    iteInduction (motive := Unquoted s c) ha fun _ => hb
  unfold stepPlain
  exact choose .backslash <| choose .apostrophe <| choose .double <| choose .dollar <|
    choose .back <| choose (fun _ => hadd) <| choose (fun _ => .add _) <|
    choose (fun _ => .add 1) <| choose (fun _ => hadd) <| choose (fun _ => hadd) <|
    choose .blank <| choose .line <| choose (fun _ => .items) <| choose (fun _ => .operator) <|
    choose (fun _ => .comment) hadd

/-! ## Statements that last -/

/-- What is so of the tokens that have been read, and stays so whatever is read. -/
structure Lasting (P : List Placed → Prop) : Prop where
  cons {ts : List Placed} (h : P ts) (t : Placed) : P (t :: ts)
  fill {ts : List Placed} (h : P ts) (text : List Char) (cut : Option Nat) :
    P (Reader.fill text cut ts)
  moveNewline {ts : List Placed} (h : P ts) (line : Nat) : P (Reader.moveNewline line ts)
  fillEmpty {ts : List Placed} (h : P ts) (line : Nat) : P (ts.map (finish.fillEmpty line))

namespace Lasting

variable {P : List Placed → Prop} {s : Reader}

theorem ite {p : Prop} [Decidable p] {a b : Reader} (ha : P a.tokens) (hb : P b.tokens) :
    P (if p then a else b).tokens :=
  iteInduction (motive := fun s : Reader => P s.tokens) (fun _ => ha) fun _ => hb

section Steps

variable (hP : Lasting P) (h : P s.tokens)
include hP h

theorem emit (t : Token) : P (s.emit t).tokens := hP.cons h _

theorem flush : P s.flush.tokens := by
  unfold Reader.flush
  cases s.word with
  | none => exact h
  | some parts => exact hP.emit h _

/-- An operator ends the word before it, or turns it into the number of an arrow. -/
theorem beginOperator (c : Char) : P (s.beginOperator c).tokens := by
  unfold Reader.beginOperator
  cases s.arrowToken? with
  | none => exact hP.flush h
  | some t => exact ite (hP.emit h t) (hP.flush h)

theorem endOperator (done : List Char) : P (s.endOperator done).tokens := hP.emit h _

theorem endLine : P s.endLine.tokens := by
  have hnew : P (s.flush.emit .newline).tokens := hP.emit (hP.flush h) _
  exact ite hnew hnew

/-- Of the steps outside quotes, only those that end a word or a line change the tokens. -/
theorem stepPlain (c : Char) : P (s.stepPlain c).tokens := by
  -- the step itself is long; what it can come to is all that matters here
  have hstep := unquoted_stepPlain s c
  generalize s.stepPlain c = s' at hstep ⊢
  cases hstep with
  | blank => exact hP.flush h
  | line => exact hP.endLine h
  | operator => exact hP.beginOperator h c
  | comment => exact hP.emit h _
  | _ => exact h

omit hP in
theorem stepQuoted (q : Quoting) (c : Char) : P (s.stepQuoted q c).tokens :=
  ite h <| ite h <| ite h <| ite h h

theorem stepText (q : Quoting) (c : Char) : P (s.stepText q c).tokens := by
  -- changes of the mode and of the word leave the tokens as they are, so `h` is the proof wherever
  -- nothing else happens
  have hgoto (m : Mode) : P (s.goto m).tokens := h
  exact ite (hP.stepPlain (hgoto _) c) (stepQuoted (hgoto _) q c)

omit hP in
theorem stepGuarded (q : Quoting) (c : Char) : P (s.stepGuarded q c).tokens := ite h <| ite h h

theorem stepDollar (q : Quoting) (c : Char) : P (s.stepDollar q c).tokens := by
  have hadd : P (s.add (.char q.holds '$')).tokens := h
  exact ite h <| ite h <| ite h <| ite h <| ite h <| ite h <| ite h <| hP.stepText hadd q c

omit hP in
/-- Parts of a word are not tokens yet. -/
theorem foldl_add (ps : List Part) : P (ps.foldl add s).tokens := by
  induction ps generalizing s with
  | nil => exact h
  | cons p ps ih =>
    have hadd : P (s.add p).tokens := h
    exact ih hadd

/-- An expansion is a part of a word, but for a command, which is a token. -/
theorem endExpansion (q : Quoting) (o : Opening) (inside : List Char) :
    P (s.endExpansion q o inside).tokens := by
  cases o with
  | command => exact hP.emit h _
  | _ => exact foldl_add h _

theorem stepInside (q : Quoting) (o : Opening) (frames : List Frame) (done : List Char) (c : Char) :
    P (s.stepInside q o frames done c).tokens := by
  unfold Reader.stepInside
  cases Frame.after c done frames with
  | nil => exact hP.endExpansion h q o done.reverse
  | cons f fs => exact h

theorem stepOperator (done : List Char) (c : Char) : P (s.stepOperator done c).tokens :=
  ite h <| ite h <| ite h <| ite h <| hP.stepPlain (hP.endOperator h done) c

theorem endDocument (done : List Char) (cut : Option Nat) : P (s.endDocument done cut).tokens := by
  have hended : P (Reader.moveNewline s.line (Reader.fill done.reverse cut s.tokens)) :=
    hP.moveNewline (hP.fill h _ _) _
  exact ite hended hended

theorem endDocumentLine (done line : List Char) : P (s.endDocumentLine done line).tokens := by
  unfold Reader.endDocumentLine
  cases s.currentDocument? with
  | none => exact h
  | some d => exact ite (hP.endDocument h done none) h

/-- Every mode keeps it, each by the steps that it can take. -/
theorem react (c : Char) : P (s.react c).tokens := by
  unfold Reader.react
  cases s.mode with
  | plain q => exact hP.stepText h q c
  | guarded q => exact stepGuarded h q c
  | single => exact ite h h
  | dollar q => exact hP.stepDollar h q c
  | name q done =>
    have hadd : P (s.add (.parameter q.holds done.reverse)).tokens := h
    exact ite h (hP.stepText hadd q c)
  | inside q o frames done => exact hP.stepInside h q o frames done c
  | operator done => exact hP.stepOperator h done c
  | comment =>
    have hgoto : P (s.goto (.plain .bare)).tokens := h
    exact ite (hP.endLine hgoto) h
  | document done line => exact ite (hP.endDocumentLine h done line) h

theorem steps (cs : List Char) : P (s.steps cs).tokens := by
  induction cs generalizing s with
  | nil => exact h
  | cons c cs ih =>
    have hstep : P (s.step c).tokens := hP.react h c
    exact ih hstep

/-! ### The end of the line -/

theorem cutOff (needed : Char) : P (s.cutOff needed).tokens := hP.cons h _

/-- What is cut off inside an expansion comes to one more token at most. -/
theorem cutInside (o : Opening) (frames : List Frame) (done : List Char) :
    P (s.cutInside o frames done).tokens := by
  simp only [Reader.cutInside]
  split
  next => exact ite (hP.cutOff h _) (hP.cons h _)
  next => exact hP.cons h _
  next => exact hP.emit h _
  next => exact hP.cons h _
  next => exact hP.cutOff h _
  next => exact hP.cutOff h _

/-- The end of the line ends the word, unless it comes too early. -/
theorem close (q : Quoting) :
    P (if q = .double then s.cutOff '"' else if s.isInIndex then s.cutOff ']' else s.flush).tokens :=
  ite (hP.cutOff h _) <| ite (hP.cutOff h _) (hP.flush h)

/-- The end of the text keeps it as well: whatever was open is closed or cut off. -/
theorem finish : P s.finish.tokens := by
  refine hP.fillEmpty ?_ _
  cases s.mode with
  | plain q => exact hP.close h q
  | guarded q =>
    have hadd : P (s.add (.char true '\\')).tokens := h
    exact hP.close hadd q
  | single => exact hP.cutOff h _
  | dollar q =>
    have hadd : P (s.add (.char q.holds '$')).tokens := h
    exact hP.close hadd q
  | name q done =>
    have hadd : P (s.add (.parameter q.holds done.reverse)).tokens := h
    exact hP.close hadd q
  | inside q o frames done => exact hP.cutInside h o frames done
  | operator done => exact hP.endOperator h done
  | comment => exact h
  | document done line =>
    cases s.currentDocument? with
    | none => exact h
    | some d =>
      exact ite (hP.endDocument h _ _) <| ite (hP.endDocument h _ _) (hP.endDocument h _ _)

end Steps

end Lasting

/-! ## Words stay -/

section Words

variable {ws ts : List Placed} (hws : ∀ t ∈ ws, ∃ w, t.1 = .word w)
include hws

theorem fill_of_words (text : List Char) (cut : Option Nat) : fill text cut ws = ws := by
  induction ws with
  | nil => rfl
  | cons t ts ih =>
    obtain ⟨⟨w, hw⟩, hts⟩ := List.forall_mem_cons.mp hws
    obtain ⟨token, line⟩ := t
    subst hw
    exact congrArg (_ :: ·) (ih hts)

/-- A text is given to a document, and words are not documents. -/
theorem isSuffix_fill (h : ws <:+ ts) (text : List Char) (cut : Option Nat) :
    ws <:+ fill text cut ts := by
  induction ts with
  | nil => exact h
  | cons t ts ih =>
    rcases List.suffix_cons_iff.mp h with rfl | hts
    · exact ⟨[], (fill_of_words hws text cut).symm⟩
    · have hrest (t' : Placed) : ws <:+ t' :: fill text cut ts :=
        (ih hts).trans (List.suffix_cons _ _)
      unfold fill
      split
      next heq => cases heq
      next heq =>
        cases heq
        split
        next => exact hrest _
        next => exact hts.trans (List.suffix_cons _ _)
      next heq =>
        cases heq
        exact hrest _

/-- A line end that is moved is none of the words. -/
theorem isSuffix_moveNewline (h : ws <:+ ts) (line : Nat) : ws <:+ moveNewline line ts := by
  unfold moveNewline
  split
  next earlier =>
    rcases List.suffix_cons_iff.mp h with rfl | h
    · obtain ⟨w, hw⟩ := hws _ List.mem_cons_self
      cases hw
    · exact h.trans (List.suffix_cons _ _)
  next => exact h

/-- Words are left alone when empty documents are filled. -/
theorem isSuffix_fillEmpty (h : ws <:+ ts) (line : Nat) :
    ws <:+ ts.map (finish.fillEmpty line) := by
  have hsame : ws.map (finish.fillEmpty line) = ws := by
    refine (List.map_congr_left fun t ht => ?_).trans (List.map_id ws)
    obtain ⟨w, hw⟩ := hws t ht
    obtain ⟨token, n⟩ := t
    subst hw
    rfl
  have hmap := h.map (finish.fillEmpty line)
  rwa [hsame] at hmap

/-- Words that have been read stay at the end of the tokens. -/
theorem lasting_words : Lasting (ws <:+ ·) where
  cons h t := h.trans (List.suffix_cons t _)
  fill := isSuffix_fill hws
  moveNewline := isSuffix_moveNewline hws
  fillEmpty := isSuffix_fillEmpty hws

end Words

end Reader

variable {cs rest : List Char} {argv : List String}

/-- The words that have been read when the last of them is ended come first, whatever follows. -/
theorem isPrefix_words? {done : List String} (h : (Reader.steps { line := 1 } cs).HasRead done none)
    (hargv : words? (cs ++ rest) = some argv) : done <+: argv := by
  have hlasting : Reader.Lasting ((Reader.steps { line := 1 } cs).tokens <:+ ·) :=
    Reader.lasting_words fun t ht => h.exists_word ht
  obtain ⟨new, hnew⟩ := hlasting.finish (hlasting.steps List.suffix_rfl rest)
  rw [words?, tokens, tokensFrom, Reader.steps_append, ← hnew, List.reverse_append, List.map_append,
    List.mapM_append, h.tokens] at hargv
  obtain ⟨first, hfirst, hmore⟩ := Option.bind_eq_some_iff.mp hargv
  cases hfirst
  obtain ⟨more, -, hmore⟩ := Option.bind_eq_some_iff.mp hmore
  cases hmore
  exact List.prefix_append done more

/-- The same, where the words are written with blanks between them. -/
theorem isPrefix_words?_spaced {ps : List (List Char × String)}
    (hps : ∀ p ∈ ps, Contributes p.1 p.2.toList) (hne : ps ≠ [])
    (hargv : words? (spaced (ps.map (·.1)) ++ ' ' :: rest) = some argv) : ps.map (·.2) <+: argv := by
  obtain ⟨before, last, hread, heq⟩ := hasRead_start.spaced hps hne
  have hended : (Reader.steps { line := 1 } (spaced (ps.map (·.1)) ++ [' '])).HasRead
      (ps.map (·.2)) none := by
    rw [Reader.steps_append, ← List.nil_append (ps.map (·.2)), ← heq]
    exact hread.blank rfl
  have hsplit : spaced (ps.map (·.1)) ++ ' ' :: rest = spaced (ps.map (·.1)) ++ [' '] ++ rest := by
    rw [List.append_assoc]
    rfl
  rw [hsplit] at hargv
  exact isPrefix_words? hended hargv

end JobLauncher.Shell
