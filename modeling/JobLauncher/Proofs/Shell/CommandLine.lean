import JobLauncher.Proofs.Shell.Reading
import JobLauncher.Shell.Script

/-!
# Commands on one line

A program that writes commands on one line writes words with blanks between them, semicolons between
commands, and keywords around the commands of a loop. A `Plan` says which commands these are, and
`Plan.text` is the line. The name of a command is written as it is; any other word is written in
some way that gives its text to a reader outside quotes (`Gives`), and there may be parameters in
it, whose values are `values`.

`Reader.HasTokens` says which tokens stand between the start of the line and the reader, and each
word and each semicolon adds to them.

> `tokensFrom_text`: the tokens of the line are those of the plan, each word standing for the text
> that it was written for.
-/

namespace JobLauncher.Shell

section Values

variable (values : Bytes → Option Bytes)

/-! ## Words with parameters -/

/-- What a part stands for where parameters have values: any part but a parameter stands for
itself. -/
def Part.valueIn? : Part → Option Bytes
  | .parameter false name => values name
  | p => p.fixed?

/-- What parts stand for one after another. -/
def textIn (ps : List Part) : Option Bytes := (ps.mapM (Part.valueIn? values)).map List.flatten

variable {values}

/-- What stands for itself has this value whatever the variables. -/
theorem valueIn?_of_fixed? {p : Part} {a : Bytes} (h : p.fixed? = some a) :
    p.valueIn? values = some a := by
  cases p with
  | parameter quoted name => exact absurd h (by rintro ⟨⟩)
  | _ => exact h

theorem textIn_cons {p : Part} {ps : List Part} {a b : Bytes} (ha : p.valueIn? values = some a)
    (hb : textIn values ps = some b) : textIn values (p :: ps) = some (a ++ b) := by
  obtain ⟨bs, hbs, rfl⟩ := Option.map_eq_some_iff.mp hb
  simp [textIn, ha, hbs]

theorem textIn_append {ps qs : List Part} {a b : Bytes} (ha : textIn values ps = some a)
    (hb : textIn values qs = some b) : textIn values (ps ++ qs) = some (a ++ b) := by
  obtain ⟨as, has, rfl⟩ := Option.map_eq_some_iff.mp ha
  obtain ⟨bs, hbs, rfl⟩ := Option.map_eq_some_iff.mp hb
  simp [textIn, List.mapM_append, has, hbs]

/-- The parts of a text one by one. -/
theorem textIn_cons_eq_some {p : Part} {ps : List Part} {t : Bytes}
    (h : textIn values (p :: ps) = some t) :
    ∃ a b, p.valueIn? values = some a ∧ textIn values ps = some b ∧ t = a ++ b := by
  obtain ⟨as, has, rfl⟩ := Option.map_eq_some_iff.mp h
  rw [List.mapM_cons] at has
  obtain ⟨a, ha, has⟩ := Option.bind_eq_some_iff.mp has
  obtain ⟨bs, hbs, hcons⟩ := Option.bind_eq_some_iff.mp has
  obtain rfl : a :: bs = as := Option.some.inj hcons
  exact ⟨a, bs.flatten, ha, by rw [textIn, hbs]; rfl, List.flatten_cons⟩

/-- So a text without variables does not depend on them. -/
theorem textIn_of_fixedText {ps : List Part} {a : Bytes} (h : fixedText ps = some a) :
    textIn values ps = some a := by
  induction ps generalizing a with
  | nil => exact h
  | cons p ps ih =>
    obtain ⟨as, has, rfl⟩ := Option.map_eq_some_iff.mp h
    rw [List.mapM_cons] at has
    obtain ⟨b, hb, has⟩ := Option.bind_eq_some_iff.mp has
    obtain ⟨bs, hbs, hcons⟩ := Option.bind_eq_some_iff.mp has
    obtain rfl : b :: bs = as := Option.some.inj hcons
    exact textIn_cons (valueIn?_of_fixed? hb) (ih (by rw [fixedText, hbs]; rfl))

/-- Safe characters without quotes are the text they spell. -/
theorem textIn_map_char {cs : Bytes} (h : ∀ c ∈ cs, isSafe c = true) :
    textIn values (cs.map (.char false)) = some cs := by
  induction cs with
  | nil => rfl
  | cons c cs ih =>
    exact textIn_cons (valueIn?_of_fixed? (fixed?_of_isSafe (h c List.mem_cons_self)))
      (ih fun d hd => h d (List.mem_cons_of_mem c hd))

variable (values) in
/-- What words stand for. -/
def textsIn (ws : List Word) : Option (List Bytes) := ws.mapM fun w => textIn values w.parts

theorem textsIn_cons {w : Word} {ws : List Word} {t : Bytes} {ts : List Bytes}
    (ht : textIn values w.parts = some t) (hts : textsIn values ws = some ts) :
    textsIn values (w :: ws) = some (t :: ts) := by
  rw [textsIn] at hts
  rw [textsIn, List.mapM_cons, ht, hts]
  rfl

/-- The first word of several has its text, and the others have theirs. -/
theorem textsIn_cons_eq_some {w : Word} {ws : List Word} {ts : List Bytes}
    (h : textsIn values (w :: ws) = some ts) :
    ∃ t us, textIn values w.parts = some t ∧ textsIn values ws = some us ∧ ts = t :: us := by
  rw [textsIn, List.mapM_cons] at h
  obtain ⟨t, ht, h⟩ := Option.bind_eq_some_iff.mp h
  obtain ⟨us, hus, hcons⟩ := Option.bind_eq_some_iff.mp h
  exact ⟨t, us, ht, hus, (Option.some.inj hcons).symm⟩

/-- A character that a shell acts on stands for nothing by itself. -/
theorem not_mem_of_textIn {ps : List Part} {t : Bytes} (h : textIn values ps = some t) {c : Char}
    (hc : isActive c = true) : Part.char false c ∉ ps := by
  intro hm
  obtain ⟨as, has, -⟩ := Option.map_eq_some_iff.mp h
  refine ne_none_of_mapM has hm ?_
  show (if (!false && isActive c) = true then none else some [c]) = none
  rw [hc]
  rfl

/-! ## What a text gives to a word -/

namespace Reader

/-- `s` is `s₀` moved on within one word by some parts. -/
structure ExtendedBy (s₀ s : Reader) (ps : List Part) : Prop where
  around : s.around = s₀.around
  word : s.word = some (ps.reverse ++ s₀.word.getD [])

variable {s₀ s s' : Reader} {ps qs : List Part}

/-- What an extension leaves as it was. -/
theorem ExtendedBy.stays (h : ExtendedBy s₀ s ps) {α : Type} (f : Reader → α)
    (hf : ∀ r : Reader, f r.around = f r := by exact fun _ => rfl) : f s = f s₀ := by
  rw [← hf s, h.around, hf]

theorem ExtendedBy.mode_eq (h : ExtendedBy s₀ s ps) : s.mode = s₀.mode := h.stays Reader.mode

theorem ExtendedBy.trans (h : ExtendedBy s₀ s ps) (h' : ExtendedBy s s' qs) :
    ExtendedBy s₀ s' (ps ++ qs) where
  around := h'.around.trans h.around
  word := by rw [h'.word, h.word]; simp

/-- A safe character extends the word by itself. -/
theorem extendedBy_step_safe {c : Char} (hm : s.mode = .plain .bare) (h : isSafe c = true) :
    ExtendedBy s (s.step c) [.char false c] := by
  have hreact : s.react c = s.add (.char false c) := by rw [react_bare hm, stepPlain_safe s h]
  exact ⟨by rw [around_step, hreact, around_add], congrArg Reader.word hreact⟩

/-- So do several of them. -/
theorem extendedBy_steps_safe {cs : Bytes} (hne : cs ≠ []) (h : ∀ c ∈ cs, isSafe c = true) :
    ∀ {s : Reader}, s.mode = .plain .bare → ExtendedBy s (s.steps cs) (cs.map (.char false)) := by
  induction cs with
  | nil => exact absurd rfl hne
  | cons c cs ih =>
    intro s hm
    have hc := extendedBy_step_safe hm (h c List.mem_cons_self)
    by_cases hcs : cs = []
    · rw [hcs]; exact hc
    · exact hc.trans (ih hcs (fun d hd => h d (List.mem_cons_of_mem c hd)) (hc.mode_eq.trans hm))

/-- A dollar sign and the start of a name are kept until the name ends. -/
theorem around_steps_name {cs : Bytes} (hcs : cs.all isNameChar = true) :
    ∀ {s : Reader} {done : Bytes}, s.mode = .name .bare done →
      (s.steps cs).around = s.around.goto (.name .bare (cs.reverse ++ done))
        ∧ (s.steps cs).word = s.word := by
  induction cs with
  | nil => intro s done hm; exact ⟨by rw [List.reverse_nil, List.nil_append, ← hm]; rfl, rfl⟩
  | cons c cs ih =>
    intro s done hm
    obtain ⟨hc, hcs⟩ := Bool.and_eq_true_iff.mp (List.all_cons ▸ hcs)
    have hreact : s.react c = s.goto (.name .bare (c :: done)) := by
      simp only [react, hm, hc, if_true]
    obtain ⟨haround, hword⟩ := ih hcs (s := s.step c) (congrArg Reader.mode hreact)
    constructor
    · rw [steps_cons, haround, around_step, hreact, List.reverse_cons, List.append_assoc]
      rfl
    · rw [steps_cons, hword]
      show (s.react c).word = s.word
      rw [hreact]
      rfl

end Reader

variable (values) in
/-- Outside quotes a reader takes `written` for parts of one word that stand for `text`. -/
def Gives (written text : Bytes) : Prop :=
  ∀ s : Reader, s.mode = .plain .bare →
    ∃ ps, textIn values ps = some text ∧ s.ExtendedBy (s.steps written) ps

theorem Gives.append {a b t u : Bytes} (ha : Gives values a t) (hb : Gives values b u) :
    Gives values (a ++ b) (t ++ u) := by
  intro s hm
  obtain ⟨ps, hps, hextended⟩ := ha s hm
  obtain ⟨qs, hqs, hagain⟩ := hb _ (hextended.mode_eq.trans hm)
  rw [Reader.steps_append]
  exact ⟨ps ++ qs, textIn_append hps hqs, hextended.trans hagain⟩

/-- What contributes a text gives it whatever the variables. -/
theorem Contributes.gives {written text : Bytes} (h : Contributes written text) :
    Gives values written text := by
  intro s hm
  have hmoved := h s hm
  obtain ⟨ps, hps, hword⟩ := hmoved.word
  exact ⟨ps, textIn_of_fixedText hps, by rw [hmoved.around, ← hm]; rfl, hword⟩

/-- A parameter gives its value; its name ends before a character that can be part of none. -/
theorem gives_parameter {name v : Bytes} {c : Char} (hname : isName name = true)
    (hv : values name = some v) (hc : isSafe c = true) (hend : isNameChar c = false) :
    Gives values ('$' :: name ++ [c]) (v ++ [c]) := by
  intro s hm
  obtain ⟨d, ds, rfl⟩ := List.exists_cons_of_ne_nil (show name ≠ [] by rintro rfl; cases hname)
  obtain ⟨hd, hds⟩ := Bool.and_eq_true_iff.mp hname
  -- three moments count: the dollar, the first character of the name, and the one that ends it
  have hdollar : s.react '$' = s.goto (.dollar .bare) := by rw [Reader.react_bare hm]; rfl
  have hstart : (s.step '$').react d = (s.step '$').goto (.name .bare [d]) := by
    have hmode : (s.step '$').mode = .dollar .bare := congrArg Reader.mode hdollar
    simp only [Reader.react, hmode, Reader.stepDollar, hd, if_true]
  obtain ⟨haround, hword⟩ :=
    Reader.around_steps_name hds (s := (s.step '$').step d) (congrArg Reader.mode hstart)
  have hsplit : s.steps ('$' :: (d :: ds) ++ [c])
      = ((((s.step '$').step d).steps ds).step c) := by
    rw [Reader.steps_append]
    rfl
  generalize hnamed : ((s.step '$').step d).steps ds = named at haround hword hsplit
  have hmode : named.mode = .name .bare (ds.reverse ++ [d]) := congrArg Reader.mode haround
  -- the character that ends the name adds the parameter, and then itself
  have hlast : named.react c
      = ((named.add (.parameter false (d :: ds))).goto (.plain .bare)).add (.char false c) := by
    have hdone : (ds.reverse ++ [d]).reverse = d :: ds := by simp
    simp only [Reader.react, hmode, hend, hdone, Bool.false_eq_true, if_false, Reader.stepText,
      if_true]
    exact Reader.stepPlain_safe _ hc
  refine ⟨[.parameter false (d :: ds), .char false c],
    textIn_cons hv (textIn_cons (valueIn?_of_fixed? (fixed?_of_isSafe hc)) rfl), ?_, ?_⟩
  · rw [hsplit, Reader.around_step, hlast, Reader.around_add, Reader.around_goto,
      Reader.around_add, haround, Reader.around_step, hstart, Reader.around_goto,
      Reader.around_step, hdollar, Reader.around_goto]
    show s.around.goto (.plain .bare) = s.around
    rw [← hm]
    rfl
  · have hkept : ((s.step '$').step d).word = s.word := by
      show ((s.step '$').react d).word = s.word
      rw [hstart]
      show (s.react '$').word = s.word
      rw [hdollar]
      rfl
    rw [hsplit]
    show (named.react c).word = _
    rw [hlast]
    show some (Part.char false c :: .parameter false (d :: ds) :: named.word.getD []) = _
    rw [hword, hkept]
    rfl

/-! ## Plans -/

/-- A word of a command: how it is written, and what it stands for. -/
structure Item where
  written : Bytes
  text : Bytes

/-- A word that is written as it is. -/
def Item.same (w : String) : Item := ⟨bytes w, bytes w⟩

/-- Commands as a program writes them on one line. -/
inductive Plan where
  /-- A command by its name and its arguments. -/
  | run (name : String) (args : List Item)
  /-- The second commands as long as the first succeed. -/
  | loop (condition body : Plan)
  /-- One after the other. -/
  | seq (first rest : Plan)

/-- The parts of a word that is written as it is. -/
def bareParts (w : String) : List Part := (bytes w).map (.char false)

namespace Plan

/-- The line. -/
def text : Plan → Bytes
  | run name args => bytes name ++ args.flatMap fun i => ' ' :: i.written
  | loop condition body =>
    bytes "while " ++ condition.text ++ bytes "; do " ++ body.text ++ bytes "; done"
  | seq first rest => first.text ++ bytes "; " ++ rest.text

variable (values) in
/-- Words are the name of a command and arguments that stand for what they were written for. -/
def Names (name : String) (args : List Item) : List Word → Prop
  | [] => False
  | w :: ws => w.parts = bareParts name ∧ textsIn values ws = some (args.map (·.text))

variable (values) in
/-- The tokens of the line are those of the plan. -/
def Spelled : Plan → List Token → Prop
  | run name args, ts => ∃ ws, Names values name args ws ∧ ts = ws.map .word
  | loop condition body, ts => ∃ (w d e : Word) (cs bs : List Token),
      w.parts = bareParts "while" ∧ d.parts = bareParts "do" ∧ e.parts = bareParts "done"
      ∧ condition.Spelled cs ∧ body.Spelled bs
      ∧ ts = .word w :: (cs ++ .operator ";" :: .word d :: (bs ++ [.operator ";", .word e]))
  | seq first rest, ts => ∃ as bs, first.Spelled as ∧ rest.Spelled bs
      ∧ ts = as ++ .operator ";" :: bs

variable (values) in
/-- A script is the plan, whatever the lines of its commands are. -/
def Is : Plan → Script → Prop
  | run name args, s => ∃ (line : Nat) (ws : List Word), Names values name args ws
      ∧ s = .simple { line, words := ws }
  | loop condition body, s => ∃ c b, condition.Is c ∧ body.Is b ∧ s = .loop false c b
  | seq first rest, s => ∃ a b, first.Is a ∧ rest.Is b ∧ s = .seq a b

/-- Words that do not name a command where one is expected. -/
def reserved : List String :=
  ["then", "else", "elif", "fi", "do", "done", "\x7d", "esac", "in", "]]", "while", "until", "if",
    "for", "select", "case", "[[", "function", "\x7b", "!", "time", "coproc"]

/-- A word that names a command wherever one is expected. -/
def IsName (name : String) : Prop :=
  bytes name ≠ [] ∧ (bytes name).all (fun c => isSafe c && c != '=') = true ∧ name ∉ reserved

instance (name : String) : Decidable (IsName name) := inferInstanceAs (Decidable (_ ∧ _ ∧ _))

/-- The characters of a name are safe, and none of them is an equals sign. -/
theorem IsName.isSafe_and_ne {name : String} (h : IsName name) :
    ∀ c ∈ bytes name, isSafe c = true ∧ c ≠ '=' := by
  intro c hc
  obtain ⟨hsafe, hne⟩ := Bool.and_eq_true_iff.mp (List.all_eq_true.mp h.2.1 c hc)
  exact ⟨hsafe, bne_iff_ne.mp hne⟩

theorem IsName.all_isSafe {name : String} (h : IsName name) : (bytes name).all isSafe = true :=
  List.all_eq_true.mpr fun c hc => (h.isSafe_and_ne c hc).1

/-- Whether the plan is one command. -/
def IsOne : Plan → Prop
  | seq .. => False
  | _ => True

variable (values) in
/-- The line is written in such a way that it can be read as the plan. -/
def IsSound : Plan → Prop
  | run name args => IsName name ∧ ∀ i ∈ args, Gives values i.written i.text
  | loop condition body => condition.IsSound ∧ body.IsSound
  | seq first rest => first.IsOne ∧ first.IsSound ∧ rest.IsSound

end Plan

/-! ## Reading the line -/

/-- A word, or the sign between commands. -/
def Token.IsPlain (t : Token) : Prop := t = .operator ";" ∨ ∃ w, t = .word w

/-- The semicolon is the only operator among plain tokens. -/
theorem not_isPlain_arrow {op : String} (h : op ≠ ";") : ¬ (Token.operator op).IsPlain := by
  rintro (heq | ⟨w, heq⟩)
  · exact h (Token.operator.inj heq)
  · cases heq

namespace Reader

/-- The reader is outside quotes and has read the tokens `ts`, words and semicolons, the last of
which may be a word that still goes on. -/
structure HasTokens (s : Reader) (ts : List Token) : Prop where
  mode : s.mode = .plain .bare
  single : s.single = false
  groups : s.groups = 0
  tokens : s.flush.tokens.reverse.map (·.1) = ts
  plain : ∀ t ∈ ts, t.IsPlain
  index : ∀ ps, s.word = some ps → Part.char false '[' ∉ ps

namespace HasTokens

variable {s : Reader} {ts : List Token}

/-- No index is open where only plain tokens have been read. -/
theorem isInIndex (h : s.HasTokens ts) : s.isInIndex = false := by
  have hopen : s.word.any isOpenIndex = false := by
    cases hword : s.word with
    | none => rfl
    | some ps => exact isOpenIndex_of_not_mem (h.index ps hword)
  rw [Reader.isInIndex, hopen, Bool.and_false]

/-- No arrow announces a document, so a word is a word. -/
theorem wordToken (h : s.HasTokens ts) (hword : s.word = none) (s' : Reader)
    (hs' : s'.tokens = s.tokens) (w : Word) : s'.wordToken w = .word w := by
  have hflush : s.flush = s := by rw [flush, hword]
  have hplain {t : Placed} (ht : t ∈ s'.tokens) : t.1.IsPlain := by
    refine h.plain _ ?_
    rw [← h.tokens, hflush, ← hs']
    exact List.mem_map_of_mem (List.mem_reverse.mpr ht)
  unfold Reader.wordToken
  split
  next heq => exact absurd (hplain (heq ▸ List.mem_cons_self)) (not_isPlain_arrow (by decide))
  next heq => exact absurd (hplain (heq ▸ List.mem_cons_self)) (not_isPlain_arrow (by decide))
  next => rfl

/-- What extends a word adds one where none has begun. -/
theorem word {written : Bytes} {ps : List Part} (h : s.HasTokens ts) (hword : s.word = none)
    (hextended : s.ExtendedBy (s.steps written) ps) (hindex : Part.char false '[' ∉ ps) :
    ∃ w : Word, w.parts = ps ∧ (s.steps written).HasTokens (ts ++ [.word w]) := by
  have hps : (s.steps written).word = some ps.reverse := by
    rw [hextended.word, hword, Option.getD_none, List.append_nil]
  have hkept : (s.steps written).tokens = s.tokens := hextended.stays Reader.tokens
  refine ⟨⟨ps, (s.steps written).source.reverse⟩, rfl, {
    mode := hextended.mode_eq.trans h.mode
    single := (hextended.stays Reader.single).trans h.single
    groups := (hextended.stays Reader.groups).trans h.groups
    tokens := ?_, plain := ?_, index := ?_ }⟩
  · have hts : s.tokens.reverse.map (·.1) = ts := by
      rw [← h.tokens, flush, hword]
    simp only [flush, hps, h.wordToken hword _ hkept, emit, hkept, List.reverse_reverse,
      List.reverse_cons, List.map_append, hts]
    rfl
  · intro t ht
    rcases List.mem_append.mp ht with ht | ht
    · exact h.plain t ht
    · exact .inr ⟨_, List.mem_singleton.mp ht⟩
  · intro qs hqs hm
    obtain rfl : ps.reverse = qs := Option.some.inj (hps.symm.trans hqs)
    exact hindex (List.mem_reverse.mp hm)

/-- A word that is written as it is. -/
theorem bare (h : s.HasTokens ts) (hword : s.word = none) (name : String) (hne : bytes name ≠ [])
    (hsafe : (bytes name).all isSafe = true) :
    ∃ w : Word, w.parts = bareParts name ∧ (s.steps (bytes name)).HasTokens (ts ++ [.word w]) := by
  have hsafe := List.all_eq_true.mp hsafe
  have htext : textIn (fun _ => none) (bareParts name) = some (bytes name) := textIn_map_char hsafe
  exact h.word hword (extendedBy_steps_safe hne hsafe h.mode) (not_mem_of_textIn htext (by decide))

/-- Where no word has begun. -/
theorem of_word_eq_none (hmode : s.mode = .plain .bare) (hsingle : s.single = false)
    (hgroups : s.groups = 0) (hword : s.word = none) (htokens : s.tokens.reverse.map (·.1) = ts)
    (hplain : ∀ t ∈ ts, t.IsPlain) : s.HasTokens ts where
  mode := hmode
  single := hsingle
  groups := hgroups
  tokens := by rw [flush, hword]; exact htokens
  plain := hplain
  index := fun ps hps => by rw [hword] at hps; cases hps

theorem word_flush (s : Reader) : s.flush.word = none := by
  cases hword : s.word with
  | none => rw [flush, hword]; exact hword
  | some ps => rw [flush, hword]

/-- To end a word changes nothing about where the reader is. -/
theorem stays_flush (s : Reader) :
    s.flush.mode = s.mode ∧ s.flush.single = s.single ∧ s.flush.groups = s.groups := by
  cases hword : s.word with
  | none => rw [flush, hword]; exact ⟨rfl, rfl, rfl⟩
  | some ps => rw [flush, hword]; exact ⟨rfl, rfl, rfl⟩

/-- After a blank no word goes on. -/
theorem blank (h : s.HasTokens ts) : (s.step ' ').HasTokens ts ∧ (s.step ' ').word = none := by
  obtain ⟨hmode, hsingle, hgroups⟩ := stays_flush s
  have hreact : s.react ' ' = s.flush := by
    rw [react_bare h.mode]
    simp [stepPlain, h.single, h.groups, h.isInIndex, isBlank, apostrophe, backquote]
  have hword : (s.step ' ').word = none := by
    show (s.react ' ').word = none
    rw [hreact]
    exact word_flush s
  refine ⟨of_word_eq_none ?_ ?_ ?_ hword ?_ h.plain, hword⟩
  · show (s.react ' ').mode = _
    rw [hreact, hmode, h.mode]
  · show (s.react ' ').single = _
    rw [hreact, hsingle, h.single]
  · show (s.react ' ').groups = _
    rw [hreact, hgroups, h.groups]
  · show (s.react ' ').tokens.reverse.map (·.1) = _
    rw [hreact, h.tokens]

/-- A semicolon and a blank. -/
theorem semicolon (h : s.HasTokens ts) :
    (s.steps [';', ' ']).HasTokens (ts ++ [.operator ";"]) ∧ (s.steps [';', ' ']).word = none := by
  obtain ⟨-, hsingle, hgroups⟩ := stays_flush s
  have hbegin : s.react ';' = s.flush.goto (.operator [';']) := by
    have hflush : s.beginOperator ';' = s.flush.goto (.operator [';']) := by
      rw [beginOperator]
      split <;> rfl
    rw [react_bare h.mode]
    simp [stepPlain, h.single, h.groups, h.isInIndex, isBlank, isBlankOrEnd, isOperatorChar,
      apostrophe, backquote, hflush]
  have hends : (s.step ';').isOperator (String.ofList [' ', ';'].reverse) = false := by
    rw [isOperator, show operators.contains (String.ofList [' ', ';'].reverse) = false by decide]
    rfl
  have hmode : (s.step ';').mode = .operator [';'] := by
    show (s.react ';').mode = _
    rw [hbegin]
    rfl
  -- the blank ends the operator and stands after it
  have hafter : ((s.step ';').endOperator [';']).HasTokens (ts ++ [.operator ";"]) := by
    refine of_word_eq_none rfl ?_ ?_ ?_ ?_ ?_
    · show (s.react ';').single = _
      rw [hbegin, ← h.single, ← hsingle]
      rfl
    · show (s.react ';').groups = _
      rw [hbegin, ← h.groups, ← hgroups]
      rfl
    · show (s.react ';').word = _
      rw [hbegin]
      exact word_flush s
    · show ((_, _) :: (s.react ';').tokens).reverse.map (·.1) = _
      rw [hbegin, List.reverse_cons, List.map_append, ← h.tokens]
      rfl
    · intro t ht
      rcases List.mem_append.mp ht with ht | ht
      · exact h.plain t ht
      · exact .inl (List.mem_singleton.mp ht)
  rw [steps_cons, steps_cons, steps_nil, step_operator hmode (by decide) hends]
  exact hafter.blank

/-- Arguments, each after a blank. -/
theorem arguments {items : List Item} (hitems : ∀ i ∈ items, Gives values i.written i.text) :
    ∀ {s : Reader} {ts : List Token}, s.HasTokens ts →
      ∃ ws : List Word, textsIn values ws = some (items.map (·.text))
        ∧ (s.steps (items.flatMap fun i => ' ' :: i.written)).HasTokens (ts ++ ws.map .word) := by
  induction items with
  | nil => intro s ts h; exact ⟨[], rfl, by simpa using h⟩
  | cons i items ih =>
    intro s ts h
    obtain ⟨hblank, hbegun⟩ := h.blank
    -- the blank has ended the word before, so a new one begins here
    obtain ⟨ps, hps, hextended⟩ := hitems i List.mem_cons_self _ hblank.mode
    obtain ⟨w, rfl, hitem⟩ := hblank.word hbegun hextended (not_mem_of_textIn hps (by decide))
    obtain ⟨ws, hws, hrest⟩ := ih (fun j hj => hitems j (List.mem_cons_of_mem i hj)) hitem
    refine ⟨w :: ws, textsIn_cons hps hws, ?_⟩
    rw [List.flatMap_cons, List.cons_append, steps_cons, steps_append, List.map_cons,
      List.append_cons]
    exact hrest

/-- The line of a plan adds the tokens of the plan. -/
theorem plan {p : Plan} (hp : p.IsSound values) :
    ∀ {s : Reader} {ts : List Token}, s.HasTokens ts → s.word = none →
      ∃ us, p.Spelled values us ∧ (s.steps p.text).HasTokens (ts ++ us) := by
  induction p with
  | run name args =>
    intro s ts h hword
    obtain ⟨hname, hargs⟩ := hp
    obtain ⟨w, hw, hnamed⟩ := h.bare hword name hname.1 hname.all_isSafe
    obtain ⟨ws, hws, hread⟩ := hnamed.arguments hargs
    refine ⟨_, ⟨w :: ws, ⟨hw, hws⟩, rfl⟩, ?_⟩
    rw [Plan.text, steps_append, List.map_cons, List.append_cons]
    exact hread
  | loop condition body ihc ihb =>
    intro s ts h hword
    -- the keywords are read like any word; the parts in between come from the induction
    obtain ⟨w, hw, hwhile⟩ := h.bare hword "while" (by decide) (by decide)
    obtain ⟨hblank, hbegun⟩ := hwhile.blank
    obtain ⟨cs, hcs, hcondition⟩ := ihc hp.1 hblank hbegun
    obtain ⟨hsemicolon, hbegun⟩ := hcondition.semicolon
    obtain ⟨d, hd, hdo⟩ := hsemicolon.bare hbegun "do" (by decide) (by decide)
    obtain ⟨hblank, hbegun⟩ := hdo.blank
    obtain ⟨bs, hbs, hbody⟩ := ihb hp.2 hblank hbegun
    obtain ⟨hsemicolon, hbegun⟩ := hbody.semicolon
    obtain ⟨e, he, hdone⟩ := hsemicolon.bare hbegun "done" (by decide) (by decide)
    have hsplit : (Plan.loop condition body).text
        = bytes "while" ++ (' ' :: (condition.text ++ ([';', ' '] ++ (bytes "do"
          ++ (' ' :: (body.text ++ ([';', ' '] ++ bytes "done"))))))) := by
      rw [Plan.text, show bytes "while " = bytes "while" ++ [' '] by decide,
        show bytes "; do " = [';', ' '] ++ (bytes "do" ++ [' ']) by decide,
        show bytes "; done" = [';', ' '] ++ bytes "done" by decide]
      simp only [List.append_assoc, List.cons_append, List.nil_append]
    refine ⟨_, ⟨w, d, e, cs, bs, hw, hd, he, hcs, hbs, rfl⟩, ?_⟩
    rw [hsplit]
    simp only [steps_append, steps_cons] at hdone ⊢
    simpa using hdone
  | seq first rest iha ihb =>
    intro s ts h hword
    obtain ⟨-, hfirst, hrest⟩ := hp
    obtain ⟨as, has, hread⟩ := iha hfirst h hword
    obtain ⟨hsemicolon, hbegun⟩ := hread.semicolon
    obtain ⟨bs, hbs, hend⟩ := ihb hrest hsemicolon hbegun
    refine ⟨_, ⟨as, bs, has, hbs, rfl⟩, ?_⟩
    have hsplit : (Plan.seq first rest).text = first.text ++ ([';', ' '] ++ rest.text) := by
      rw [Plan.text, List.append_assoc]
      rfl
    rw [hsplit, steps_append, steps_append]
    simpa using hend

/-- At the end of the line the tokens are those that have been read. -/
theorem finish (h : s.HasTokens ts) : s.finish.tokens.reverse.map (·.1) = ts := by
  have hfill (n : Nat) : ∀ t ∈ s.flush.tokens, Reader.finish.fillEmpty n t = t := by
    intro t ht
    have hplain : t.1.IsPlain :=
      h.plain _ (h.tokens ▸ List.mem_map_of_mem (List.mem_reverse.mpr ht))
    obtain ⟨token, line⟩ := t
    rcases hplain with rfl | ⟨w, rfl⟩ <;> rfl
  have hfinish : s.finish.tokens = s.flush.tokens := by
    simp only [Reader.finish, h.mode, h.isInIndex]
    exact (List.map_congr_left (hfill _)).trans (List.map_id _)
  rw [hfinish, h.tokens]

end HasTokens

end Reader

/-- The tokens of the line are those of the plan. -/
theorem tokensFrom_text {p : Plan} (hp : p.IsSound values) (f : Flavour) (line : Nat) :
    p.Spelled values ((tokensFrom f line p.text).map (·.1)) := by
  have hstart : ({ line, extended := f.extended, plain := f.plain } : Reader).HasTokens [] :=
    .of_word_eq_none rfl rfl rfl rfl rfl (List.forall_mem_nil _)
  obtain ⟨ts, hts, hread⟩ := hstart.plan hp rfl
  rw [tokensFrom, hread.finish]
  exact hts

end Values

end JobLauncher.Shell
