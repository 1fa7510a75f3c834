import JobLauncher.Proofs.Shell.CommandLine
import JobLauncher.Shell.Grammar.Command

/-!
# Reading a plan as a script

The tokens of a plan are read as the plan: a name and its arguments are a simple command, the
keywords of a loop and what stands between them are a loop, and a semicolon goes on with what comes
after it. What a reader of commands finds depends on what follows them, so `ReadAsCommand` and
`ReadAsList` speak of all tokens that may follow (`Ends`, `Stops`), and the induction on the plan
carries both.

> `isReadAs_text`: the line of a plan is read as the plan, and nothing of it is left.
-/

namespace JobLauncher.Shell

/-! ## Names of commands -/

/-- A word of unquoted characters is the name they spell. -/
theorem bare?_of_parts {w : Word} {name : String} (h : w.parts = bareParts name) :
    w.bare? = some (bytes name) := by
  rw [Word.bare?, h, bareParts]
  induction bytes name with
  | nil => rfl
  | cons c cs ih => rw [List.map_cons, List.mapM_cons, ih]; rfl

theorem keyword?_of_parts {w : Word} {name : String} (h : w.parts = bareParts name) :
    (Token.word w).keyword? = some name := by
  rw [Token.keyword?, bare?_of_parts h, Option.map_some, bytes, String.ofList_toList]

/-- A text without an equals sign sets no variable. -/
theorem settingLength?_bareParts {name : String} (h : Plan.IsName name) :
    settingLength? (bareParts name) = none := by
  have hsign (n : Nat) {ps : List Part} (hps : ∀ p ∈ ps, p ∈ bareParts name) :
      settingLength?.sign? n ps = none := by
    have hchar {c : Char} (hc : Part.char false c ∈ ps) : isSafe c = true ∧ c ≠ '=' := by
      obtain ⟨d, hd, heq⟩ := List.mem_map.mp (hps _ hc)
      obtain ⟨-, rfl⟩ := Part.char.inj heq
      exact h.isSafe_and_ne d hd
    unfold settingLength?.sign?
    split
    next => exact absurd rfl (hchar List.mem_cons_self).2
    next => exact absurd rfl (hchar (List.mem_cons_of_mem _ List.mem_cons_self)).2
    next => exact absurd (hchar List.mem_cons_self).1 (by decide)
    next => rfl
  rw [settingLength?]
  split
  next => rfl
  next => exact hsign _ fun p hp => List.mem_of_mem_drop hp

theorem setting?_of_parts {w : Word} {name : String} (h : w.parts = bareParts name)
    (hname : Plan.IsName name) : w.setting? = none := by
  rw [Word.setting?, h, settingLength?_bareParts hname]
  rfl

namespace Grammar

variable {s : State} {n : Nat} {rest : List Placed} {fuel : Nat}

/-! ## The small readers -/

/-- One parser after another goes on where the first one stopped. -/
theorem run_bind {α β : Type} {p : Parse α} {f : α → Parse β} {s s' : State} {a : α}
    (h : p.run s = .ok (a, s')) : (p >>= f).run s = (f a).run s' := by
  rw [StateT.run_bind, h]
  rfl

/-- What the next token says where a command is expected. -/
def nextWord (ts : List Placed) : Option String := (ts.head?.map (·.1)).bind Token.keyword?

/-- The next word is a word at the front of the tokens. -/
theorem exists_word_of_nextWord {ts : List Placed} {name : String} (h : nextWord ts = some name) :
    ∃ w n us, ts = (.word w, n) :: us ∧ w.bare?.map String.ofList = some name := by
  match ts, h with
  | (.word w, n) :: us, h => exact ⟨w, n, us, rfl, h⟩

theorem run_get : (get : Parse State).run s = .ok (s, s) := rfl

theorem run_peek : peek.run s = .ok (s.rest.head?.map (·.1), s) := rfl

theorem run_keyword? : keyword?.run s = .ok (nextWord s.rest, s) := rfl

theorem run_advance : advance.run s = .ok ((), { s with rest := s.rest.drop 1 }) := rfl

theorem run_line : line.run s = .ok ((s.rest.head?.map (·.2)).getD s.endLine, s) := rfl

theorem run_skipLines :
    skipLines.run s = .ok ((), { s with rest := s.rest.dropWhile (·.1 == .newline) }) := rfl

/-- The keyword that has to come next. -/
theorem run_expect {word : String} (h : nextWord s.rest = some word) :
    (expect word).run s = .ok ((), { s with rest := s.rest.drop 1 }) := by
  rw [expect, run_bind run_keyword?, h, if_pos (by simp)]
  rfl

/-- An operator that does not come next is not passed over. -/
theorem run_accept {op : String} (h : s.rest.head?.map (·.1) ≠ some (.operator op)) :
    (accept op).run s = .ok (false, s) := by
  rw [accept, run_bind run_peek, if_neg (by simpa using h)]
  rfl

/-- What may follow a command. -/
def Ends : List Placed → Prop
  | [] => True
  | (t, _) :: _ => t = .newline ∨ t = .operator ";"

/-- A command ends with its line. -/
theorem ends_of_newline (h : ∀ t, rest.head?.map (·.1) = some t → t = .newline) : Ends rest := by
  match rest, h with
  | [], _ => trivial
  | (t, _) :: _, h => exact .inl (h t rfl)

/-- No redirection begins with a word, and none where a command ends. -/
theorem run_redirection?_word {w : Word} (h : s.rest = (.word w, n) :: rest) :
    redirection?.run s = .ok (none, s) := by
  obtain ⟨_, endLine, plain⟩ := s
  subst h
  rfl

/-- No redirection begins where a command ends. -/
theorem run_redirection?_ends (h : Ends s.rest) : redirection?.run s = .ok (none, s) := by
  obtain ⟨rest, endLine, plain⟩ := s
  match rest, h with
  | [], _ => rfl
  | (_, _) :: _, .inl rfl => rfl
  | (_, _) :: _, .inr rfl => rfl

/-- No other operator comes next where a command ends. -/
theorem peek_ne_of_ends (h : Ends rest) {op : String} (hop : op ≠ ";") :
    rest.head?.map (·.1) ≠ some (.operator op) := by
  match rest, h with
  | [], _ => exact nofun
  | (_, _) :: _, .inl rfl => exact fun e => Token.noConfusion (Option.some.inj e)
  | (_, _) :: _, .inr rfl => exact fun e => hop (Token.operator.inj (Option.some.inj e)).symm

/-- Of the operators only the semicolon ends a command. -/
theorem run_accept_ends {op : String} (h : Ends s.rest) (hop : op ≠ ";") :
    (accept op).run s = .ok (false, s) := run_accept (peek_ne_of_ends h hop)

/-! ## Simple commands -/

/-- The words of a command end where the command does. -/
theorem run_simpleFrom_ends {c : Simple} (h : Ends s.rest) :
    (simpleFrom (fuel + 1) c).run s = .ok (c, s) := by
  rw [simpleFrom, run_bind (run_redirection?_ends h)]
  obtain ⟨rest, endLine, plain⟩ := s
  match rest, h with
  | [], _ => rfl
  | (_, _) :: _, .inl rfl => rfl
  | (_, _) :: _, .inr rfl => rfl

/-- A word is one more word of the command, unless it sets a variable. -/
theorem run_simpleFrom_word (fuel : Nat) {w : Word} {c : Simple}
    (h : s.rest = (.word w, n) :: rest) (hw : c.words ≠ [] ∨ w.setting? = none) :
    ∃ line, (simpleFrom (fuel + 1) c).run s
      = (simpleFrom fuel { c with words := c.words ++ [w], line }).run { s with rest } := by
  obtain ⟨_, endLine, plain⟩ := s
  subst h
  have hsetting : (if c.words = [] then w.setting? else none) = none := by
    rcases hw with hne | hnone
    · rw [if_neg hne]
    · rw [hnone, ite_self]
  refine ⟨if Simple.started c then c.line else (rest.head?.map (·.2)).getD endLine, ?_⟩
  rw [simpleFrom, run_bind (run_redirection?_word rfl)]
  dsimp only
  rw [run_bind run_peek]
  dsimp only [List.head?_cons, Option.map_some]
  rw [run_bind run_advance, hsetting]
  dsimp only
  rw [pure_bind, run_bind run_line]
  split <;> rfl

/-- The words of a command are those up to where it ends. -/
theorem run_simpleFrom {ws : List Word} (hrest : Ends rest) :
    ∀ {s : State} {us : List Placed} {c : Simple} {fuel : Nat}, us.map (·.1) = ws.map .word →
      s.rest = us ++ rest → (c.words ≠ [] ∨ ∀ w, ws.head? = some w → w.setting? = none) →
      ws.length < fuel →
      ∃ line, (simpleFrom fuel c).run s
        = .ok ({ c with words := c.words ++ ws, line }, { s with rest }) := by
  induction ws with
  | nil =>
    intro s us c fuel hus hs hc hfuel
    obtain ⟨fuel, rfl⟩ := Nat.exists_eq_add_of_lt hfuel
    obtain rfl : us = [] := List.map_eq_nil_iff.mp hus
    obtain rfl : s.rest = rest := hs
    refine ⟨c.line, ?_⟩
    rw [List.append_nil]
    exact run_simpleFrom_ends hrest
  | cons w ws ih =>
    intro s us c fuel hus hs hc hfuel
    obtain ⟨⟨t, n⟩, us, rfl, rfl, hwords⟩ := List.map_eq_cons_iff.mp hus
    obtain ⟨fuel, rfl⟩ : ∃ k, fuel = k + 1 := ⟨fuel - 1, by omega⟩
    rw [List.cons_append] at hs
    -- a word that does not set a variable is the next word of the command
    obtain ⟨line, hword⟩ :=
      run_simpleFrom_word fuel hs (hc.imp_right fun h => h w rfl)
    obtain ⟨last, hread⟩ := ih (s := { s with rest := us ++ rest })
      (c := { c with words := c.words ++ [w], line }) hwords rfl
      (.inl (List.append_ne_nil_of_right_ne_nil _ (List.cons_ne_nil _ _)))
      (Nat.lt_of_succ_lt_succ hfuel)
    refine ⟨last, ?_⟩
    rw [hword, hread, List.append_assoc]
    rfl

/-- Words alone are a simple command. -/
theorem run_simple {w : Word} {ws : List Word} {us : List Placed}
    (hus : us.map (·.1) = (w :: ws).map .word) (hs : s.rest = us ++ rest) (hrest : Ends rest)
    (hw : w.setting? = none) (hfuel : ws.length + 1 < 2 * fuel) :
    ∃ line, (simple (fuel + 1)).run s
      = .ok (.simple { line, words := w :: ws }, { s with rest }) := by
  obtain ⟨line, hread⟩ := run_simpleFrom
    (c := { line := (s.rest.head?.map (·.2)).getD s.endLine }) hrest hus hs
    (.inr fun v hv => by obtain rfl := Option.some.inj hv; exact hw) hfuel
  refine ⟨line, ?_⟩
  rw [simple, run_bind run_line, run_bind hread]
  cases ws with
  | nil =>
    dsimp only [List.nil_append]
    rw [run_bind (run_accept_ends hrest (by decide))]
    rfl
  | cons v vs =>
    dsimp only [List.nil_append]
    rw [run_bind run_peek, if_neg (by simpa using peek_ne_of_ends hrest (by decide))]
    rfl

/-- What is chosen of a name is no other name. -/
theorem filter_ne {name k : String} {names : List String} (hname : name ∉ names) (hk : k ∈ names)
    {f : String → Bool} : (some name).filter f ≠ some k := by
  intro h
  obtain rfl := Option.some.inj (Option.filter_eq_some_iff.mp h).1
  exact hname hk

/-- No command with a body begins with the name of a command. -/
theorem run_compound?_name {name : String} (hs : nextWord s.rest = some name)
    (hname : name ∉ Plan.reserved) : (compound? (fuel + 1)).run s = .ok (none, s) := by
  obtain ⟨rest, endLine, plain⟩ := s
  obtain ⟨w, n, us, rfl, hw⟩ := exists_word_of_nextWord hs
  have hkeyword : (Token.word w).keyword? = some name := hw
  rw [compound?, run_bind run_line, run_bind run_peek]
  dsimp only [List.head?_cons, Option.map_some]
  rw [run_bind run_get, hkeyword]
  split <;> first | rfl | exact absurd ‹_› (filter_ne hname (by decide))

theorem closers_subset : ∀ k ∈ closers, k ∈ Plan.reserved := by decide

theorem signs_subset : ∀ k ∈ ["!", "time", "coproc"], k ∈ Plan.reserved := by decide

/-- A name and other words are a simple command. -/
theorem run_command_name {w : Word} {ws : List Word} {us : List Placed} {name : String}
    (hus : us.map (·.1) = (w :: ws).map .word) (hs : s.rest = us ++ rest) (hrest : Ends rest)
    (hw : w.parts = bareParts name) (hname : Plan.IsName name) (hfuel : ws.length + 1 < 2 * fuel) :
    ∃ line, (command (fuel + 2)).run s
      = .ok (.simple { line, words := w :: ws }, { s with rest }) := by
  have hreserved := hname.2.2
  obtain ⟨line, hsimple⟩ := run_simple hus hs hrest (setting?_of_parts hw hname) hfuel
  obtain ⟨⟨t, n⟩, us, rfl, rfl, -⟩ := List.map_eq_cons_iff.mp hus
  have hkeyword : w.bare?.map String.ofList = some name := keyword?_of_parts hw
  have hnext : nextWord s.rest = some name := by rw [hs]; exact hkeyword
  have hcloser : (some name).any closers.contains = false :=
    Bool.eq_false_iff.mpr fun h => hreserved (closers_subset name (List.contains_iff_mem.mp h))
  refine ⟨line, ?_⟩
  rw [command, run_bind (run_compound?_name hnext hreserved)]
  dsimp only
  rw [run_bind run_peek, hs]
  dsimp only [List.cons_append, List.head?_cons, Option.map_some]
  rw [hkeyword, hcloser]
  exact hsimple

/-! ## Lists of commands -/

/-- A pipeline of one command. -/
theorem run_pipeline {s' : State} {name : String} {a : Script} (hs : nextWord s.rest = some name)
    (hname : name ∉ ["!", "time", "coproc"]) (ha : (command fuel).run s = .ok (a, s'))
    (hends : Ends s'.rest) : (pipeline (fuel + 1)).run s = .ok (a, s') := by
  rw [pipeline, run_bind run_get, run_bind run_keyword?, hs]
  split
  next h => exact absurd h (filter_ne hname (by decide))
  next h => exact absurd h (filter_ne hname (by decide))
  next h => exact absurd h (filter_ne hname (by decide))
  next =>
    rw [run_bind ha, run_bind (run_accept_ends hends (by decide))]
    dsimp only
    rw [if_neg Bool.false_ne_true, run_bind (run_accept_ends hends (by decide))]
    rfl

/-- A script that is not joined with another one is all that is read. -/
theorem run_joined {a : Script} (h : Ends s.rest) : (joined (fuel + 1) a).run s = .ok (a, s) := by
  rw [joined, run_bind (run_accept_ends h (by decide)), if_neg Bool.false_ne_true,
    run_bind (run_accept_ends h (by decide))]
  rfl

/-- A command can begin with any word but those that end a list. -/
theorem run_canBegin {name : String} (hs : nextWord s.rest = some name) :
    canBegin.run s = .ok (!closers.contains name, s) := by
  obtain ⟨w, n, us, hrest, hw⟩ := exists_word_of_nextWord hs
  have hkeyword : (Token.word w).keyword? = some name := hw
  rw [canBegin, run_bind run_peek, hrest]
  dsimp only [List.head?_cons, Option.map_some]
  rw [hkeyword]
  rfl

/-- A semicolon is passed over, and what comes next says whether the list goes on. -/
theorem run_listFrom_semicolon {s' : State} {a : Script} {name : String} {lines : Bool}
    (ha : (pipeline (fuel + 1)).run s = .ok (a, s')) (hs' : s'.rest = (.operator ";", n) :: rest)
    (hrest : nextWord rest = some name) :
    (listFrom (fuel + 2) lines).run s
      = (if closers.contains name then pure a
        else listFrom (fuel + 1) lines >>= fun b => pure (.seq a b)).run { s' with rest } := by
  have hends : Ends s'.rest := by rw [hs']; exact .inr rfl
  -- whether more follows depends on the next word alone, with or without line ends before it
  have hnext (s : State) (hs : nextWord s.rest = some name) :
      (canBegin >>= fun begins => if (true && begins) = true then
          listFrom (fuel + 1) lines >>= fun b => pure (.seq a b) else pure a).run s
        = (if closers.contains name then pure a
          else listFrom (fuel + 1) lines >>= fun b => pure (.seq a b)).run s := by
    rw [run_bind (run_canBegin hs)]
    cases closers.contains name <;> rfl
  rw [listFrom, run_bind ha, run_bind (run_joined hends), run_bind run_peek, hs']
  dsimp only [List.head?_cons, Option.map_some]
  split
  next =>
    rw [run_bind run_advance, hs', List.drop_one, List.tail_cons, pure_bind]
    split
    · obtain ⟨w, n, us, rfl, -⟩ := exists_word_of_nextWord hrest
      rw [run_bind run_skipLines]
      exact hnext _ hrest
    · exact hnext _ hrest
  next h => exact absurd h (by decide)
  next h => exact absurd h (by decide)
  next h _ _ => exact absurd rfl h

/-- The list ends where the line does. -/
theorem run_listFrom_last {s' : State} {a : Script} (ha : (pipeline (fuel + 1)).run s = .ok (a, s'))
    (hs' : ∀ t, s'.rest.head?.map (·.1) = some t → t = .newline) :
    (listFrom (fuel + 2) false).run s = .ok (a, s') := by
  rw [listFrom, run_bind ha, run_bind (run_joined (ends_of_newline hs')), run_bind run_peek]
  obtain ⟨rest, endLine, plain⟩ := s'
  match rest, hs' with
  | [], _ => rfl
  | (t, n) :: rest, h =>
    obtain rfl := h t rfl
    rfl

/-! ## Loops -/

/-- The commands inside another one, if there is one. -/
theorem run_list {name closer : String} (hs : nextWord s.rest = some name) :
    (list (fuel + 1) closer).run s = (listFrom fuel true).run s := by
  obtain ⟨rest, endLine, plain⟩ := s
  obtain ⟨w, n, us, rfl, -⟩ := exists_word_of_nextWord hs
  rw [list, run_bind run_skipLines, run_bind run_peek]
  rfl

/-- Two lists of commands with the keywords of a loop around them are a loop. -/
theorem run_command_loop {sc sb : State} {first second : String} {c b : Script}
    (hs : nextWord s.rest = some "while") (hcs : nextWord (s.rest.drop 1) = some first)
    (hc : (listFrom (fuel + 1) true).run { s with rest := s.rest.drop 1 } = .ok (c, sc))
    (hsc : nextWord sc.rest = some "do") (hbs : nextWord (sc.rest.drop 1) = some second)
    (hb : (listFrom fuel true).run { sc with rest := sc.rest.drop 1 } = .ok (b, sb))
    (hsb : nextWord sb.rest = some "done") (hends : Ends (sb.rest.drop 1)) :
    (command (fuel + 5)).run s = .ok (.loop false c b, { sb with rest := sb.rest.drop 1 }) := by
  have hbody : (body (fuel + 2)).run sc = .ok (b, { sb with rest := sb.rest.drop 1 }) := by
    rw [body, run_bind (run_expect hsc), run_bind ((run_list hbs).trans hb),
      run_bind (run_expect hsb)]
    rfl
  have hloop : (loop (fuel + 3) false).run { s with rest := s.rest.drop 1 }
      = .ok (.loop false c b, { sb with rest := sb.rest.drop 1 }) := by
    rw [loop, run_bind ((run_list hcs).trans hc), run_bind hbody]
    rfl
  have hcompound : (compound? (fuel + 4)).run s
      = .ok (some (.loop false c b), { sb with rest := sb.rest.drop 1 }) := by
    obtain ⟨w, n, us, hrest, hw⟩ := exists_word_of_nextWord hs
    have hkeyword : (Token.word w).keyword? = some "while" := hw
    -- the keyword is known in plain shells too
    have hwhile (plain : Bool) :
        (some "while").filter (fun k => !(plain && fullKeywords.contains k)) = some "while" := by
      cases plain <;> decide
    rw [compound?, run_bind run_line, run_bind run_peek, hrest]
    dsimp only [List.head?_cons, Option.map_some]
    rw [run_bind run_get, hkeyword, hwhile]
    split
    -- of all compound commands only the loop begins like this
    case h_2 =>
      rw [run_bind run_advance]
      exact run_bind hloop
    case h_10 h _ _ _ _ _ _ _ => exact absurd rfl h
    all_goals exact absurd ‹some "while" = _› (by decide)
  have hredirections : (redirections (fuel + 4)).run { sb with rest := sb.rest.drop 1 }
      = .ok ([], { sb with rest := sb.rest.drop 1 }) := by
    rw [redirections, run_bind (run_redirection?_ends hends)]
    rfl
  rw [command, run_bind hcompound]
  exact run_bind hredirections

/-! ## Plans -/

section Plans

variable (values : Bytes → Option Bytes)

/-- What may follow a list of commands, and what of it is left after the list: the line ends, or a
semicolon and a word that ends the list come next. -/
inductive Stops : Bool → List Placed → List Placed → Prop
  | line {rest : List Placed} (h : ∀ t, rest.head?.map (·.1) = some t → t = .newline) :
      Stops false rest rest
  | closer {lines : Bool} {n : Nat} {rest : List Placed} {name : String}
      (hrest : nextWord rest = some name) (hname : closers.contains name = true) :
      Stops lines ((.operator ";", n) :: rest) rest

/-- A line end or a keyword that closes something ends a command. -/
theorem Stops.ends {lines : Bool} {rest rest' : List Placed} (h : Stops lines rest rest') :
    Ends rest := by
  cases h with
  | line h => exact ends_of_newline h
  | closer => exact .inr rfl

/-- Tokens begin with a word that begins a command, and no sign before one. -/
def Begins (us : List Placed) : Prop :=
  ∀ rest, ∃ name, nextWord (us ++ rest) = some name ∧ name ∉ closers
    ∧ name ∉ ["!", "time", "coproc"]

theorem Begins.ne_nil {us : List Placed} (h : Begins us) : us ≠ [] := by
  rintro rfl
  obtain ⟨name, hname, -⟩ := h []
  cases hname

/-- Tokens are read as one command, which is the plan. -/
def ReadAsCommand (p : Plan) (us : List Placed) : Prop :=
  ∀ ⦃s : State⦄ ⦃rest : List Placed⦄ ⦃fuel : Nat⦄, s.rest = us ++ rest → Ends rest →
    8 * us.length ≤ fuel + 2 →
    ∃ script, p.Is values script ∧ (command fuel).run s = .ok (script, { s with rest })

/-- Tokens are read as a list of commands, which is the plan. -/
def ReadAsList (p : Plan) (us : List Placed) : Prop :=
  ∀ ⦃s : State⦄ ⦃rest rest' : List Placed⦄ ⦃lines : Bool⦄ ⦃fuel : Nat⦄, s.rest = us ++ rest →
    Stops lines rest rest' → 8 * us.length ≤ fuel →
    ∃ script, p.Is values script
      ∧ (listFrom fuel lines).run s = .ok (script, { s with rest := rest' })

variable {values}

/-- The line of a plan begins with a word that begins a command. -/
theorem begins_of_spelled {p : Plan} (hp : p.IsSound values) :
    ∀ {ts : List Token} {us : List Placed}, p.Spelled values ts → us.map (·.1) = ts →
      Begins us := by
  have hword {name : String} {w : Word} {n : Nat} {us : List Placed}
      (hw : w.parts = bareParts name) : nextWord ((.word w, n) :: us) = some name :=
    keyword?_of_parts hw
  induction p with
  | run name args =>
    rintro ts us ⟨ws, hnames, rfl⟩ hus rest
    match ws, hnames with
    | w :: ws, ⟨hw, _⟩ =>
      obtain ⟨⟨t, n⟩, us, rfl, rfl, -⟩ := List.map_eq_cons_iff.mp hus
      exact ⟨name, hword hw, fun h => hp.1.2.2 (closers_subset name h),
        fun h => hp.1.2.2 (signs_subset name h)⟩
  | loop condition body =>
    rintro ts us ⟨w, d, e, cs, bs, hw, -, -, -, -, rfl⟩ hus rest
    obtain ⟨⟨t, n⟩, us, rfl, rfl, -⟩ := List.map_eq_cons_iff.mp hus
    exact ⟨"while", hword hw, by decide, by decide⟩
  | seq first _ ih =>
    rintro ts us ⟨as, bs, has, -, rfl⟩ hus rest
    obtain ⟨us, vs, rfl, hus, -⟩ := List.map_eq_append_iff.mp hus
    rw [List.append_assoc]
    exact ih hp.2.1 has hus (vs ++ rest)

/-- One command is a list of commands. -/
theorem ReadAsCommand.list {p : Plan} {us : List Placed} (h : ReadAsCommand values p us)
    (hus : Begins us) : ReadAsList values p us := by
  intro s rest rest' lines fuel hs hstops hfuel
  have hpos := List.length_pos_iff.mpr hus.ne_nil
  obtain ⟨fuel, rfl⟩ : ∃ k, fuel = k + 2 := ⟨fuel - 2, by omega⟩
  obtain ⟨script, hscript, hread⟩ := h hs hstops.ends hfuel
  obtain ⟨name, hname, -, hsign⟩ := hus rest
  have hpipeline := run_pipeline (hs ▸ hname) hsign hread hstops.ends
  refine ⟨script, hscript, ?_⟩
  cases hstops with
  | line h => exact run_listFrom_last hpipeline h
  | closer hrest hcloser =>
    rw [run_listFrom_semicolon hpipeline rfl hrest, if_pos hcloser]
    rfl

/-- Words are a simple command. -/
theorem readAsCommand_run {name : String} {args : List Item} {us : List Placed} {ws : List Word}
    (hname : Plan.IsName name) (hws : Plan.Names values name args ws)
    (hus : us.map (·.1) = ws.map .word) : ReadAsCommand values (.run name args) us := by
  intro s rest fuel hs hends hfuel
  match ws, hws with
  | w :: ws, ⟨hw, hargs⟩ =>
    have hlen : us.length = ws.length + 1 := by
      have := congrArg List.length hus
      simpa using this
    obtain ⟨fuel, rfl⟩ : ∃ k, fuel = k + 2 := ⟨fuel - 2, by omega⟩
    have hwords : ws.length + 1 < 2 * fuel := by omega
    obtain ⟨line, hread⟩ := run_command_name hus hs hends hw hname hwords
    exact ⟨_, ⟨line, w :: ws, ⟨hw, hargs⟩, rfl⟩, hread⟩

/-- The keywords of a loop and the commands between them are a loop. -/
theorem readAsCommand_loop {c b : Plan} {w d e : Word} {n k l m j : Nat} {cs bs : List Placed}
    (hw : w.parts = bareParts "while") (hd : d.parts = bareParts "do")
    (he : e.parts = bareParts "done")
    (hcs : Begins cs) (hbs : Begins bs) (hc : ReadAsList values c cs)
    (hb : ReadAsList values b bs) :
    ReadAsCommand values (.loop c b) ((.word w, n) :: (cs ++ (.operator ";", k) :: (.word d, l)
      :: (bs ++ [(.operator ";", m), (.word e, j)]))) := by
  intro s rest fuel hs hends hfuel
  simp only [List.length_cons, List.length_append, List.length_nil] at hfuel
  simp only [List.cons_append, List.append_assoc, List.nil_append] at hs
  obtain ⟨fuel, rfl⟩ : ∃ k, fuel = k + 5 := ⟨fuel - 5, by omega⟩
  have hcfuel : 8 * cs.length ≤ fuel + 1 := by omega
  have hbfuel : 8 * bs.length ≤ fuel := by omega
  have hdo (rest : List Placed) : nextWord ((.word d, l) :: rest) = some "do" :=
    keyword?_of_parts hd
  have hdone (rest : List Placed) : nextWord ((.word e, j) :: rest) = some "done" :=
    keyword?_of_parts he
  obtain ⟨condition, hcondition, hcread⟩ :=
    hc (s := { s with rest := s.rest.drop 1 }) (congrArg (List.drop 1) hs)
      (.closer (hdo _) (by decide)) hcfuel
  obtain ⟨body, hbody, hbread⟩ :=
    hb (s := { s with rest := bs ++ (.operator ";", m) :: (.word e, j) :: rest }) rfl
      (.closer (hdone rest) (by decide)) hbfuel
  obtain ⟨first, hfirst, -⟩ := hcs _
  obtain ⟨second, hsecond, -⟩ := hbs _
  refine ⟨.loop false condition body, ⟨condition, body, hcondition, hbody, rfl⟩, ?_⟩
  exact run_command_loop (by rw [hs]; exact keyword?_of_parts hw) (by rw [hs]; exact hfirst) hcread
    (hdo _) hsecond hbread (hdone rest) hends

/-- One command, a semicolon and more commands are a list. -/
theorem readAsList_seq {a b : Plan} {n : Nat} {as bs : List Placed} (ha : ReadAsCommand values a as)
    (hb : ReadAsList values b bs) (has : Begins as) (hbs : Begins bs) :
    ReadAsList values (.seq a b) (as ++ (.operator ";", n) :: bs) := by
  intro s rest rest' lines fuel hs hstops hfuel
  rw [List.length_append, List.length_cons] at hfuel
  rw [List.append_assoc, List.cons_append] at hs
  have hpos := List.length_pos_iff.mpr has.ne_nil
  obtain ⟨fuel, rfl⟩ : ∃ k, fuel = k + 2 := ⟨fuel - 2, by omega⟩
  have hafuel : 8 * as.length ≤ fuel + 2 := by omega
  have hbfuel : 8 * bs.length ≤ fuel + 1 := by omega
  obtain ⟨first, hfirst, haread⟩ := ha hs (.inr rfl) hafuel
  obtain ⟨second, hsecond, hbread⟩ := hb (s := { s with rest := bs ++ rest }) rfl hstops hbfuel
  obtain ⟨name, hname, -, hsign⟩ := has ((.operator ";", n) :: (bs ++ rest))
  obtain ⟨next, hnext, hcloser, -⟩ := hbs rest
  refine ⟨.seq first second, ⟨first, second, hfirst, hsecond, rfl⟩, ?_⟩
  rw [run_listFrom_semicolon (run_pipeline (hs ▸ hname) hsign haread (.inr rfl)) rfl hnext,
    if_neg (by simpa using hcloser), run_bind hbread]
  rfl

/-- The tokens of a plan are read as the plan. -/
theorem readAsList_of_spelled {p : Plan} (hp : p.IsSound values) :
    ∀ {ts : List Token} {us : List Placed}, p.Spelled values ts → us.map (·.1) = ts →
      (p.IsOne → ReadAsCommand values p us) ∧ ReadAsList values p us := by
  induction p with
  | run name args =>
    intro ts us hts hus
    have hbegins := begins_of_spelled hp hts hus
    obtain ⟨ws, hnames, rfl⟩ := hts
    have hcommand : ReadAsCommand values (.run name args) us := readAsCommand_run hp.1 hnames hus
    exact ⟨fun _ => hcommand, hcommand.list hbegins⟩
  | loop condition body ihc ihb =>
    intro ts us hts hus
    have hbegins := begins_of_spelled hp hts hus
    obtain ⟨w, d, e, cs, bs, hw, hd, he, hcs, hbs, rfl⟩ := hts
    -- the placed tokens are taken apart in the order in which the loop is spelled
    obtain ⟨⟨t, n⟩, us, rfl, rfl, hbody⟩ := List.map_eq_cons_iff.mp hus
    obtain ⟨cs, us, rfl, rfl, hsign⟩ := List.map_eq_append_iff.mp hbody
    obtain ⟨⟨t, k⟩, us, rfl, rfl, hdo⟩ := List.map_eq_cons_iff.mp hsign
    obtain ⟨⟨t, l⟩, us, rfl, rfl, hrest⟩ := List.map_eq_cons_iff.mp hdo
    obtain ⟨bs, us, rfl, rfl, hend⟩ := List.map_eq_append_iff.mp hrest
    obtain ⟨⟨t, m⟩, us, rfl, rfl, hdone⟩ := List.map_eq_cons_iff.mp hend
    obtain ⟨⟨t, j⟩, us, rfl, rfl, hnil⟩ := List.map_eq_cons_iff.mp hdone
    obtain rfl := List.map_eq_nil_iff.mp hnil
    have hcommand := readAsCommand_loop (n := n) (k := k) (l := l) (m := m) (j := j) hw hd he
      (begins_of_spelled hp.1 hcs rfl) (begins_of_spelled hp.2 hbs rfl) (ihc hp.1 hcs rfl).2
      (ihb hp.2 hbs rfl).2
    exact ⟨fun _ => hcommand, hcommand.list hbegins⟩
  | seq first rest iha ihb =>
    intro ts us hts hus
    obtain ⟨hone, hfirst, hrest⟩ := hp
    obtain ⟨as, bs, has, hbs, rfl⟩ := hts
    obtain ⟨as, us, rfl, rfl, hsign⟩ := List.map_eq_append_iff.mp hus
    obtain ⟨⟨t, n⟩, bs, rfl, rfl, rfl⟩ := List.map_eq_cons_iff.mp hsign
    exact ⟨fun h => h.elim, readAsList_seq ((iha hfirst has rfl).1 hone) (ihb hrest hbs rfl).2
      (begins_of_spelled hfirst has rfl) (begins_of_spelled hrest hbs rfl)⟩

/-! ## The line -/

variable (values) in
/-- A token of a plan: the sign between commands, or a word with a text. -/
def IsPlanned (t : Token) : Prop :=
  t = .operator ";" ∨ ∃ w, t = .word w ∧ textIn values w.parts ≠ none

theorem isPlanned_bare {w : Word} {name : String} (hw : w.parts = bareParts name)
    (hname : (bytes name).all isSafe = true) : IsPlanned values (.word w) := by
  refine .inr ⟨w, rfl, ?_⟩
  rw [hw, bareParts, textIn_map_char (List.all_eq_true.mp hname)]
  exact Option.some_ne_none _

/-- Every token of a plan that is spelled out belongs to it. -/
theorem isPlanned_of_spelled {p : Plan} (hp : p.IsSound values) :
    ∀ {ts : List Token}, p.Spelled values ts → ∀ t ∈ ts, IsPlanned values t := by
  induction p with
  | run name args =>
    rintro ts ⟨ws, hnames, rfl⟩ t ht
    match ws, hnames with
    | w :: ws, ⟨hw, hargs⟩ =>
      rcases List.mem_cons.mp ht with rfl | ht
      · exact isPlanned_bare hw hp.1.all_isSafe
      · obtain ⟨v, hv, rfl⟩ := List.mem_map.mp ht
        exact .inr ⟨v, rfl, ne_none_of_mapM hargs hv⟩
  | loop condition body ihc ihb =>
    rintro ts ⟨w, d, e, cs, bs, hw, hd, he, hcs, hbs, rfl⟩ t ht
    simp only [List.mem_cons, List.mem_append, List.not_mem_nil, or_false] at ht
    rcases ht with rfl | ht | rfl | rfl | ht | rfl | rfl
    · exact isPlanned_bare hw (by decide)
    · exact ihc hp.1 hcs t ht
    · exact .inl rfl
    · exact isPlanned_bare hd (by decide)
    · exact ihb hp.2 hbs t ht
    · exact .inl rfl
    · exact isPlanned_bare he (by decide)
  | seq first rest iha ihb =>
    rintro ts ⟨as, bs, has, hbs, rfl⟩ t ht
    rcases List.mem_append.mp ht with ht | ht
    · exact iha hp.2.1 has t ht
    · rcases List.mem_cons.mp ht with rfl | ht
      · exact .inl rfl
      · exact ihb hp.2.2 hbs t ht

theorem forM_eq_ok {α ε : Type} {xs : List α} {f : α → Except ε Unit} (h : ∀ x ∈ xs, f x = .ok ()) :
    xs.forM f = .ok () := by
  induction xs with
  | nil => rfl
  | cons x xs ih =>
    show (f x >>= fun _ => xs.forM f) = _
    rw [h x List.mem_cons_self]
    exact ih fun y hy => h y (List.mem_cons_of_mem x hy)

/-- Nothing stands in the words of a plan that would have to be checked. -/
theorem check_eq_ok {t : Token} (h : IsPlanned values t ∨ t = .newline) (plain : Bool) (k n : Nat) :
    check plain (k + 1) t n = .ok () := by
  rcases h with (rfl | ⟨w, rfl, hw⟩) | rfl
  · rfl
  · obtain ⟨a, ha⟩ := Option.ne_none_iff_exists'.mp hw
    obtain ⟨as, has, -⟩ := Option.map_eq_some_iff.mp ha
    rw [check]
    refine forM_eq_ok fun p hp => ?_
    have hvalue := ne_none_of_mapM has hp
    match p, hvalue with
    | .char _ _, _ => rfl
    | .quote, _ => rfl
    | .parameter _ _, _ => rfl
  · rfl

/-- The state before a line has the tokens of the line, and perhaps the end of the line after
them. -/
theorem rest_ofText {p : Plan} (hp : p.IsSound values) (f : Flavour) (first : Nat) :
    ∃ tail, (State.ofText f first p.text).rest = tokensFrom f first p.text ++ tail
      ∧ (tail = [] ∨ ∃ n, tail = [(.newline, n)]) := by
  have hcode : codeTokens f first p.text = tokensFrom f first p.text := by
    refine List.filter_eq_self.mpr fun t ht => ?_
    rcases isPlanned_of_spelled hp (tokensFrom_text hp f first) t.1 (List.mem_map_of_mem ht) with
      h | ⟨w, h, -⟩ <;> rw [h] <;> rfl
  rw [State.ofText, hcode]
  split
  · exact ⟨[], (List.append_nil _).symm, .inl rfl⟩
  · split
    · exact ⟨[], (List.append_nil _).symm, .inl rfl⟩
    · split
      · exact ⟨[], (List.append_nil _).symm, .inl rfl⟩
      · exact ⟨_, rfl, .inr ⟨_, rfl⟩⟩

/-- A line is read whole if nothing but its end is left after the commands on it. -/
theorem run_lineAlone {script : Script} {name : String} {tail : List Placed}
    (hs : nextWord s.rest = some name)
    (hread : (listFrom (8 * s.rest.length + 8) false).run s = .ok (script, { s with rest := tail }))
    (htail : tail = [] ∨ ∃ n, tail = [(.newline, n)]) :
    lineAlone.run s = .ok (some script, { s with rest := [] }) := by
  obtain ⟨w, n, us, hfirst, -⟩ := exists_word_of_nextWord hs
  have hskip : skipLines.run s = .ok ((), s) := by
    clear hread hs
    obtain ⟨_, endLine, plain⟩ := s
    subst hfirst
    rfl
  rw [lineAlone, run_bind hskip, run_bind run_get, run_bind run_peek, hfirst]
  dsimp only [List.head?_cons, Option.map_some]
  rw [← hfirst, run_bind hread, run_bind run_peek]
  rcases htail with rfl | ⟨n, rfl⟩ <;> rfl

/-- A text is read as one script, and nothing of it is left. -/
def IsReadAs (f : Flavour) (first : Nat) (text : Bytes) (script : Script) : Prop :=
  nextLine.run (.ofText f first text)
    = .ok (some script, { State.ofText f first text with rest := [] })

/-- The line of a plan is read as the plan. -/
theorem isReadAs_text {p : Plan} (hp : p.IsSound values) (f : Flavour) (first : Nat) :
    ∃ script, p.Is values script ∧ IsReadAs f first p.text script := by
  unfold IsReadAs
  obtain ⟨tail, hrest, htail⟩ := rest_ofText hp f first
  have hspelled := tokensFrom_text hp f first
  generalize State.ofText f first p.text = s at hrest ⊢
  generalize tokensFrom f first p.text = us at hrest hspelled
  have htokens : ∀ t ∈ s.rest, IsPlanned values t.1 ∨ t.1 = .newline := by
    intro t ht
    rw [hrest] at ht
    rcases List.mem_append.mp ht with ht | ht
    · exact .inl (isPlanned_of_spelled hp hspelled _ (List.mem_map_of_mem ht))
    · rcases htail with rfl | ⟨n, rfl⟩
      · exact absurd ht List.not_mem_nil
      · exact .inr (by rw [List.mem_singleton.mp ht])
  -- what is left after the plan is a line end at most
  have hstops : Stops false tail tail := by
    refine .line fun t ht => ?_
    rcases htail with rfl | ⟨n, rfl⟩
    · cases ht
    · exact (Option.some.inj ht).symm
  obtain ⟨name, hname, -⟩ := begins_of_spelled hp hspelled rfl tail
  -- each token of the plan costs eight steps at most, and there are no fewer tokens left than that
  have hfuel : 8 * us.length ≤ 8 * s.rest.length + 8 := by
    rw [hrest, List.length_append]
    omega
  obtain ⟨script, hscript, hread⟩ :=
    (readAsList_of_spelled hp hspelled rfl).2 hrest hstops hfuel
  have hline := run_lineAlone (hrest ▸ hname) hread htail
  refine ⟨script, hscript, ?_⟩
  have hused : s.rest.take (s.rest.length - 0) = s.rest := List.take_length
  rw [nextLine, run_bind run_get, run_bind hline, run_bind run_get]
  dsimp only [List.length_nil]
  rw [hused, forM_eq_ok fun t ht => check_eq_ok (htokens t ht) s.plain 99 t.2]
  rfl

end Plans

end Grammar

end JobLauncher.Shell
