import JobLauncher.Proofs.Shell.Grammar
import JobLauncher.Proofs.Shell.Order

/-!
# Running what has been read

In a shell in order a command whose words stand for texts is run by these texts
(`runsAs_of_plan`): nothing else is expanded, and no other command is run. The command `true`
succeeds, so a loop with it as its condition makes any number of rounds, as long as its body comes
back (`isEndless_true`).
-/

namespace JobLauncher.Shell

section Values

variable {values : Bytes → Option Bytes} {m m' : Machine}

/-! ## Words of a command -/

/-- The words of a command come to its name and the texts of its arguments. -/
theorem yields_commandWords (go : Perform) {name : String} {args : List Item} {ws : List Word}
    (hm : Knows values m) (hws : Plan.Names values name args ws) (hname : Plan.IsName name)
    (hdeclares : name ∉ declarators) (hargs : ∀ i ∈ args, i.text ≠ []) :
    Yields m (commandWords go ws) ((bytes name :: args.map (·.text)).map .inl) := by
  match ws, hws with
  | w :: ws, ⟨hw, hrest⟩ =>
    have hdeclares : (w.bare?.any fun name =>
        declarators.contains (String.ofList name) && m.hasBuiltin name) = false := by
      rw [bare?_of_parts hw]
      simp [bytes, hdeclares]
    have hfirst : textIn values w.parts = some (bytes name) := by
      rw [hw, bareParts, textIn_map_char (List.all_eq_true.mp hname.all_isSafe)]
    rw [commandWords]
    refine (yields_get m).bind ?_
    dsimp only
    rw [hdeclares]
    refine (yields_fieldsOf go hm hfirst hname.1).bind ?_
    rw [if_neg Bool.false_ne_true]
    refine (yields_allFields go hm hrest ?_).bind (yields_pure m _)
    simpa using hargs

/-! ## Simple commands -/

/-- A trap that has been set to nothing runs nothing. -/
theorem yields_runTrap (go : Perform) (event : Nat) (hm : ∀ t ∈ m.traps, t.script = []) :
    Yields m (runTrap go event) () := by
  rw [runTrap]
  refine (yields_get m).bind ?_
  split
  next => exact yields_pure m ()
  next t ht =>
    rw [if_neg fun h => h.1 (hm t (List.mem_of_find?_eq_some ht))]
    exact yields_pure m ()

/-- Without signals there is nothing to take. -/
theorem yields_takeSignals (go : Perform) (hm : m.signals = []) : Yields m (takeSignals go) () := by
  rw [takeSignals]
  refine (yields_get m).bind ?_
  rw [if_neg fun h => h.2 hm]
  exact yields_pure m ()

theorem yields_trace (go : Perform) (line : Bytes) (hm : m.has "xtrace" = false) :
    Yields m (trace go line) () := by
  rw [trace]
  refine (yields_get m).bind ?_
  rw [hm, if_neg Bool.false_ne_true]
  exact yields_pure m ()

theorem yields_runConsumers (go : Perform) (hm : m.consumers = []) :
    Yields m (runConsumers go) () := by
  rw [runConsumers]
  refine (yields_get m).bind ?_
  rw [if_neg fun h => h hm]
  exact yields_pure m ()

/-- A failure ends no shell in order. -/
theorem yields_afterCommand (go : Perform) (hm : IsOrderly values m) :
    Yields m (afterCommand go) () := by
  rw [afterCommand]
  refine (yields_takeSignals go hm.signals).bind ((yields_get m).bind ?_)
  split
  · refine (yields_runTrap go _ hm.traps).bind ((yields_get m).bind ?_)
    rw [hm.has_eq_false, if_neg Bool.false_ne_true]
    exact yields_pure m ()
  · exact yields_pure m ()

/-- No stream is closed that was open before. -/
theorem yields_forgetWordStreams (m : Machine) : Yields m (forgetWordStreams m.streams) () := by
  have hkept : m.streams.filter (fun s => !isForWords s.1 || m.streams.any (·.1 = s.1))
      = m.streams := by
    refine List.filter_eq_self.mpr fun s hs => ?_
    have hopen : m.streams.any (·.1 = s.1) = true :=
      List.any_eq_true.mpr ⟨s, hs, decide_eq_true rfl⟩
    rw [hopen, Bool.or_true]
  show (Except.ok (), { m with streams := m.streams.filter _ }) = _
  rw [hkept]

/-- What a shell notes of a command before it runs it. -/
def Machine.atCommand (m : Machine) (c : Simple) : Machine :=
  { m with
    line := c.line, outputStatus := none
    command := if m.trapping ∨ m.ending then m.command else Layout.simple c }

/-- What a shell does after it has run a command by its words. -/
def wrapUp (go : Perform) (words : List Bytes) (streams : List (Nat × Nat)) : Act Unit := do
  noteCommand words
  forgetWordStreams streams
  runConsumers go
  afterCommand go

theorem aliased?_eq_none (hm : m.aliases = []) (c : Simple) : aliased? m c = none := by
  have hlookup (name : Bytes) : m.aliases.lookup name = none := by
    rw [hm]
    rfl
  rw [aliased?]
  refine Option.bind_eq_none_iff.mpr fun _ _ => Option.bind_eq_none_iff.mpr fun first _ =>
    Option.bind_eq_none_iff.mpr fun name _ => ?_
  rw [hlookup]
  rfl

theorem runFrom_modify (f : Machine → Machine) :
    (modify f : Act Unit).runFrom m = (.ok (), f m) := rfl

theorem Yields.runFrom_bind {α β : Type} {a : Act α} {x : α} (h : Yields m a x) (f : α → Act β) :
    (a >>= f).runFrom m = (f x).runFrom m := JobLauncher.Shell.runFrom_bind h f

theorem filterMap_getLeft? {α β : Type} (xs : List α) :
    (xs.map (Sum.inl (β := β))).filterMap Sum.getLeft? = xs := by
  rw [List.filterMap_map]
  exact List.filterMap_some

/-- Texts are run as a command without a trace of them. -/
theorem runFrom_execute (go : Perform) (hm : IsOrderly values m) (name : Bytes) (args : List Bytes)
    (f : Unit → Act Unit) :
    Act.runFrom m ((do
        trace go (spaced (← (.inl name :: args.map .inl).mapM tracedArgument))
        withSettings go [] (execute go (.inl name :: args.map .inl))) >>= f)
      = (runCommand go (name :: args) >>= f).runFrom m := by
  have hplain : (args.map (Sum.inl (β := Builtin.Declaration))).any (·.isRight) = false := by
    simp
  have hshown : Yields m ((.inl name :: args.map .inl).mapM tracedArgument)
      ((.inl name :: args.map .inl).map (Sum.elim id Builtin.Declaration.source)) := by
    refine yields_mapM fun w hw => ?_
    obtain ⟨t, -, rfl⟩ : ∃ t ∈ name :: args, .inl t = w := List.mem_map.mp hw
    refine (yields_get m).bind ?_
    rw [hm.plain]
    exact yields_pure m t
  have hexecute : execute go (.inl name :: args.map .inl) = runCommand go (name :: args) := by
    rw [execute, hplain, if_neg Bool.false_ne_true, filterMap_getLeft?]
  rw [bind_assoc, hshown.runFrom_bind, bind_assoc,
    (yields_trace go _ (hm.has_eq_false _)).runFrom_bind, withSettings, if_pos rfl, hexecute]

/-- In an orderly shell a command without settings and redirections whose words come to texts is run
by these texts. -/
theorem runSimple_eq (go : Perform) (hm : IsOrderly values m) {c : Simple} {name : Bytes}
    {args : List Bytes} (hsettings : c.settings = []) (hredirections : c.redirections = [])
    (hwords : Yields (m.atCommand c) (commandWords go c.words) ((name :: args).map .inl)) :
    (runSimple go c).runFrom m
      = (runCommand go (name :: args) >>= fun _ => wrapUp go (name :: args) m.streams).runFrom
          (m.atCommand c) := by
  have hatCommand : IsOrderly values (m.atCommand c) := hm.congr rfl
  obtain ⟨noted, hnote, haliases, htraps, hcommand⟩ :
      ∃ noted, (noteText (Layout.simple c)).runFrom { m with line := c.line } = (.ok (), noted)
        ∧ noted.aliases = [] ∧ (∀ t ∈ noted.traps, t.script = [])
        ∧ { noted with outputStatus := none, line := c.line } = m.atCommand c := by
    refine ⟨_, rfl, ?_⟩
    rw [Machine.atCommand]
    dsimp only
    split <;> exact ⟨hm.aliases, hm.traps, rfl⟩
  rw [runSimple, runFrom_bind (runFrom_modify _), runFrom_bind hnote,
    (yields_runTrap go _ htraps).runFrom_bind, (yields_get _).runFrom_bind]
  dsimp only
  rw [aliased?_eq_none haliases]
  dsimp only
  rw [runFrom_bind (runFrom_modify _), hcommand, (yields_get _).runFrom_bind, hwords.runFrom_bind,
    List.map_cons]
  dsimp only
  have hrun := runFrom_execute go hatCommand name args
  have hleft : List.filterMap Sum.getLeft? (.inl name :: args.map .inl) = name :: args :=
    filterMap_getLeft? (β := Builtin.Declaration) (name :: args)
  rw [hsettings, hredirections, hleft]
  -- a command that changes streams has nothing to change
  split
  next =>
    rw [redirectAll, (yields_pure _ true).runFrom_bind, if_pos rfl, hrun]
    rfl
  next =>
    rw [withRedirections, if_pos rfl, hrun]
    rfl

variable (values) in
/-- In every shell in order the command is run by these words, and by nothing else. -/
def RunsAs (c : Simple) (words : List Bytes) : Prop :=
  ∀ (go : Perform) (m : Machine), IsOrderly values m →
    (runSimple go c).runFrom m
      = (runCommand go words >>= fun _ => wrapUp go words m.streams).runFrom (m.atCommand c)

theorem exists_simple {name : String} {args : List Item} {s : Script}
    (h : (Plan.run name args).Is values s) : ∃ c, s = .simple c := by
  obtain ⟨line, ws, -, rfl⟩ := h
  exact ⟨_, rfl⟩

/-- So is the command of a plan. -/
theorem runsAs_of_plan {name : String} {args : List Item} {c : Simple}
    (hc : (Plan.run name args).Is values (.simple c)) (hname : Plan.IsName name)
    (hdeclares : name ∉ declarators) (hargs : ∀ i ∈ args, i.text ≠ []) :
    RunsAs values c (bytes name :: args.map (·.text)) := by
  intro go m hm
  obtain ⟨line, ws, hws, heq⟩ := hc
  obtain rfl := Script.simple.inj heq
  have hatCommand : IsOrderly values (m.atCommand { line, words := ws }) := hm.congr rfl
  exact runSimple_eq go hm rfl rfl
    (yields_commandWords go hatCommand.toKnows hws hname hdeclares hargs)

/-! ## Commands that come back -/

theorem runFrom_outcome {α : Type} (a : Act α) :
    a.outcome.runFrom m = (.ok (a.runFrom m).1, (a.runFrom m).2) := rfl

/-- After a command nothing is done but to note it, even if it has failed. -/
theorem runFrom_wrapUp (go : Perform) (hm : IsOrderly values m) (words : List Bytes) :
    ∃ m', (wrapUp go words m.streams).runFrom m = (.ok (), m') ∧ m'.status = m.status
      ∧ m'.streams = m.streams ∧ m'.settled = m.settled := by
  obtain ⟨noted, hnote, hstatus, hstreams, hsettled⟩ :
      ∃ noted, (noteCommand words).runFrom m = (.ok (), noted) ∧ noted.status = m.status
        ∧ noted.streams = m.streams ∧ noted.settled = m.settled := ⟨_, rfl, rfl, rfl, rfl⟩
  have horderly : IsOrderly values noted := hm.congr hsettled
  refine ⟨noted, ?_, hstatus, hstreams, hsettled⟩
  rw [wrapUp, runFrom_bind hnote, ← hstreams, (yields_forgetWordStreams _).runFrom_bind,
    (yields_runConsumers go horderly.consumers).runFrom_bind]
  exact yields_afterCommand go horderly

/-- A script that is one command does what the command does. -/
theorem runFrom_perform_simple (hm : IsOrderly values m) (fuel : Nat) (c : Simple) :
    (perform (fuel + 1) (.script (.simple c))).runFrom m
      = (runSimple (perform fuel) c).runFrom m := by
  rw [perform, runScript, (yields_get _).runFrom_bind, hm.has_eq_false, if_neg Bool.false_ne_true]

variable (values) in
/-- States of shells in order, which do not differ by what a shell notes about where in a script it
is. -/
structure IsStable (P : Machine → Prop) : Prop where
  orderly : ∀ {m}, P m → IsOrderly values m
  congr : ∀ {m m'}, P m → m'.settled = m.settled → P m'

/-- From such a state an act comes back to one, and the streams are as they were. -/
def Keeps (P : Machine → Prop) (a : Act Unit) : Prop :=
  ∀ m, P m → ∃ m', a.runFrom m = (.ok (), m') ∧ P m' ∧ m'.streams = m.streams

section Stable

variable {P : Machine → Prop}

/-- A command comes back if what it is run by does, whatever its status is then. -/
theorem RunsAs.keeps {c : Simple} {words : List Bytes} (hc : RunsAs values c words)
    (hP : IsStable values P) {go : Perform} (h : Keeps P (runCommand go words)) :
    Keeps P (runSimple go c) := by
  intro m hm
  obtain ⟨ran, hrun, hran, hstreams⟩ := h (m.atCommand c) (hP.congr hm rfl)
  obtain ⟨m', hwrap, -, hstreams', hsettled⟩ := runFrom_wrapUp go (hP.orderly hran) words
  refine ⟨m', ?_, hP.congr hran hsettled, hstreams'.trans hstreams⟩
  rw [hc go m (hP.orderly hm), runFrom_bind hrun, ← hwrap, hstreams]
  rfl

/-- What a simple command keeps is kept by the script that is that command. -/
theorem keeps_simple (hP : IsStable values P) {fuel : Nat} {c : Simple}
    (hc : Keeps P (runSimple (perform fuel) c)) :
    Keeps P (perform (fuel + 1) (.script (.simple c))) := by
  intro m hm
  rw [runFrom_perform_simple (hP.orderly hm)]
  exact hc m hm

/-- So do two commands one after the other. -/
theorem keeps_seq (hP : IsStable values P) {fuel : Nat} {a b : Simple}
    (ha : Keeps P (runSimple (perform fuel) a)) (hb : Keeps P (runSimple (perform fuel) b)) :
    Keeps P (perform (fuel + 2) (.script (.seq (.simple a) (.simple b)))) := by
  intro m hm
  obtain ⟨m₁, ha, hm₁, hstreams₁⟩ := keeps_simple hP ha { m with last := false } (hP.congr hm rfl)
  obtain ⟨m₂, hb, hm₂, hstreams₂⟩ :=
    keeps_simple hP hb { m₁ with last := m.last } (hP.congr hm₁ rfl)
  refine ⟨m₂, ?_, hm₂, hstreams₂.trans hstreams₁⟩
  rw [perform, runScript, (yields_get _).runFrom_bind, (hP.orderly hm).has_eq_false,
    if_neg Bool.false_ne_true]
  dsimp only [commandsOf]
  rw [runAll, runFrom_bind (runFrom_modify _), runFrom_bind ha, runAll,
    runFrom_bind (runFrom_modify _)]
  · exact hb
  · exact nofun

end Stable

/-! ## Loops without an end -/

/-- The condition succeeds and changes nothing but the status. -/
theorem runCommand_true (go : Perform) (hm : IsOrderly values m) :
    (runCommand go [bytes "true"]).runFrom m = (.ok (), { m with status := 0 }) := by
  have hbuiltin : m.hasBuiltin (bytes "true") = true := by
    rw [Machine.hasBuiltin, hm.plain, hm.disabled]
    decide
  have hfind : Builtin.find? go m (bytes "true") = some fun _ => setStatus 0 := by
    rw [Builtin.find?, hbuiltin]
    rfl
  have hfunction : m.functions.lookup (bytes "true") = none := by
    rw [hm.functions]
    rfl
  rw [runCommand, (yields_get _).runFrom_bind, hfunction]
  dsimp only
  rw [hfind]
  rfl

/-- The command `true` succeeds, and nothing but what the shell notes of it changes. -/
theorem runSimple_true (go : Perform) (hm : IsOrderly values m) {c : Simple}
    (hc : (Plan.run "true" []).Is values (.simple c)) :
    ∃ m', (runSimple go c).runFrom m = (.ok (), m') ∧ m'.status = 0 ∧ m'.settled = m.settled := by
  have hatCommand : IsOrderly values (m.atCommand c) := hm.congr rfl
  have hdone : IsOrderly values { m.atCommand c with status := 0 } := hatCommand.congr rfl
  obtain ⟨m', hwrap, hstatus, -, hsettled⟩ := runFrom_wrapUp go hdone [bytes "true"]
  refine ⟨m', ?_, hstatus, hsettled⟩
  rw [runsAs_of_plan hc (by decide) (by decide) (List.forall_mem_nil _) go m hm]
  exact (runFrom_bind (runCommand_true go hatCommand) _).trans hwrap

/-- Where a loop asks for its status it succeeds as well. -/
theorem leniently_true (fuel : Nat) (hm : IsOrderly values m) {s : Script}
    (hs : (Plan.run "true" []).Is values s) :
    ∃ m', (leniently (perform (fuel + 1) (.script s))).runFrom m = (.ok (), m') ∧ m'.status = 0
      ∧ m'.settled = m.settled := by
  obtain ⟨c, rfl⟩ := exists_simple hs
  let asked : Machine := { m with lenient := true, last := false }
  have hset : (set asked : Act Unit).runFrom m = (.ok (), asked) := rfl
  have horderly : IsOrderly values asked := hm.congr rfl
  obtain ⟨m', hrun, hstatus, hsettled⟩ := runSimple_true (perform fuel) horderly hs
  refine ⟨{ m' with lenient := m.lenient, last := m.last }, ?_, hstatus, hsettled⟩
  rw [leniently, (yields_get m).runFrom_bind, runFrom_bind hset, runFrom_bind (runFrom_outcome _),
    runFrom_perform_simple horderly, hrun]
  rfl

/-- A loop makes so many rounds from one state to another: each time the condition succeeds and the
body comes back. -/
inductive Rounds (condition body : Act Unit) : Nat → Machine → Machine → Prop
  | none {m : Machine} : Rounds condition body 0 m m
  | next {n : Nat} {m m₁ m₂ m' : Machine}
      (hcondition : (leniently condition).runFrom m = (.ok (), m₁)) (hstatus : m₁.status = 0)
      (hbody : (goesOn body).runFrom m₁ = (.ok true, m₂)) (hrest : Rounds condition body n m₂ m') :
      Rounds condition body (n + 1) m m'

/-- A loop that has made some rounds goes on with those that are left. -/
theorem Rounds.repeatWhile_eq {condition body : Act Unit} {n : Nat}
    (h : Rounds condition body n m m') (more : Nat) :
    ∀ status, ∃ status', (repeatWhile false condition body (n + more) status).runFrom m
      = (repeatWhile false condition body more status').runFrom m' := by
  induction h with
  | none => exact fun status => ⟨status, by rw [Nat.zero_add]⟩
  | @next n m m₁ m₂ m' hcondition hstatus hbody _ ih =>
    intro status
    obtain ⟨status', hrest⟩ := ih m₂.status
    refine ⟨status', ?_⟩
    rw [Nat.add_right_comm, repeatWhile, runFrom_bind hcondition, (yields_get _).runFrom_bind,
      hstatus, if_neg (by simp), runFrom_bind hbody, if_pos rfl, (yields_get _).runFrom_bind]
    exact hrest

/-- However many rounds a loop is to make from such a state, it makes them to one and goes on with
those that are left: it does not end by itself. -/
def IsEndless (P : Machine → Prop) (condition body : Act Unit) : Prop :=
  ∀ n m, P m → ∃ m', P m' ∧ Rounds condition body n m m'
    ∧ ∀ more status, ∃ status', (repeatWhile false condition body (n + more) status).runFrom m
      = (repeatWhile false condition body more status').runFrom m'

/-- So its loop never ends by itself, whatever its body does that keeps the state in order. -/
theorem isEndless_true {P : Machine → Prop} (hP : IsStable values P) (fuel : Nat) {s : Script}
    (hs : (Plan.run "true" []).Is values s) {body : Act Unit} (hbody : Keeps P body) :
    IsEndless P (perform (fuel + 1) (.script s)) body := by
  intro n m hm
  obtain ⟨m', hm', hrounds⟩ : ∃ m', P m' ∧ Rounds (perform (fuel + 1) (.script s)) body n m m' := by
    induction n generalizing m with
    | zero => exact ⟨m, hm, .none⟩
    | succ n ih =>
      obtain ⟨m₁, hcondition, hstatus, hsettled⟩ := leniently_true fuel (hP.orderly hm) hs
      obtain ⟨m₂, hround, hm₂, -⟩ := hbody m₁ (hP.congr hm hsettled)
      obtain ⟨m', hm', hrest⟩ := ih m₂ hm₂
      have hgoesOn : (goesOn body).runFrom m₁ = (.ok true, m₂) := by
        rw [goesOn, runFrom_bind (runFrom_outcome _), hround]
        rfl
      exact ⟨m', hm', .next hcondition hstatus hgoesOn hrest⟩
  exact ⟨m', hm', hrounds, hrounds.repeatWhile_eq⟩

end Values

end JobLauncher.Shell
