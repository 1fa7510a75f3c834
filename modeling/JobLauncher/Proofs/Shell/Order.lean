import JobLauncher.Dict
import JobLauncher.Proofs.Shell.Expansion
import JobLauncher.Shell.Execute

/-!
# Shells in order

A command does what its words say in a shell in which nothing has been set up that would come
between: no function, alias, trap or option. A plain shell is in order when another one has started
it (`isOrderly_freshShell`), and what it notes about where in a script it is leaves it in order
(`IsOrderly.congr`).
-/

namespace JobLauncher.Shell

section Values

variable {values : Bytes → Option Bytes} {m m' : Machine}

/-! ## The variables of the plain shell -/

theorem Machine.kept?_congr (h : m'.scopes = m.scopes) (name : Bytes) :
    m'.kept? name = m.kept? name := by
  rw [Machine.kept?, h, ← Machine.kept?]

theorem Machine.target_congr (h : m'.scopes = m.scopes) (name : Bytes) :
    m'.target name = m.target name := by
  have hgo (fuel : Nat) :
      ∀ name, Machine.target.go m' fuel name = Machine.target.go m fuel name := by
    induction fuel with
    | zero => intro name; rfl
    | succ fuel ih =>
      intro name
      simp only [Machine.target.go, Machine.kept?_congr h, ih]
  exact hgo 8 name

/-- The plain shell keeps no variables but those that it was given. -/
theorem Machine.lookup?_plain (h : m.dialect = .plain) (name : Bytes) :
    m.lookup? name = m.kept? (m.target name) := by
  rw [lookup?, h]

/-- A variable that refers to no other one has its own text. -/
theorem Machine.text?_of_kept? (h : m.dialect = .plain) {name : Bytes} {v : Variable}
    (hv : m.kept? name = some v) (hrefers : v.refers = false) : m.text? name = v.value.text? := by
  have htarget : m.target name = name := by
    rw [target, target.go, hv]
    split
    next heq =>
      obtain rfl := Option.some.inj heq
      cases hrefers
    next => rfl
  rw [text?, value, lookup?_plain h, htarget, hv]
  rfl

theorem Machine.text?_congr (hm : m.dialect = .plain) (hm' : m'.dialect = .plain)
    (h : m'.scopes = m.scopes) (name : Bytes) : m'.text? name = m.text? name := by
  rw [text?, text?, value, value, lookup?_plain hm, lookup?_plain hm', target_congr h,
    kept?_congr h]

/-! ## Orderly shells -/

variable (values) in
/-- A plain shell that knows the values, and in which nothing comes between a command and what it
does: no function, alias, trap or option has been set up, and nothing waits to be done. -/
structure IsOrderly (m : Machine) : Prop extends Knows values m where
  plain : m.dialect = .plain
  functions : m.functions = []
  disabled : m.disabled = []
  aliases : m.aliases = []
  traps : ∀ t ∈ m.traps, t.script = []
  options : m.options = []
  consumers : m.consumers = []
  signals : m.signals = []

theorem IsOrderly.has_eq_false (hm : IsOrderly values m) (option : String) :
    m.has option = false := by
  rw [Machine.has, hm.options]
  rfl

/-- The shell without what says where in a script it is and how the last command ended. -/
def Machine.settled (m : Machine) : Machine :=
  { m with
    line := 0, command := [], outputStatus := none, status := 0, statuses := [], lastWord := []
    loops := 0, lenient := false, last := false }

/-- Where in a script the shell is does not matter to its order. -/
theorem IsOrderly.congr (hm : IsOrderly values m) (h : m'.settled = m.settled) :
    IsOrderly values m' := by
  have hplain : m'.dialect = m.dialect := (congrArg Machine.dialect h :)
  have htext (name : Bytes) : m'.text? name = m.text? name :=
    Machine.text?_congr hm.plain (hplain.trans hm.plain) (congrArg Machine.scopes h :) name
  exact {
    isName := hm.isName
    isSafe := hm.isSafe
    text := fun hv => (htext _).trans (hm.text hv)
    separators := by
      rw [Machine.separators, Machine.textNamed?, htext]
      exact hm.separators
    choices := (congrArg (·.extras.contains "extglob") h :).trans hm.choices
    plain := hplain.trans hm.plain
    functions := (congrArg Machine.functions h :).trans hm.functions
    disabled := (congrArg Machine.disabled h :).trans hm.disabled
    aliases := (congrArg Machine.aliases h :).trans hm.aliases
    traps := by
      rw [show m'.traps = m.traps from (congrArg Machine.traps h :)]
      exact hm.traps
    options := (congrArg Machine.options h :).trans hm.options
    consumers := (congrArg Machine.consumers h :).trans hm.consumers
    signals := (congrArg Machine.signals h :).trans hm.signals }

/-! ## A shell that has just been started -/

/-- To leave out entries of other keys makes no difference. -/
theorem lookup_filter {α β : Type} [BEq α] [LawfulBEq α] {p : α → Bool} {k : α} (hk : p k = true)
    (xs : List (α × β)) : (xs.filter fun e => p e.1).lookup k = xs.lookup k := by
  induction xs with
  | nil => rfl
  | cons e xs ih =>
    obtain ⟨a, b⟩ := e
    by_cases ha : k = a
    · subst ha
      simp [hk]
    · have hne : (k == a) = false := beq_false_of_ne ha
      cases hp : p a <;> simp [List.lookup_cons, hp, hne, ih]

/-- A plain shell takes over what it finds in its environment, except its directory and how fields
are parted. -/
theorem lookup_initial (process : Nat) (directory : Bytes) {given : List (Bytes × Bytes)}
    {name v : Bytes} (h : given.lookup name = some v) (hplace : name ≠ bytes "PWD")
    (hseparators : name ≠ bytes "IFS") :
    (Environment.initial .plain process directory given).lookup name
      = some { value := .text v, exported := true } := by
  have hfirst (place : Variable) : [(bytes "PWD", place)].lookup name = none :=
    List.lookup_eq_none_iff.mpr fun p hp => by
      rw [List.mem_singleton.mp hp]
      exact bne_iff_ne.mpr hplace
  rw [Environment.initial]
  dsimp only [List.nil_append]
  rw [List.append_assoc, List.lookup_append, hfirst, Option.none_or, List.lookup_append,
    lookup_filter (p := fun k => decide (k ≠ bytes "IFS")) (decide_eq_true hseparators),
    lookup_filter (p := fun k => (List.lookup k [_]).isNone) (by rw [hfirst]; rfl),
    Dict.lookup_map fun t => ({ value := .text t, exported := true } : Variable), h]
  rfl

/-- A fresh shell separates words at blanks, tabs and line ends. -/
theorem lookup_initial_separators (process : Nat) (directory : Bytes)
    (given : List (Bytes × Bytes)) :
    (Environment.initial .plain process directory given).lookup (bytes "IFS")
      = some { value := .text (bytes " \t\n") } := by
  rw [Environment.initial]
  dsimp only [List.nil_append]
  have htaken (p : Bytes × Variable → Bool) (xs : List (Bytes × Variable)) :
      ((xs.filter p).filter fun v => v.1 ≠ bytes "IFS").lookup (bytes "IFS") = none := by
    refine List.lookup_eq_none_iff.mpr fun e he => ?_
    exact bne_iff_ne.mpr (of_decide_eq_true (List.mem_filter.mp he).2).symm
  rw [List.append_assoc, List.lookup_append, show List.lookup _ [_] = none from rfl,
    Option.none_or, List.lookup_append, htaken, Option.none_or, Environment.own, List.filter_append,
    List.filter_cons_of_pos (by dsimp only; rw [htaken]; rfl)]
  rfl

/-- A plain shell that another one starts is in order and knows what it finds in its environment. -/
theorem isOrderly_freshShell {o : Machine} (name : Bytes) (args : List Bytes)
    (hnames : ∀ {name v}, values name = some v → isName name = true
      ∧ name ∉ ["RANDOM", "PWD", "IFS"].map bytes)
    (hsafe : ∀ {name v}, values name = some v → ∀ c ∈ v, isSafe c = true)
    (hgiven : ∀ {name v}, values name = some v → o.environment.lookup name = some v) :
    IsOrderly values (freshShell o .plain name args) := by
  have hkept (k : Bytes) : (freshShell o .plain name args).kept? k
      = (Environment.initial .plain o.nextProcess o.directoryText o.environment).lookup k := by
    show List.findSome? _ [_] = _
    rw [List.findSome?_singleton]
  have hseparators : (freshShell o .plain name args).text? (bytes "IFS") = some (bytes " \t\n") :=
    Machine.text?_of_kept? rfl ((hkept _).trans (lookup_initial_separators ..)) rfl
  refine {
    isName := fun hv => ⟨(hnames hv).1, fun h => (hnames hv).2 (by rw [h]; decide)⟩
    isSafe := hsafe
    text := fun {k v} hv => ?_
    separators := fun c hc => ?_
    choices := rfl, plain := rfl, functions := rfl, disabled := rfl, aliases := rfl
    traps := fun t ht => of_decide_eq_true (List.mem_filter.mp ht).2
    options := rfl, consumers := rfl, signals := rfl }
  -- a fresh shell sets these two itself, whatever it was given for them
  · have hplace : k ≠ bytes "PWD" := fun h => (hnames hv).2 (by rw [h]; decide)
    have hfields : k ≠ bytes "IFS" := fun h => (hnames hv).2 (by rw [h]; decide)
    have htaken := lookup_initial o.nextProcess o.directoryText (hgiven hv) hplace hfields
    exact Machine.text?_of_kept? rfl ((hkept k).trans htaken) rfl
  · have hother : c ∉ bytes " \t\n" := not_mem_of_isSafe hc (by decide)
    rw [Machine.separators, Machine.textNamed?, show "IFS".toList = bytes "IFS" from rfl,
      hseparators]
    exact ⟨fun h => hother (List.mem_filter.mp h).1, fun h => hother (List.mem_filter.mp h).1⟩

end Values

end JobLauncher.Shell
