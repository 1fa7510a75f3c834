import Mathlib.Data.List.TakeWhile
import JobLauncher.Proofs.Shell.CommandLine
import JobLauncher.Shell.Words

/-!
# What words come to

A word that stands for a text in some values comes to that text and to nothing else in every shell
that knows the values, and the shell is as it was (`yields_fieldsOf`). Nothing in the word can be
expanded in another way: no brace, tilde or pattern stands in it without quotes, and no character of
a value parts fields.
-/

namespace JobLauncher.Shell

/-! ## Acts that leave the state as it is -/

section Acts

variable {α β : Type} {m m' : Machine}

/-- An action goes on from the state that the one before it has left. -/
theorem runFrom_bind {a : Act α} {x : α} (h : a.runFrom m = (.ok x, m')) (f : α → Act β) :
    (a >>= f).runFrom m = (f x).runFrom m' := by
  have h : a.run.run m = (.ok x, m') := h
  simp only [Act.runFrom, ExceptT.run_bind, StateT.run_bind, h]
  rfl

/-- In a state an act gives a value and changes nothing. -/
def Yields (m : Machine) (a : Act α) (x : α) : Prop := a.runFrom m = (.ok x, m)

theorem yields_pure (m : Machine) (x : α) : Yields m (pure x) x := rfl

theorem yields_get (m : Machine) : Yields m (get : Act Machine) m := rfl

/-- What looks without changing anything can be done in a row. -/
theorem Yields.bind {a : Act α} {x : α} {f : α → Act β} {y : β} (h : Yields m a x)
    (hf : Yields m (f x) y) : Yields m (a >>= f) y := (runFrom_bind h f).trans hf

theorem yields_mapM {f : α → Act β} {g : α → β} {xs : List α}
    (h : ∀ x ∈ xs, Yields m (f x) (g x)) : Yields m (xs.mapM f) (xs.map g) := by
  induction xs with
  | nil => exact yields_pure m []
  | cons x xs ih =>
    rw [List.mapM_cons]
    exact (h x List.mem_cons_self).bind
      ((ih fun y hy => h y (List.mem_cons_of_mem x hy)).bind (yields_pure m _))

end Acts

/-! ## Bits -/

section Values

variable {values : Bytes → Option Bytes} {m : Machine}

variable (values) in
/-- The shell knows the values: its variables have them, and no character of them has a meaning. -/
structure Knows (m : Machine) : Prop where
  isName : ∀ {name v}, values name = some v → isName name = true ∧ name ≠ bytes "RANDOM"
  isSafe : ∀ {name v}, values name = some v → ∀ c ∈ v, isSafe c = true
  text : ∀ {name v}, values name = some v → m.text? name = some v
  separators : ∀ c, JobLauncher.Shell.isSafe c = true →
    c ∉ m.separators.blanks ∧ c ∉ m.separators.others
  choices : m.choices = false

variable (values) in
/-- The bits of a part that stands for a text. -/
def Part.bitsIn : Part → List Bit
  | .char quoted c => [if quoted then .solid c else .plain c]
  | .quote => [.quote]
  | .parameter false name => ((values name).getD []).map .loose
  | _ => []

theorem Part.bitsIn_parameter (name : Bytes) :
    (Part.parameter false name).bitsIn values = ((values name).getD []).map .loose := rfl

/-- A name in braces is a look-up with nothing special about it. -/
theorem read?_name {name : Bytes} (h : isName name = true) :
    Lookup.read? name = some { parameter := .named name none } := by
  match name, h with
  | c :: cs, h =>
    -- the first character is a letter or an underscore, so none of the special parameters is meant
    obtain ⟨hc, hcs⟩ := Bool.and_eq_true_iff.mp h
    have hchar : isNameChar c = true := by
      simp only [isNameStart, isNameChar, Char.isAlphanum, Bool.or_eq_true] at hc ⊢
      exact hc.imp_left .inl
    have hall : (c :: cs).takeWhile isNameChar = c :: cs :=
      List.takeWhile_eq_self_iff.mpr (List.forall_mem_cons.mpr ⟨hchar, List.all_eq_true.mp hcs⟩)
    have hparameter : Parameter.read? (c :: cs) = some (.named (c :: cs) none, []) := by
      simp only [Parameter.read?, hc, if_true, hall, List.drop_length]
    have hplain : Lookup.read?.plain (c :: cs) = some { parameter := .named (c :: cs) none } := by
      rw [Lookup.read?.plain, hparameter]
      rfl
    -- neither of the two signs that ask for something else can begin a name
    rw [Lookup.read?]
    · exact hplain
    · intro rest heq
      obtain ⟨rfl, -⟩ := List.cons.inj heq
      exact absurd hc (by decide)
    · intro rest heq
      obtain ⟨rfl, -⟩ := List.cons.inj heq
      exact absurd hc (by decide)

/-- A part of known value comes to its characters, those of a variable without quotes being loose.
-/
theorem yields_partBits (go : Perform) (use : Use) (k : Nat) {p : Part} {a : Bytes}
    (hm : Knows values m) (hp : p.valueIn? values = some a) :
    Yields m (partBits go use (k + 3) p) (p.bitsIn values) := by
  match p, hp with
  | .char quoted c, _ => exact yields_pure m _
  | .quote, _ => exact yields_pure m _
  | .parameter false name, hp =>
    have hv : values name = some a := hp
    have hportable (plain : Bool) : (some ({ parameter := .named name none } : Lookup)).filter
        (fun l => !plain || l.isPortable) = some { parameter := .named name none } := by
      cases plain <;> rfl
    have hfind : Yields m (find go (k + 1) (.named name none)) (.ofOption (some a)) := by
      rw [find]
      refine Yields.bind (x := some a) ?_ (yields_pure m _)
      rw [lookText]
      refine (yields_get m).bind ?_
      rw [if_neg (hm.isName hv).2, ← hm.text hv]
      exact yields_pure m _
    rw [partBits, Part.bitsIn_parameter, hv, Option.getD_some, parameterBits,
      read?_name (hm.isName hv).1]
    refine (yields_get m).bind ?_
    dsimp only
    rw [hportable]
    refine (yields_get m).bind ?_
    dsimp only
    rw [if_neg Bool.false_ne_true, pure_bind]
    -- the value is set, so it does not matter whether a variable has to be
    refine hfind.bind (Yields.bind (x := ()) ((yields_get m).bind ?_) ((yields_get m).bind ?_))
    · rw [if_neg (by rintro ⟨⟨⟩, -⟩)]
      exact yields_pure m ()
    · show Yields m (pure ([a].flatten.map Bit.loose)) _
      rw [List.flatten_singleton]
      exact yields_pure m _

/-- The bits of parts that stand for texts, one part after another. -/
theorem yields_bitsInTurn {use : Use} {bitsOf : Part → Act (List Bit)} {ps : List Part}
    (hps : ∀ p ∈ ps, p.valueIn? values ≠ none)
    (hbits : ∀ p ∈ ps, Yields m (bitsOf p) (p.bitsIn values)) :
    Yields m (bitsInTurn use bitsOf ps) (ps.flatMap (Part.bitsIn values)) := by
  induction ps with
  | nil => exact yields_pure m []
  | cons p ps ih =>
    have hrest := ih (fun q hq => hps q (List.mem_cons_of_mem p hq))
      fun q hq => hbits q (List.mem_cons_of_mem p hq)
    rw [bitsInTurn]
    split
    next hseveral =>
      -- a list between quotes would be a parameter that they protect, and none of the parts is one
      obtain ⟨q, hq, hlist⟩ := List.any_eq_true.mp (Bool.and_eq_true_iff.mp hseveral).2
      have hvalue := hps q (List.mem_cons_of_mem p ((List.takeWhile_prefix _).subset hq))
      match q, hvalue with
      | .parameter true _, h => exact absurd rfl h
      | .char _ _, _ | .quote, _ | .parameter false _, _ => exact absurd hlist Bool.false_ne_true
    next => exact (hbits p List.mem_cons_self).bind (hrest.bind (yields_pure m _))

/-! ## Nothing else to expand -/

/-- Without a tilde there is nothing to expand. -/
theorem expandTildes_eq_self {ps : List Part} (h : Part.char false '~' ∉ ps) (inSetting : Bool) :
    ∀ atStart, expandTildes m inSetting atStart ps = ps := by
  induction ps with
  | nil => intro _; rfl
  | cons p ps ih =>
    intro atStart
    obtain ⟨hp, hps⟩ := not_or.mp (mt List.mem_cons.mpr h)
    rw [expandTildes, ih hps, if_neg (fun e => hp e.2.symm)]

theorem tildeParts_eq_self {ps : List Part} (h : Part.char false '~' ∉ ps) :
    tildeParts m ps = ps := by
  rw [tildeParts]
  split
  next n _ =>
    rw [expandTildes_eq_self (fun hm => h (List.mem_of_mem_drop hm)), List.take_append_drop]
  next => exact expandTildes_eq_self h _ _

/-- Without a brace a word is one word. -/
theorem braces_eq_singleton {w : Word} (h : Part.char false '\x7b' ∉ w.parts) : w.braces = [w] := by
  rw [Word.braces, if_neg]
  exact fun hm => h (List.contains_iff_mem.mp hm)

/-! ## Fields -/

/-- A bit that no separator is in. -/
def Bit.IsWhole (s : Separators) : Bit → Prop
  | .edge => False
  | .loose c => c ∉ s.blanks ∧ c ∉ s.others
  | _ => True

/-- A word that has been begun goes on to the end if nothing in it separates. -/
theorem splitBits_some {s : Separators} {bits : List Bit} (h : ∀ b ∈ bits, b.IsWhole s) :
    ∀ (begun : List Guarded) (afterBlank : Bool), splitBits s (some begun) afterBlank bits
      = [begun.reverse ++ bits.flatMap Bit.asPattern] := by
  induction bits with
  | nil => intro begun _; simp [splitBits]
  | cons b bits ih =>
    intro begun afterBlank
    have hb := h b List.mem_cons_self
    have hrest := ih fun c hc => h c (List.mem_cons_of_mem b hc)
    cases b with
    | edge => exact hb.elim
    | loose c =>
      obtain ⟨hblank, hother⟩ : c ∉ s.blanks ∧ c ∉ s.others := hb
      simp [splitBits, hblank, hother, hrest, Bit.asPattern]
    | _ => simp [splitBits, hrest, Bit.asPattern]

/-- So it is one word, unless there is nothing in it. -/
theorem splitBits_none {s : Separators} {bits : List Bit} (h : ∀ b ∈ bits, b.IsWhole s)
    (hne : bits ≠ []) (afterBlank : Bool) :
    splitBits s none afterBlank bits = [bits.flatMap Bit.asPattern] := by
  obtain ⟨b, bits, rfl⟩ := List.exists_cons_of_ne_nil hne
  have hbegun : splitBits s none afterBlank (b :: bits)
      = splitBits s (some []) afterBlank (b :: bits) := by
    have hb := h b List.mem_cons_self
    cases b with
    | edge => exact hb.elim
    | loose c =>
      obtain ⟨hblank, hother⟩ : c ∉ s.blanks ∧ c ∉ s.others := hb
      simp [splitBits, hblank, hother]
    | _ => rfl
  rw [hbegun, splitBits_some h]
  rfl

/-! ## Patterns -/

/-- A pattern in which no sign for other text stands without quotes. -/
def IsInert (p : List Guarded) : Prop := ∀ c, (c, false) ∈ p → c ≠ '*' ∧ c ≠ '?' ∧ c ≠ '['

/-- Without choices between patterns, a character that is no sign is itself or guards the next. -/
theorem parse_bare {c : Char} (fuel : Nat) (rest : List Guarded) (hstar : c ≠ '*') (hmark : c ≠ '?')
    (hbracket : c ≠ '[') :
    Glob.parse false (fuel + 1) ((c, false) :: rest)
      = if c = '\\' then
          match rest with
          | (d, _) :: rest => .char d :: Glob.parse false fuel rest
          | [] => [.char c]
        else .char c :: Glob.parse false fuel rest := by
  -- there are no choices to look for, and the cases of the signs are passed over one by one
  refine (if_neg hstar).trans ((if_neg hmark).trans ((if_neg hbracket).trans ?_))
  cases rest <;> rfl

/-- A pattern in which every character is guarded or plain matches just itself. -/
theorem parse_inert : ∀ (fuel : Nat) {p : List Guarded}, IsInert p →
    ∀ x ∈ Glob.parse false fuel p, ∃ c, x = .char c := by
  intro fuel
  induction fuel with
  | zero => intro p _ x hx; cases hx
  | succ fuel ih =>
    intro p hp x hx
    have hchar {c : Char} {rest : List Guarded} (hrest : IsInert rest)
        (hx : x ∈ .char c :: Glob.parse false fuel rest) : ∃ c, x = .char c := by
      rcases List.mem_cons.mp hx with rfl | hx
      · exact ⟨c, rfl⟩
      · exact ih hrest x hx
    match p with
    | [] => cases hx
    | (c, true) :: rest =>
      exact hchar (fun d hd => hp d (List.mem_cons_of_mem _ hd)) hx
    | (c, false) :: rest =>
      obtain ⟨hstar, hmark, hbracket⟩ := hp c List.mem_cons_self
      have hrest : IsInert rest := fun d hd => hp d (List.mem_cons_of_mem _ hd)
      rw [parse_bare fuel rest hstar hmark hbracket] at hx
      split at hx
      · match rest, hrest with
        | [], _ => exact ⟨c, List.mem_singleton.mp hx⟩
        | (d, _) :: rest, hrest =>
          exact hchar (fun e he => hrest e (List.mem_cons_of_mem _ he)) hx
      · exact hchar hrest hx

theorem isActive_inert {p : List Guarded} (h : IsInert p) : Glob.isActive false p = false := by
  refine Bool.eq_false_iff.mpr fun hactive => ?_
  obtain ⟨x, hx, hactive⟩ := List.any_eq_true.mp hactive
  obtain ⟨c, rfl⟩ := parse_inert _ h x hx
  cases hactive

/-- Such a pattern comes to its own text, whatever files there are. -/
theorem yields_filesOrText {p : List Guarded} (hm : m.choices = false) (hp : IsInert p) :
    Yields m (filesOrText p) [plainText p] := by
  have hactive : Glob.isActive m.choices p = false := hm ▸ isActive_inert hp
  have hfiles : matchingFiles m.pathStyle m.files m.directory p = [] := by
    rw [matchingFiles, if_neg]
    exact fun h => Bool.false_ne_true (hactive.symm.trans h)
  rw [filesOrText]
  refine (yields_get m).bind ?_
  split
  · exact yields_pure m _
  · rw [hfiles]
    dsimp only
    rw [hactive, if_neg Bool.false_ne_true]
    exact yields_pure m _

/-! ## Words -/

/-- No character that stands without quotes in a text is a sign of patterns. -/
theorem ne_sign_of_not_isActive {c : Char} (h : isActive c = false) : c ≠ '*' ∧ c ≠ '?' ∧ c ≠ '[' :=
  ⟨by rintro rfl; exact absurd h (by decide), by rintro rfl; exact absurd h (by decide),
    by rintro rfl; exact absurd h (by decide)⟩

/-- The bits of a part are whole, and as a part of a pattern they are its text. -/
theorem bitsIn_spec {p : Part} {a : Bytes} (hm : Knows values m) (hp : p.valueIn? values = some a) :
    (∀ b ∈ p.bitsIn values, b.IsWhole m.separators)
    ∧ plainText ((p.bitsIn values).flatMap Bit.asPattern) = a
    ∧ IsInert ((p.bitsIn values).flatMap Bit.asPattern) := by
  match p, hp with
  | .char true c, hp =>
    obtain rfl : [c] = a := Option.some.inj hp
    refine ⟨?_, rfl, ?_⟩
    · rintro b (_ | ⟨_, ⟨⟩⟩)
      trivial
    · rintro d (_ | ⟨_, ⟨⟩⟩)
  -- unquoted characters count only if they mean nothing to the shell
  | .char false c, hp =>
    have hvalue : (if isActive c = true then none else some [c]) = some a := hp
    split at hvalue
    next => cases hvalue
    next hactive =>
      obtain rfl : [c] = a := Option.some.inj hvalue
      refine ⟨?_, rfl, ?_⟩
      · rintro b (_ | ⟨_, ⟨⟩⟩)
        trivial
      · rintro d (_ | ⟨_, ⟨⟩⟩)
        exact ne_sign_of_not_isActive (Bool.eq_false_iff.mpr hactive)
  | .quote, hp =>
    obtain rfl : [] = a := Option.some.inj hp
    refine ⟨?_, rfl, ?_⟩
    · rintro b (_ | ⟨_, ⟨⟩⟩)
      trivial
    · rintro d ⟨⟩
  | .parameter false name, hp =>
    have hv : values name = some a := hp
    have hbits : (Part.parameter false name).bitsIn values = a.map Bit.loose := by
      rw [Part.bitsIn_parameter, hv, Option.getD_some]
    -- the value is made of safe characters, so it is neither split nor taken for a pattern
    have hpattern : (a.map Bit.loose).flatMap Bit.asPattern = a.map (·, false) := by
      rw [List.flatMap_map]
      exact List.map_eq_flatMap.symm
    rw [hbits, hpattern]
    refine ⟨?_, ?_, ?_⟩
    · intro b hb
      obtain ⟨c, hc, rfl⟩ := List.mem_map.mp hb
      exact hm.separators c (hm.isSafe hv c hc)
    · rw [plainText, List.map_map]
      exact List.map_id a
    · intro c hc
      obtain ⟨d, hd, heq⟩ := List.mem_map.mp hc
      obtain ⟨rfl, -⟩ := Prod.mk.inj heq
      exact ne_sign_of_not_isActive (isActive_of_isSafe (hm.isSafe hv d hd))

theorem IsInert.append {p q : List Guarded} (hp : IsInert p) (hq : IsInert q) : IsInert (p ++ q) :=
  fun c hc => (List.mem_append.mp hc).elim (hp c) (hq c)

/-- So it is with the bits of all parts together. -/
theorem bitsIn_flatMap_spec (hm : Knows values m) {ps : List Part} :
    ∀ {t : Bytes}, textIn values ps = some t →
      (∀ b ∈ ps.flatMap (Part.bitsIn values), b.IsWhole m.separators)
      ∧ plainText ((ps.flatMap (Part.bitsIn values)).flatMap Bit.asPattern) = t
      ∧ IsInert ((ps.flatMap (Part.bitsIn values)).flatMap Bit.asPattern) := by
  induction ps with
  | nil =>
    intro t ht
    obtain rfl : [] = t := Option.some.inj ht
    exact ⟨List.forall_mem_nil _, rfl, fun c hc => absurd hc List.not_mem_nil⟩
  | cons p ps ih =>
    intro t ht
    obtain ⟨a, b, ha, hb, rfl⟩ := textIn_cons_eq_some ht
    obtain ⟨hwhole, htext, hinert⟩ := bitsIn_spec hm ha
    obtain ⟨hwholes, htexts, hinerts⟩ := ih hb
    rw [List.flatMap_cons, List.flatMap_append]
    refine ⟨fun c hc => (List.mem_append.mp hc).elim (hwhole c) (hwholes c), ?_,
      hinert.append hinerts⟩
    rw [plainText, List.map_append, ← htext, ← htexts]
    rfl

/-- A word that stands for a text comes to the text, and to nothing else. -/
theorem yields_fieldsOf (go : Perform) {w : Word} {t : Bytes} (hm : Knows values m)
    (hw : textIn values w.parts = some t) (ht : t ≠ []) : Yields m (fieldsOf go w) [t] := by
  have hvalue : ∀ p ∈ w.parts, p.valueIn? values ≠ none := by
    obtain ⟨as, has, -⟩ := Option.map_eq_some_iff.mp hw
    exact fun p hp => ne_none_of_mapM has hp
  have hnot {c : Char} (hc : isActive c = true) : Part.char false c ∉ w.parts :=
    not_mem_of_textIn hw hc
  obtain ⟨hwhole, htext, hinert⟩ := bitsIn_flatMap_spec hm hw
  have hbits : Yields m (partsBits go {} maxNesting (tildeParts m w.parts))
      (w.parts.flatMap (Part.bitsIn values)) := by
    -- tildes and braces are active, so the word has none that is unquoted
    rw [tildeParts_eq_self (hnot (by decide))]
    refine yields_bitsInTurn hvalue fun p hp => ?_
    obtain ⟨a, ha⟩ := Option.ne_none_iff_exists'.mp (hvalue p hp)
    -- a part takes three of the levels of nesting that are allowed
    exact yields_partBits go {} 996 hm ha
  have hne : w.parts.flatMap (Part.bitsIn values) ≠ [] := by
    intro h
    rw [h] at htext
    exact ht htext.symm
  have hbraces : (if m.has "braceexpand" = true then w.braces else [w]) = [w] := by
    rw [braces_eq_singleton (hnot (by decide)), ite_self]
  rw [fieldsOf]
  refine (yields_get m).bind ?_
  rw [hbraces]
  refine Yields.bind (x := [[t]]) (yields_mapM (g := fun _ => [t]) fun v hv => ?_) (yields_pure m _)
  obtain rfl := List.mem_singleton.mp hv
  refine (yields_get m).bind (hbits.bind ((yields_get m).bind ?_))
  rw [splitBits_none hwhole hne, ← htext]
  refine (yields_mapM (g := fun p => [plainText p]) fun p hp => ?_).bind (yields_pure m _)
  obtain rfl := List.mem_singleton.mp hp
  exact yields_filesOrText hm.choices hinert

/-- Words that stand for texts come to one field each. -/
theorem yields_allFields (go : Perform) {ws : List Word} (hm : Knows values m) :
    ∀ {ts : List Bytes}, textsIn values ws = some ts → (∀ t ∈ ts, t ≠ []) →
      Yields m (allFields go ws) ts := by
  have hfields : ∀ {ts : List Bytes}, textsIn values ws = some ts → (∀ t ∈ ts, t ≠ []) →
      Yields m (ws.mapM (fieldsOf go)) (ts.map fun t => [t]) := by
    induction ws with
    | nil =>
      intro ts hws _
      obtain rfl : [] = ts := Option.some.inj hws
      exact yields_pure m []
    | cons w ws ih =>
      intro ts hws hts
      obtain ⟨t, us, hw, hus, rfl⟩ := textsIn_cons_eq_some hws
      rw [List.mapM_cons]
      exact (yields_fieldsOf go hm hw (hts t List.mem_cons_self)).bind
        ((ih hus fun u hu => hts u (List.mem_cons_of_mem t hu)).bind (yields_pure m _))
  intro ts hws hts
  have hflat : (ts.map fun t => [t]).flatten = ts := by
    rw [← List.flatMap_def, ← List.map_eq_flatMap, List.map_id']
  refine (hfields hws hts).bind ?_
  rw [hflat]
  exact yields_pure m ts

end Values

end JobLauncher.Shell
