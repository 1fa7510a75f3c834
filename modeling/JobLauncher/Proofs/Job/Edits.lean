import JobLauncher.Proofs.Job.Variables
import JobLauncher.Proofs.Last
import JobLauncher.Proofs.Text.ByteOrder

/-!
# The last edit counts

Every edit fills one slot of a draft, an option or a variable, and leaves the other slots alone.
What a draft holds in a slot can be read back as the edit that puts it there (`Draft.held?`), and
nothing but its name and what it holds tells one draft from another (`Draft.ext_held?`). So what one
edit does is said once for all of them (`held?_apply`), and what a sequence of edits does follows by
induction:

> `held?_applyAll`: after a sequence of edits a draft holds in each slot the last edit for it, or
> what it has held before if there is none.

Sequences with the same last edits do the same to every draft, and no others do (`sameLast_iff`).
-/

namespace JobLauncher.Job

/-! ## Slots -/

/-- What an edit fills. A variable has a slot to itself. How the code is packed is one slot, whether
an image is named or anything else, and the groups to act with are one slot all together. -/
inductive Slot where
  | command
  | project
  | zone
  | envId
  | serviceAccount
  | impersonateAccount
  | impersonateScopes
  | bundler
  | variant
  | accelerator
  | envVar (key : String)
  | ns
  | queue
  | maxTries
  | outputDir
  | preProvisioner
  deriving DecidableEq

def Edit.slot : Edit → Slot
  | .command _ => .command
  | .project _ => .project
  | .zone _ => .zone
  | .envId _ => .envId
  | .serviceAccount _ => .serviceAccount
  | .impersonateAccount _ => .impersonateAccount
  | .impersonateScopes _ => .impersonateScopes
  | .bundler _ => .bundler
  | .variant _ => .variant
  | .accelerator _ => .accelerator
  | .envVar key _ => .envVar key
  | .ns _ => .ns
  | .queue _ => .queue
  | .maxTries _ => .maxTries
  | .outputDir _ => .outputDir
  | .preProvisioner _ => .preProvisioner

/-- What a draft holds in a slot, as the edit that puts it there. -/
def Draft.held? (d : Draft) : Slot → Option Edit
  | .command => some (.command d.command)
  | .project => d.project.map .project
  | .zone => d.zone.map .zone
  | .envId => d.envId.map .envId
  | .serviceAccount => d.serviceAccount.map .serviceAccount
  | .impersonateAccount => d.impersonateAccount.map .impersonateAccount
  | .impersonateScopes => some (.impersonateScopes d.impersonateScopes)
  | .bundler => d.bundler.map .bundler
  | .variant => d.variant.map .variant
  | .accelerator => d.accelerator.map .accelerator
  | .envVar key => (d.envVars.get? key).map (.envVar key)
  | .ns => d.ns.map .ns
  | .queue => d.queue.map .queue
  | .maxTries => some (.maxTries d.maxTries)
  | .outputDir => d.outputDir.map .outputDir
  | .preProvisioner => some (.preProvisioner d.preProvisioner)

attribute [ext] Draft

variable {d d' : Draft} {e : Edit} {edits edits' : List Edit} {slot : Slot}

theorem held?_envVar_eq_some_iff {key value : String} :
    d.held? (.envVar key) = some (.envVar key value) ↔ d.envVars.get? key = some value := by
  show (d.envVars.get? key).map (Edit.envVar key) = some (.envVar key value) ↔ _
  simp

/-- A draft is its name and what it holds. -/
theorem Draft.ext_held? (hname : d.name = d'.name) (h : ∀ slot, d.held? slot = d'.held? slot) :
    d = d' := by
  have hoption {α : Type} {edit : α → Edit} {o o' : Option α} (heq : o.map edit = o'.map edit)
      (hinj : Function.Injective edit) : o = o' := Option.map_injective hinj heq
  have hvars : d.envVars = d'.envVars :=
    Dict.ext_get? fun key => hoption (h (.envVar key)) fun _ _ heq => (Edit.envVar.inj heq).2
  exact Draft.ext hname (Edit.command.inj (Option.some.inj (h .command)))
    (hoption (h .project) fun _ _ => Edit.project.inj)
    (hoption (h .zone) fun _ _ => Edit.zone.inj)
    (hoption (h .envId) fun _ _ => Edit.envId.inj)
    (hoption (h .serviceAccount) fun _ _ => Edit.serviceAccount.inj)
    (hoption (h .impersonateAccount) fun _ _ => Edit.impersonateAccount.inj)
    (Edit.impersonateScopes.inj (Option.some.inj (h .impersonateScopes)))
    (hoption (h .bundler) fun _ _ => Edit.bundler.inj)
    (hoption (h .variant) fun _ _ => Edit.variant.inj)
    (hoption (h .accelerator) fun _ _ => Edit.accelerator.inj)
    hvars
    (hoption (h .ns) fun _ _ => Edit.ns.inj)
    (hoption (h .queue) fun _ _ => Edit.queue.inj)
    (Edit.maxTries.inj (Option.some.inj (h .maxTries)))
    (hoption (h .outputDir) fun _ _ => Edit.outputDir.inj)
    (Edit.preProvisioner.inj (Option.some.inj (h .preProvisioner)))

/-! ## One edit -/

/-- No edit changes the name. -/
theorem name_apply (d : Draft) (e : Edit) : (d.apply e).name = d.name := by
  cases e with
  | _ => rfl

/-- An edit fills its own slot and no other. -/
theorem held?_apply (d : Draft) (e : Edit) (slot : Slot) :
    (d.apply e).held? slot = if e.slot = slot then some e else d.held? slot := by
  cases e with
  | envVar key value =>
    cases slot with
    -- the one place where the slots of two edits of a kind may differ
    | envVar key' =>
      show ((d.envVars.insert key value).get? key').map (Edit.envVar key')
        = if Slot.envVar key = Slot.envVar key' then _ else _
      rw [Dict.get?_insert]
      by_cases hkey : key' = key
      · rw [hkey, if_pos rfl, if_pos rfl]
        rfl
      · rw [if_neg hkey, if_neg fun heq => hkey (Slot.envVar.inj heq).symm]
        rfl
    | _ => rfl
  | _ =>
    cases slot with
    | _ => rfl

/-! ## Edits one after another -/

/-- The edit is made, and no later one fills its slot. -/
def Edit.IsLast (e : Edit) (edits : List Edit) : Prop := IsLastFor Edit.slot e edits

/-- The sequences end alike for every slot: an edit that is the last one for its slot in one of
them is so in the other. -/
def SameLast (edits edits' : List Edit) : Prop := ∀ e : Edit, e.IsLast edits ↔ e.IsLast edits'

/-- The last edit for a slot. -/
def last? (slot : Slot) (edits : List Edit) : Option Edit :=
  edits.reverse.find? fun e => e.slot = slot

/-- The last edit of a slot is the last one of the rest, else the first one. -/
theorem last?_cons (slot : Slot) (e : Edit) (rest : List Edit) :
    last? slot (e :: rest) = (last? slot rest).or (if e.slot = slot then some e else none) := by
  simp only [last?, List.reverse_cons, List.find?_append, List.find?_singleton, decide_eq_true_eq]

theorem last?_eq_none_iff : last? slot edits = none ↔ ∀ e ∈ edits, e.slot ≠ slot := by
  simp [last?]

/-- What is found is the last edit about its slot. -/
theorem last?_eq_some_iff : last? slot edits = some e ↔ e.slot = slot ∧ e.IsLast edits :=
  IsLastFor.find?_reverse_iff

/-- An edit is the last of its slot exactly if it is found there. -/
theorem Edit.isLast_iff_last? : e.IsLast edits ↔ last? e.slot edits = some e := by
  rw [last?_eq_some_iff, and_iff_right rfl]

/-- So no run of edits changes it. -/
theorem name_applyAll (d : Draft) (edits : List Edit) : (d.applyAll edits).name = d.name := by
  induction edits generalizing d with
  | nil => rfl
  | cons e rest ih => exact (ih (d.apply e)).trans (name_apply d e)

/-- After a sequence of edits each slot holds the last of them for it, or what was there before. -/
theorem held?_applyAll (d : Draft) (edits : List Edit) (slot : Slot) :
    (d.applyAll edits).held? slot = (last? slot edits).or (d.held? slot) := by
  induction edits generalizing d with
  | nil => rfl
  | cons e rest ih =>
    have hcons : d.applyAll (e :: rest) = (d.apply e).applyAll rest := rfl
    rw [hcons, ih, held?_apply, last?_cons, Option.or_assoc]
    congr 1
    split <;> rfl

/-! ## Sequences that end alike -/

/-- Two runs agree about last edits if they do so slot by slot. -/
theorem sameLast_iff_last? :
    SameLast edits edits' ↔ ∀ slot, last? slot edits = last? slot edits' := by
  constructor
  · intro h slot
    refine Option.ext fun e => ?_
    rw [last?_eq_some_iff, last?_eq_some_iff, h e]
  · intro h e
    rw [Edit.isLast_iff_last?, Edit.isLast_iff_last?, h]

/-- It is enough to compare the slots that are filled at all. -/
theorem sameLast_iff_forall_mem :
    SameLast edits edits' ↔ ∀ e ∈ edits ++ edits', last? e.slot edits = last? e.slot edits' := by
  rw [sameLast_iff_last?]
  constructor
  · intro h e _
    exact h e.slot
  · intro h slot
    by_cases hslot : ∃ e ∈ edits ++ edits', e.slot = slot
    · obtain ⟨e, he, rfl⟩ := hslot
      exact h e he
    · push Not at hslot
      obtain ⟨hedits, hedits'⟩ := List.forall_mem_append.mp hslot
      rw [last?_eq_none_iff.mpr hedits, last?_eq_none_iff.mpr hedits']

instance : Decidable (SameLast edits edits') := decidable_of_iff' _ sameLast_iff_forall_mem

/-- Sequences that end alike do the same. -/
theorem SameLast.applyAll_eq (h : SameLast edits edits') (d : Draft) :
    d.applyAll edits = d.applyAll edits' := by
  refine Draft.ext_held? ?name fun slot => ?held
  case name => rw [name_applyAll, name_applyAll]
  case held => rw [held?_applyAll, held?_applyAll, sameLast_iff_last?.mp h]

/-- There is more than one way to fill a slot. -/
theorem exists_ne_of_slot (e : Edit) : ∃ e' : Edit, e'.slot = e.slot ∧ e' ≠ e := by
  suffices hslot : ∃ e₁ e₂ : Edit, e₁.slot = e.slot ∧ e₂.slot = e.slot ∧ e₁ ≠ e₂ by
    obtain ⟨e₁, e₂, h₁, h₂, hne⟩ := hslot
    by_cases heq : e₁ = e
    · exact ⟨e₂, h₂, fun heq' => hne (heq.trans heq'.symm)⟩
    · exact ⟨e₁, h₁, heq⟩
  cases e with
  | command => exact ⟨.command "", .command "true", rfl, rfl, by simp⟩
  | project => exact ⟨.project "", .project "mine", rfl, rfl, by simp⟩
  | zone => exact ⟨.zone "", .zone "here", rfl, rfl, by simp⟩
  | envId => exact ⟨.envId "", .envId "prod", rfl, rfl, by simp⟩
  | serviceAccount => exact ⟨.serviceAccount "", .serviceAccount "trainer", rfl, rfl, by simp⟩
  | impersonateAccount =>
    exact ⟨.impersonateAccount "", .impersonateAccount "trainer", rfl, rfl, by simp⟩
  | impersonateScopes =>
    exact ⟨.impersonateScopes [], .impersonateScopes ["team"], rfl, rfl, by simp⟩
  | bundler => exact ⟨.bundler (.docker ""), .bundler (.archive ""), rfl, rfl, by simp⟩
  | variant => exact ⟨.variant (.tpu {}), .variant (.gpu {}), rfl, rfl, by simp⟩
  | accelerator => exact ⟨.accelerator ⟨"", 0⟩, .accelerator ⟨"", 1⟩, rfl, rfl, by simp⟩
  | envVar key => exact ⟨.envVar key "", .envVar key "1", rfl, rfl, by simp⟩
  | ns => exact ⟨.ns "", .ns "team", rfl, rfl, by simp⟩
  | queue => exact ⟨.queue "", .queue "team", rfl, rfl, by simp⟩
  | maxTries => exact ⟨.maxTries 0, .maxTries 1, rfl, rfl, by simp⟩
  | outputDir => exact ⟨.outputDir "", .outputDir "gs://bucket", rfl, rfl, by simp⟩
  | preProvisioner => exact ⟨.preProvisioner true, .preProvisioner false, rfl, rfl, by simp⟩

/-- A sequence that does to all drafts what another does has its last edits. -/
theorem isLast_of_applyAll_eq (h : ∀ d : Draft, d.applyAll edits = d.applyAll edits')
    (hlast : e.IsLast edits) : e.IsLast edits' := by
  -- on a draft that holds something else there, what the slot holds in the end was put there by
  -- the edits, and not by the draft
  obtain ⟨e', hslot, hne⟩ := exists_ne_of_slot e
  have hbefore : (({ name := "" } : Draft).apply e').held? e.slot = some e' := by
    rw [held?_apply, if_pos hslot]
  have hheld := congrArg (fun d : Draft => d.held? e.slot) (h (({ name := "" } : Draft).apply e'))
  simp only [held?_applyAll, hbefore, Edit.isLast_iff_last?.mp hlast, Option.some_or] at hheld
  rcases Option.or_eq_some_iff.mp hheld.symm with hsome | ⟨-, hsome⟩
  · exact Edit.isLast_iff_last?.mpr hsome
  · exact absurd (Option.some.inj hsome) hne

/-- Sequences do the same to every draft exactly if they end alike. -/
theorem sameLast_iff :
    SameLast edits edits' ↔ ∀ d : Draft, d.applyAll edits = d.applyAll edits' := by
  constructor
  · exact SameLast.applyAll_eq
  · intro h e
    exact ⟨isLast_of_applyAll_eq h, isLast_of_applyAll_eq fun d => (h d).symm⟩

/-- Edits for different slots may come in any order. -/
theorem SameLast.of_perm (hperm : edits.Perm edits') (h : (edits.map Edit.slot).Nodup) :
    SameLast edits edits' := fun _ => IsLastFor.iff_of_perm hperm h

/-! ## Variables -/

/-- The value that a variable has in the end: the last one that the edits give it, or the one that
it has in the draft if they give it none. -/
def Draft.SetsLast (d : Draft) (edits : List Edit) (key value : String) : Prop :=
  (Edit.envVar key value).IsLast edits
    ∨ (∀ other, Edit.envVar key other ∉ edits) ∧ d.envVars.get? key = some value

/-- A variable has the value that was set last, or that it had before if none was. -/
theorem get?_envVars_applyAll (d : Draft) (edits : List Edit) {key value : String} :
    (d.applyAll edits).envVars.get? key = some value ↔ d.SetsLast edits key value := by
  have hnone : last? (.envVar key) edits = none ↔ ∀ other, Edit.envVar key other ∉ edits := by
    rw [last?_eq_none_iff]
    constructor
    · intro h other hmem
      exact h _ hmem rfl
    · intro h e hmem hslot
      cases e with
      | envVar key' other =>
        cases hslot
        exact h other hmem
      | _ => cases hslot
  rw [← held?_envVar_eq_some_iff, held?_applyAll, Option.or_eq_some_iff, last?_eq_some_iff, hnone,
    held?_envVar_eq_some_iff]
  exact or_congr_left (and_iff_right rfl)

/-- The main container of the document gets the variables of the variant and then those that are
set, each with its value, in the order of the bytes of their keys. -/
def ListsVariables (doc : JobSet.Document) (v : Variant) (IsSet : String → String → Prop) : Prop :=
  ∃ main sidecars own entries, ∃ vars : List (String × String),
    doc.containers? = some (main :: sidecars)
    ∧ main.field? "env" = some (.arr (own ++ entries))
    ∧ own.map (Json.textAt? "name") = v.variables.map some
    ∧ entries = vars.map (fun x => Pod.envVar x.1 x.2)
    ∧ entries.map (fun e => (e.textAt? "name", e.textAt? "value")) = vars.map (Prod.map some some)
    ∧ vars.Pairwise (fun x y => Text.utf8 x.1 < Text.utf8 y.1)
    ∧ ∀ key value, (key, value) ∈ vars ↔ IsSet key value

variable {settings : Settings.Source} {c : Config} {v : Variant}

theorem envVars_of_build (h : d.build settings = .ok c) : c.envVars = d.envVars := by
  obtain ⟨project, zone, rfl⟩ := Draft.exists_fill_of_build h
  rfl

/-- The variables of a draft are listed in the document that it is built to. -/
theorem exists_listsVariables (hbuild : d.build settings = .ok c) (hv : c.variant = some v) :
    ∃ doc, d.document settings = .ok doc
      ∧ ListsVariables doc v fun key value => d.envVars.get? key = some value := by
  obtain ⟨job, doc, a, ctx, replicas, pods, shape, hjob, hdoc, -, hcontainers, harranged,
    hshares⟩ := exists_containers hbuild hv
  have henv := field?_env_main hshares shape.main
  rw [envVars_of_build hbuild] at henv
  refine ⟨doc, ?document, _, _, shape.main.env, _, d.envVars.toList, hcontainers, henv,
    map_name_env harranged, rfl, map_entriesFor d.envVars, d.envVars.sorted.imp Text.utf8_lt,
    fun key value => Dict.mem_toList_iff⟩
  rw [Draft.document, hbuild]
  show c.document = .ok doc
  exact Except.bind_eq_ok.mpr ⟨job, hjob, hdoc⟩

end JobLauncher.Job
