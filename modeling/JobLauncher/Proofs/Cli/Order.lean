import JobLauncher.Proofs.Cli.Precedence
import JobLauncher.Proofs.Job.Edits

/-!
# The order of options

Options are set one after another, on a draft and on the command line alike, and each of them may
be set again. In which order that is done does not matter. What counts is the last that is said of
an option, and of a variable the last value for its name. The variables end up in the order of the
bytes of their names, wherever they were said.

> `last_edits_count`: sequences of edits that end alike come to the same configuration and the same
> document.
-/

namespace JobLauncher.Cli

open Job (Draft Edit Slot SameLast ListsVariables)

/-! ## Variables on the command line -/

/-- The key has this value, and it is not given another one later. -/
def LastValue (pairs : List (String × String)) (key value : String) : Prop :=
  IsLastFor Prod.fst (key, value) pairs

/-- The edits that set variables. -/
def variableEdits (pairs : List (String × String)) : List Edit :=
  pairs.map fun p => .envVar p.1 p.2

variable {pairs pairs' : List (String × String)} {key value : String} {e : Edit}

/-- The last edits of variables are those that set their last values. -/
theorem isLast_variableEdits_iff : e.IsLast (variableEdits pairs) ↔
    ∃ key value, Edit.envVar key value = e ∧ LastValue pairs key value := by
  have hkeys : ∀ p ∈ pairs, ∀ q ∈ pairs,
      ((Edit.envVar p.1 p.2).slot = (Edit.envVar q.1 q.2).slot ↔ p.1 = q.1) :=
    fun _ _ _ _ => ⟨Slot.envVar.inj, congrArg Slot.envVar⟩
  simp only [Edit.IsLast, variableEdits, IsLastFor.map_iff, IsLastFor.congr_key hkeys, Prod.exists,
    LastValue]

/-- Variables with the same last values end alike. -/
theorem sameLast_of_lastValue
    (h : ∀ key value, LastValue pairs key value ↔ LastValue pairs' key value) :
    SameLast (variableEdits pairs) (variableEdits pairs') := by
  intro e
  simp only [isLast_variableEdits_iff, h]

/-- The order of different variables does not matter to their values. -/
theorem lastValue_of_perm (hperm : pairs.Perm pairs') (h : (pairs.map Prod.fst).Nodup) :
    LastValue pairs key value ↔ LastValue pairs' key value := IsLastFor.iff_of_perm hperm h

namespace JobArgs

variable {args : JobArgs} {v : Variant} {env : List (String × String)}

/-- The variables are set last, on the draft of the other options. -/
theorem draft_eq_applyAll (args : JobArgs) (v : Variant) :
    args.draft v = ({ args with env := [] }.draft v).applyAll (variableEdits args.env) := by
  have hedits : args.edits v = { args with env := [] }.edits v ++ variableEdits args.env := by
    simp only [edits, List.map_nil, List.append_nil]
    rfl
  rw [draft, hedits, Draft.applyAll_append]
  rfl

/-- No other option sets a variable. -/
theorem get?_envVars_draft :
    (args.draft v).envVars.get? key = some value ↔ LastValue args.env key value := by
  have hother (value : String) : Edit.envVar key value ∉ { args with env := [] }.edits v := by
    simp [edits]
  -- so what the variables are set on has none yet
  have hbefore : ({ args with env := [] }.draft v).envVars.get? key ≠ some value := by
    intro hset
    rcases (Job.get?_envVars_applyAll _ _).mp hset with hlast | ⟨-, hempty⟩
    · exact hother value hlast.mem
    · cases hempty
  rw [draft_eq_applyAll, Job.get?_envVars_applyAll, Draft.SetsLast, isLast_variableEdits_iff]
  constructor
  · rintro (⟨key', value', heq, hlast⟩ | ⟨-, hset⟩)
    · cases heq
      exact hlast
    · exact absurd hset hbefore
  · intro hlast
    exact .inl ⟨key, value, rfl, hlast⟩

/-- Variables with the same last values make no difference to the job that is described. -/
theorem draft_congr (h : ∀ key value, LastValue env key value ↔ LastValue args.env key value) :
    { args with env }.draft v = args.draft v := by
  rw [draft_eq_applyAll, draft_eq_applyAll args]
  exact (sameLast_of_lastValue h).applyAll_eq _

/-- What the variables on a command line come to, for a job of a variant. -/
structure LastVariablesCount (args : JobArgs) (v : Variant) : Prop where
  /-- Variables with different names may be given in any order. -/
  anyOrder : ∀ env, env.Perm args.env → (args.env.map Prod.fst).Nodup → ∀ settings,
    ({ args with env }.draft v).build settings = (args.draft v).build settings
  /-- Where some are given again, it is the last values that matter, -/
  lastValues : ∀ env, (∀ key value, LastValue env key value ↔ LastValue args.env key value) →
    ∀ settings, ({ args with env }.draft v).build settings = (args.draft v).build settings
  /-- and these are the values of the job. -/
  values : ∀ settings c, (args.draft v).build settings = .ok c → ∀ key value,
    c.envVars.get? key = some value ↔ LastValue args.env key value

/-- The last value of each variable counts. -/
theorem lastVariablesCount (args : JobArgs) (v : Variant) : args.LastVariablesCount v where
  anyOrder env hperm hnodup settings := by
    rw [draft_congr fun key value => (lastValue_of_perm hperm.symm hnodup).symm]
  lastValues env h settings := by rw [draft_congr h]
  values settings c hbuild key value := by
    rw [Job.envVars_of_build hbuild]
    exact get?_envVars_draft

end JobArgs

/-! ## Last edits -/

/-- Two sequences of edits do the same to every draft exactly if an edit that is the last for its
option, or for its variable, in one of them is so in the other. It is enough that one is the other
in another order, if nothing is set twice. Then they come to the same configuration, or the same
error, and to the same document. In it the variables of the job are in the order of the bytes of
their names, each with its last value. On the command line, too, the order of variables makes no
difference, except that of several values for one name. -/
theorem last_edits_count :
    (∀ edits edits' : List Edit,
      SameLast edits edits' ↔ ∀ d : Draft, d.applyAll edits = d.applyAll edits') ∧
    (∀ edits edits' : List Edit, edits.Perm edits' → (edits.map Edit.slot).Nodup →
      SameLast edits edits') ∧
    (∀ (d : Draft) (edits edits' : List Edit) (settings : Settings.Source), SameLast edits edits' →
      (d.applyAll edits).build settings = (d.applyAll edits').build settings
      ∧ (d.applyAll edits).document settings = (d.applyAll edits').document settings) ∧
    (∀ (d : Draft) (edits : List Edit) (settings : Settings.Source) (c : Job.Config) (v : Variant),
      (d.applyAll edits).build settings = .ok c → c.variant = some v →
        ∃ doc, (d.applyAll edits).document settings = .ok doc
          ∧ ListsVariables doc v (d.SetsLast edits)) ∧
    (∀ (args : JobArgs) (v : Variant), args.LastVariablesCount v) := by
  refine ⟨fun edits edits' => Job.sameLast_iff, fun edits edits' => SameLast.of_perm,
    fun d edits edits' settings h => ?same,
    fun d edits settings c v hbuild hv => ?listed, JobArgs.lastVariablesCount⟩
  case same =>
    rw [h.applyAll_eq d]
    exact ⟨rfl, rfl⟩
  case listed =>
    have hset : (fun key value => (d.applyAll edits).envVars.get? key = some value)
        = d.SetsLast edits := by
      funext key value
      exact propext (Job.get?_envVars_applyAll d edits)
    rw [← hset]
    exact Job.exists_listsVariables hbuild hv

/-- A job that is said straight on. -/
def plainEdits : List Edit :=
  [.project "mine", .zone "there", .variant (.gpu {}), .bundler (.docker "image"),
    .accelerator ⟨"gpu-a3-highgpu-8g", 2⟩, .envVar "LEVEL" "debug", .envVar "SEED" "7"]

/-- The same job, said the other way round and with second thoughts. -/
def revisedEdits : List Edit :=
  [.envVar "SEED" "1", .bundler (.archive "gs://bucket/code"), .envVar "SEED" "7",
    .envVar "LEVEL" "debug", .accelerator ⟨"gpu-a3-highgpu-8g", 2⟩, .bundler (.docker "image"),
    .variant (.tpu {}), .variant (.gpu {}), .zone "there", .project "mine"]

/-- A job whose options were revised is the job that was meant in the end. -/
theorem last_edits_count_revised :
    SameLast plainEdits revisedEdits
    ∧ ∃ c doc, (({ name := "train" } : Draft).applyAll plainEdits).build (fun _ => none) = .ok c
      ∧ (({ name := "train" } : Draft).applyAll revisedEdits).build (fun _ => none) = .ok c
      ∧ (({ name := "train" } : Draft).applyAll plainEdits).document (fun _ => none) = .ok doc
      ∧ (({ name := "train" } : Draft).applyAll revisedEdits).document (fun _ => none) = .ok doc
      ∧ ListsVariables doc (.gpu {}) (Draft.SetsLast { name := "train" } plainEdits) := by
  have hlast : SameLast plainEdits revisedEdits := by decide
  have hbuild : (({ name := "train" } : Draft).applyAll plainEdits).build (fun _ => none)
      = .ok ((({ name := "train" } : Draft).applyAll plainEdits).fill (fun _ => none) "mine"
        "there") := rfl
  obtain ⟨-, -, hsame, hlisted, -⟩ := last_edits_count
  obtain ⟨hbuilds, hdocuments⟩ := hsame { name := "train" } _ _ (fun _ => none) hlast
  obtain ⟨doc, hdoc, hvars⟩ := hlisted _ _ _ _ _ hbuild rfl
  exact ⟨hlast, _, doc, hbuild, hbuilds.symm.trans hbuild, hdoc, hdocuments.symm.trans hdoc, hvars⟩

end JobLauncher.Cli
