import JobLauncher.Cli.Run
import JobLauncher.Proofs.Cli.Launch
import JobLauncher.Proofs.Job.Validity
import JobLauncher.Proofs.Settings.Loading
import JobLauncher.Settings.FileTree

/-!
# Which value counts

The project, the zone, the environment and the account of a job can each come from the command line,
from the section of the environment or from the default section. Three parts of the program have a
say in that: the environment is handed to the settings, the settings choose a section for each key,
and the draft falls back on what the settings give. Here the choice is told once, as a relation
between the sections, the flag and the value (`Chosen`), and what the three parts do together is
that choice for every key, with one environment for all of them (`Resolves`).

> `settings_precedence`: a job is configured as if all that is found in the text of the settings file
> had been said on the command line. So it is in the project and the zone that were found, and it
> carries the environment in whose section they were looked up.
-/

namespace JobLauncher

/-! ## The choice -/

namespace Settings

/-- A section is there and has a value for the key. -/
def Gives (sections : Dict (Dict String)) (name key value : String) : Prop :=
  ∃ values, sections.get? name = some values ∧ values.get? key = some value

/-- The value of a key in the sections of a settings file, under an environment and beside a flag:
the flag, else what the section of the environment says, else what the default section says. -/
inductive Chosen (sections : Dict (Dict String)) (env : Option String) (key : String) :
    (flag value : Option String) → Prop
  | flag {value : String} : Chosen sections env key (some value) (some value)
  | environment {name value : String} (henv : env = some name)
      (hgives : Gives sections name key value) : Chosen sections env key none (some value)
  | fallback {value : String} (hsilent : ∀ name v, env = some name → ¬Gives sections name key v)
      (hgives : Gives sections "default" key value) : Chosen sections env key none (some value)
  | nowhere (hsilent : ∀ name v, env = some name → ¬Gives sections name key v)
      (hdefault : ∀ v, ¬Gives sections "default" key v) : Chosen sections env key none none

/-- All that can be set. The environment comes first, out of the default section alone, and the
other keys come under it. -/
structure Resolves (sections : Dict (Dict String)) (said found : Fixed) : Prop where
  envId : Chosen sections none "env_id" said.envId found.envId
  project : Chosen sections found.envId "project" said.project found.project
  zone : Chosen sections found.envId "zone" said.zone found.zone
  serviceAccount :
    Chosen sections found.envId "k8s_service_account" said.serviceAccount found.serviceAccount

/-! ## The choice as it is computed -/

/-- What a section says about a key. -/
def said? (sections : Dict (Dict String)) (name key : String) : Option String :=
  (sections.get? name).bind fun values => values.get? key

/-- The value that is chosen. -/
def choose (sections : Dict (Dict String)) (env : Option String) (key : String)
    (flag : Option String) : Option String :=
  (flag.or (env.bind fun name => said? sections name key)).or (said? sections "default" key)

/-- All that is found. -/
def resolve (sections : Dict (Dict String)) (said : Fixed) : Fixed :=
  let env := choose sections none "env_id" said.envId
  { project := choose sections env "project" said.project
    zone := choose sections env "zone" said.zone
    envId := env
    serviceAccount := choose sections env "k8s_service_account" said.serviceAccount }

variable {sections : Dict (Dict String)} {env : Option String} {key name v : String}
  {flag value : Option String} {said found : Fixed}

/-- A section gives what is said in it. -/
theorem gives_iff : Gives sections name key v ↔ said? sections name key = some v :=
  Option.bind_eq_some_iff.symm

theorem silent_iff : (∀ v, ¬Gives sections name key v) ↔ said? sections name key = none := by
  simp only [gives_iff, Option.eq_none_iff_forall_ne_some, ne_eq]

/-- The section of an environment is silent too where no environment is chosen. -/
theorem environment_silent_iff : (∀ name v, env = some name → ¬Gives sections name key v) ↔
    (env.bind fun name => said? sections name key) = none := by
  rw [Option.bind_eq_none_iff]
  constructor
  · intro h name henv
    exact silent_iff.mp fun v => h name v henv
  · intro h name v henv
    exact silent_iff.mpr (h name henv) v

/-- What is chosen is what is computed. -/
theorem Chosen.eq_choose (h : Chosen sections env key flag value) :
    value = choose sections env key flag := by
  cases h with
  | flag => rfl
  | environment henv hgives =>
    rw [choose, henv, Option.none_or, Option.bind_some, gives_iff.mp hgives, Option.some_or]
  | fallback hsilent hgives =>
    rw [choose, environment_silent_iff.mp hsilent, gives_iff.mp hgives]
    rfl
  | nowhere hsilent hdefault =>
    rw [choose, environment_silent_iff.mp hsilent, silent_iff.mp hdefault]
    rfl

/-- What is computed is chosen. -/
theorem chosen_choose : Chosen sections env key flag (choose sections env key flag) := by
  cases flag with
  | some value => exact .flag
  | none =>
    cases henvironment : env.bind fun name => said? sections name key with
    | some value =>
      obtain ⟨name, henv, hsaid⟩ := Option.bind_eq_some_iff.mp henvironment
      rw [choose, henvironment]
      exact .environment henv (gives_iff.mpr hsaid)
    | none =>
      have hsilent := environment_silent_iff.mpr henvironment
      cases hdefault : said? sections "default" key with
      | some value =>
        rw [choose, henvironment, hdefault]
        exact .fallback hsilent (gives_iff.mpr hdefault)
      | none =>
        rw [choose, henvironment, hdefault]
        exact .nowhere hsilent (silent_iff.mpr hdefault)

/-- So exactly one of all choices is made. -/
theorem resolves_iff : Resolves sections said found ↔ found = resolve sections said := by
  constructor
  · intro h
    have henv := h.envId.eq_choose
    have hproject := h.project.eq_choose
    have hzone := h.zone.eq_choose
    have haccount := h.serviceAccount.eq_choose
    rw [henv] at hproject hzone haccount
    cases found
    simp only at henv hproject hzone haccount
    rw [henv, hproject, hzone, haccount, resolve]
  · rintro rfl
    exact ⟨chosen_choose, chosen_choose, chosen_choose, chosen_choose⟩

/-! ## What the settings give -/

/-- The settings read under the environment that a flag names give what is found for every key that
has no flag. -/
theorem Fixed.or_get? (said : Fixed) (sections : Dict (Dict String)) (key : Key) :
    (said.get? key).or (File.get? ⟨sections, said.envId⟩ key)
      = (resolve sections said).get? key := by
  have henv : File.activeEnv? ⟨sections, said.envId⟩ = (resolve sections said).envId := by
    show said.envId.or _ = (said.envId.or none).or _
    rw [Option.or_none]
    rfl
  cases key with
  | envId =>
    show said.envId.or (File.activeEnv? _) = (resolve sections said).envId
    rw [← henv, File.activeEnv?, ← Option.or_assoc, Option.or_self]
  | _ =>
    simp only [File.get?, henv]
    exact (Option.or_assoc ..).symm

end Settings

/-! ## What a draft says -/

namespace Job.Draft

open Settings (Fixed)

variable {d : Draft}

/-- What a draft says of what can be set. -/
def said (d : Draft) : Fixed := ⟨d.project, d.zone, d.envId, d.serviceAccount⟩

/-- The draft that says all of this itself. Only a job for the cluster takes the account of its pods
from there. -/
def saying (d : Draft) (r : Fixed) : Draft :=
  { d with
    project := r.project
    zone := r.zone
    envId := r.envId
    serviceAccount := if d.variant.isSome then r.serviceAccount else d.serviceAccount }

theorem applyAll_append (edits edits' : List Edit) :
    d.applyAll (edits ++ edits') = (d.applyAll edits).applyAll edits' := List.foldl_append

/-- Changes of something else leave alone what can be set. -/
theorem said_applyAll_map {α : Type} (l : List α) (edit : α → Edit)
    (h : ∀ a d, (apply d (edit a)).said = d.said) : (d.applyAll (l.map edit)).said = d.said := by
  induction l generalizing d with
  | nil => rfl
  | cons a rest ih => exact ih.trans (h a d)

/-- An option that is about something else leaves alone what can be set. -/
theorem said_applyAll_option {α : Type} (o : Option α) (edit : α → Edit)
    (h : ∀ a d, (apply d (edit a)).said = d.said) :
    (d.applyAll (o.map edit).toList).said = d.said := by
  cases o with
  | none => rfl
  | some a => exact h a d

/-- Pods run as the same account, whether it is said or comes from the settings. -/
theorem podAccount_saying {settings : Settings.Source} {r : Fixed}
    (haccount : d.serviceAccount.or (settings .serviceAccount) = r.serviceAccount) :
    (d.saying r).podAccount (fun _ => none) = d.podAccount settings := by
  simp only [podAccount, saying]
  cases d.variant with
  | none => rfl
  | some v => simp only [Option.isSome_some, if_true, Option.or_none, haccount]

/-- Whether the settings give a value or the draft has it makes no difference, neither to the job
nor to what is wrong with it. -/
theorem build_saying {settings : Settings.Source} {r : Fixed}
    (h : ∀ key, (d.said.get? key).or (settings key) = r.get? key) :
    (d.saying r).build (fun _ => none) = d.build settings := by
  have hproject : (d.saying r).project.or none = d.project.or (settings .project) :=
    Option.or_none.trans (h .project).symm
  have hzone : (d.saying r).zone.or none = d.zone.or (settings .zone) :=
    Option.or_none.trans (h .zone).symm
  have henv : (d.saying r).envId.or none = d.envId.or (settings .envId) :=
    Option.or_none.trans (h .envId).symm
  have haccount : (d.saying r).podAccount (fun _ => none) = d.podAccount settings :=
    podAccount_saying (h .serviceAccount)
  have hfill (project zone : String) :
      (d.saying r).fill (fun _ => none) project zone = d.fill settings project zone := by
    simp only [fill, henv, haccount]
    rfl
  have hcheck : (d.saying r).check (fun _ => none) = d.check settings := by
    unfold check
    rw [← hproject, ← hzone]
    simp only [hfill]
    rfl
  rw [build, hcheck]
  rfl

end Job.Draft

namespace Cli

open Settings (Fixed Resolves resolve Gives)

/-! ## What a command line says -/

/-- What a command line says about a job of either kind. -/
inductive JobFlags where
  | jobSet (args : JobArgs) (v : Variant)
  | machine (args : MachineArgs)

namespace JobFlags

/-- The job as it is described. -/
def draft : JobFlags → Job.Draft
  | .jobSet args v => args.draft v
  | .machine args => args.draft

/-- The flags of what can be set. A command on a machine runs in no pod and has none for its
account. -/
def said : JobFlags → Fixed
  | .jobSet args _ => ⟨args.project, args.zone, args.envId, args.serviceAccount⟩
  | .machine args => ⟨args.project, args.zone, args.envId, none⟩

/-- The account that pods run as. -/
def podAccount (found : Fixed) : JobFlags → Option String
  | .jobSet .. => some (found.serviceAccount.getD "default")
  | .machine _ => none

/-- A draft says of what can be set what the command line says of it. -/
theorem said_draft (flags : JobFlags) : flags.draft.said = flags.said := by
  cases flags with
  | jobSet args v =>
    obtain ⟨name, command, project, zone, envId, serviceAccount⟩ := args
    simp only [draft, JobArgs.draft, JobArgs.edits, Job.Draft.applyAll_append]
    -- the variables and the options from the output directory back to the account to act as are
    -- about something else
    rw [Job.Draft.said_applyAll_map _ _ fun _ _ => rfl,
      Job.Draft.said_applyAll_option _ _ fun _ _ => rfl,
      Job.Draft.said_applyAll_option _ _ fun _ _ => rfl,
      Job.Draft.said_applyAll_option _ _ fun _ _ => rfl,
      Job.Draft.said_applyAll_option _ _ fun _ _ => rfl]
    cases project <;> cases zone <;> cases envId <;> cases serviceAccount <;> rfl
  | machine args =>
    obtain ⟨name, command, project, zone, envId⟩ := args
    cases project <;> cases zone <;> cases envId <;> rfl

end JobFlags

/-! ## Configuring a job -/

/-- The job that a command line describes, under the sections of a settings file. -/
def configuration (sections : Dict (Dict String)) (flags : JobFlags) : Except Error Job.Config :=
  (flags.draft.build (Settings.File.get? ⟨sections, flags.said.envId⟩)).mapError .job

/-- What becomes of a job under what was found: the job is as if all of it had been said and there
were no settings. So it carries what was found, and there is no job without a project or a zone.
Apart from these it depends on the flags alone whether there is one. -/
structure Configured (sections : Dict (Dict String)) (flags : JobFlags) (found : Fixed) : Prop where
  spelledOut : configuration sections flags
    = ((flags.draft.saying found).build fun _ => none).mapError .job
  built : ∀ c, configuration sections flags = .ok c →
    c.envId = found.envId ∧ found.project = some c.project ∧ found.zone = some c.zone
      ∧ c.serviceAccount = flags.podAccount found
  refused : found.project = none ∨ found.zone = none → ∃ message,
    configuration sections flags = .error (.job (.config flags.draft.errorName message))
  builds : (∃ c, configuration sections flags = .ok c) ↔
    found.project ≠ none ∧ found.zone ≠ none ∧ flags.draft.name ≠ "" ∧ flags.draft.maxTries ≠ 0
      ∧ Job.Placed flags.draft.name flags.draft.bundler flags.draft.accelerator flags.draft.variant

variable {sections sections' : Dict (Dict String)} {flags : JobFlags}

/-- To be configured under settings is to be configured as if all that is found had been said. -/
theorem configuration_eq : configuration sections flags
    = ((flags.draft.saying (resolve sections flags.said)).build fun _ => none).mapError .job := by
  rw [configuration, ← flags.said_draft, Job.Draft.build_saying (Fixed.or_get? _ _)]

/-- What pods run as is what was found for a job of the cluster. -/
theorem podAccount_saying_draft (found : Fixed) :
    (flags.draft.saying found).podAccount (fun _ => none) = flags.podAccount found := by
  cases flags with
  | jobSet args v =>
    simp only [Job.Draft.podAccount, Job.Draft.saying, JobFlags.draft, args.variant_draft v,
      Option.isSome_some, if_true, Option.or_none]
    rfl
  | machine args =>
    obtain ⟨name, command, project, zone, envId⟩ := args
    cases project <;> cases zone <;> cases envId <;> rfl

/-- A configuration is a draft that passes its checks. -/
theorem configuration_eq_ok_iff {c : Job.Config} : configuration sections flags = .ok c ↔
    (flags.draft.saying (resolve sections flags.said)).check (fun _ => none) = .ok c := by
  rw [configuration_eq, Except.mapError_eq_ok, Job.Draft.build_eq_ok_iff]

/-- A job is configured under what is found. -/
theorem configured : Configured sections flags (resolve sections flags.said) where
  spelledOut := configuration_eq
  built := by
    intro c hc
    -- the draft says all that is found, so there is nothing for the settings to add
    obtain ⟨-, -, project, zone, hproject, hzone, -, rfl⟩ :=
      Job.Draft.check_eq_ok_iff.mp (configuration_eq_ok_iff.mp hc)
    rw [Option.or_none] at hproject hzone
    exact ⟨Option.or_none, hproject, hzone, podAccount_saying_draft _⟩
  builds := by
    simp only [configuration_eq_ok_iff, Job.Draft.check_eq_ok_iff, Job.Draft.checkPlace_eq_ok_iff,
      Option.or_none, Option.ne_none_iff_exists']
    constructor
    · rintro ⟨c, hname, htries, project, zone, hproject, hzone, hplace, -⟩
      exact ⟨⟨project, hproject⟩, ⟨zone, hzone⟩, hname, htries, hplace⟩
    · rintro ⟨⟨project, hproject⟩, ⟨zone, hzone⟩, hname, htries, hplace⟩
      exact ⟨_, hname, htries, project, zone, hproject, hzone, hplace, rfl⟩
  refused := by
    intro hmissing
    rw [configuration_eq]
    cases hcheck : (flags.draft.saying (resolve sections flags.said)).check fun _ => none with
    | error f =>
      refine ⟨f.message flags.draft.name, ?_⟩
      rw [Job.Draft.build, hcheck]
      rfl
    | ok c =>
      obtain ⟨-, -, project, zone, hproject, hzone, -, -⟩ := Job.Draft.check_eq_ok_iff.mp hcheck
      rw [Option.or_none] at hproject hzone
      rcases hmissing with hnone | hnone
      · cases hproject.symm.trans hnone
      · cases hzone.symm.trans hnone

/-- Sections that differ only in what they say of an environment, the default one apart, come to the
same. -/
theorem resolve_congr {said : Fixed} (h : ∀ name key value, name = "default" ∨ key ≠ "env_id" →
    (Gives sections name key value ↔ Gives sections' name key value)) :
    resolve sections said = resolve sections' said := by
  have hsaid {name key : String} (hkey : name = "default" ∨ key ≠ "env_id") :
      Settings.said? sections name key = Settings.said? sections' name key := by
    refine Option.ext fun value => ?_
    rw [← Settings.gives_iff, ← Settings.gives_iff, h name key value hkey]
  have henv : Settings.choose sections none "env_id" said.envId
      = Settings.choose sections' none "env_id" said.envId := by
    simp only [Settings.choose, Option.bind_none, hsaid (.inl rfl)]
  have hkey (env : Option String) (key : String) (flag : Option String) (hne : key ≠ "env_id") :
      Settings.choose sections env key flag = Settings.choose sections' env key flag := by
    simp only [Settings.choose, hsaid (.inr hne)]
  simp only [resolve, henv, hkey _ "project" _ (by decide), hkey _ "zone" _ (by decide),
    hkey _ "k8s_service_account" _ (by decide)]

/-! ## Commands that configure a job -/

/-- What an action says about a job that it configures. -/
def Action.flags? : Action → Option JobFlags
  | .launch args v | .build args v _ _ => some (.jobSet args v)
  | .machine args => some (.machine args)
  | .delete _ | .container _ => none

/-- The job of an action, under the settings file that is loaded. -/
def configured? (env : Settings.Environment) (file : Option String) (flags : JobFlags)
    {σ : Type} (answer : (step : Step) → σ → step.Answer × σ) (s : σ) : Except Error Job.Config :=
  ((loadSettings env file none).run answer s).1.bind fun f => configuration f.sections flags

/-- An action that comes to the configured job and nothing else of settings and flags: it fails if
there is none, and goes on with it otherwise. -/
structure Configures (a : Action) (flags : JobFlags) (next : Job.Config → Session Outcome) :
    Prop where
  refused : ∀ {σ : Type} (env : Settings.Environment) (file : Option String)
    (answer : (step : Step) → σ → step.Answer × σ) (s : σ) (e : Error),
    configured? env file flags answer s = .error e →
      ((a.run env file).run answer s).1 = .error e
  accepted : ∀ {σ : Type} (env : Settings.Environment) (file : Option String)
    (answer : (step : Step) → σ → step.Answer × σ) (s : σ) (c : Job.Config),
    configured? env file flags answer s = .ok c →
      ((a.run env file).run answer s).1
        = ((next c).run answer ((loadSettings env file none).run answer s).2).1

section

variable {σ : Type} {env : Settings.Environment} {file : Option String}
  {answer : (step : Step) → σ → step.Answer × σ} {s : σ}

/-- The environment decides nothing about which file is loaded. -/
theorem loadSettings_eq (env : Settings.Environment) (file envId : Option String) :
    loadSettings env file envId
      = (loadSettings env file none).bind fun r => .done (r.map fun f => f.forEnv envId) := by
  simp only [loadSettings]
  cases (Settings.Location.of env file).path? with
  | none =>
    show _ = Program.done _
    cases (Settings.Location.of env file).load (.missing "") <;> rfl
  | some path =>
    refine congrArg (Program.ask (Step.readFile path)) (funext fun r => ?_)
    show _ = Program.done _
    cases (Settings.Location.of env file).load r <;> rfl

/-- Commands configure a job from the sections that are loaded and from their flags. -/
theorem run_configure :
    (configure env file flags.said.envId flags.draft).run answer s
      = (configured? env file flags answer s, ((loadSettings env file none).run answer s).2) := by
  rw [configure, loadSettings_eq, Program.bind_assoc, Program.run_bind, configured?]
  cases ((loadSettings env file none).run answer s).1 with
  | error e => rfl
  | ok f => rfl

/-- What was read for another environment has the same sections. -/
theorem map_sections_forEnv (loaded : Except Settings.LoadError Settings.File)
    (envId : Option String) :
    Except.map Settings.File.sections (match loaded with
        | .error e => Except.error (Error.settings e)
        | .ok f => Except.ok (f.forEnv envId))
      = (loaded.map Settings.File.sections).mapError .settings := by
  cases loaded <;> rfl

/-- The sections that are loaded are those that are found in the file that is read. -/
theorem map_sections_loadSettings {loaded : Except Settings.LoadError (Dict (Dict String))}
    (h : Settings.Finds env file (fun path => (answer (.readFile path) s).1) loaded) :
    ((loadSettings env file none).run answer s).1.map Settings.File.sections
      = loaded.mapError .settings := by
  rw [h.eq_load, Settings.Location.reading]
  cases hpath : (Settings.Location.of env file).path? with
  | none =>
    simp only [loadSettings, hpath]
    exact map_sections_forEnv _ none
  | some path =>
    simp only [loadSettings, hpath]
    exact map_sections_forEnv _ none

/-- A job is configured under the sections that are found. -/
theorem configured?_of_finds {loaded : Except Settings.LoadError (Dict (Dict String))}
    (h : Settings.Finds env file (fun path => (answer (.readFile path) s).1) loaded)
    (flags : JobFlags) : configured? env file flags answer s
      = (loaded.mapError .settings).bind fun sections => configuration sections flags := by
  rw [← map_sections_loadSettings h, configured?]
  cases ((loadSettings env file none).run answer s).1 <;> rfl

end

/-- Every command that describes a job configures it first and goes on with what comes of it. -/
theorem exists_configures {a : Action} (h : a.flags? = some flags) :
    ∃ next, Configures a flags next := by
  suffices hnext : ∃ next, ∀ env file,
      a.run env file = andThen (configure env file flags.said.envId flags.draft) next by
    obtain ⟨next, hrun⟩ := hnext
    refine ⟨next, fun env file answer s e he => ?refused, fun env file answer s c hc => ?accepted⟩
    case refused =>
      rw [hrun]
      exact (andThen_of_error ((congrArg Prod.fst run_configure).trans he) next).1
    case accepted =>
      have hconfigure : (configure env file flags.said.envId flags.draft).run answer s
          = (configured? env file flags answer s,
            ((loadSettings env file none).run answer s).2) := run_configure
      rw [hrun, (andThen_of_ok ((congrArg Prod.fst hconfigure).trans hc) next).1, hconfigure]
  cases a with
  | launch args v =>
    cases h
    exact ⟨_, fun _ _ => rfl⟩
  | build args v format version =>
    cases h
    exact ⟨_, fun _ _ => rfl⟩
  | machine args =>
    cases h
    exact ⟨_, fun _ _ => rfl⟩
  | delete target => cases h
  | container args => cases h

/-- Two jobs with the same flags for what a command on a machine can set are in the same place. -/
theorem same_of_flags_eq {args : JobArgs} {v : Variant} {machine : MachineArgs} {c c' : Job.Config}
    (hflags : args.project = machine.project ∧ args.zone = machine.zone
      ∧ args.envId = machine.envId)
    (hc : configuration sections (.jobSet args v) = .ok c)
    (hc' : configuration sections (.machine machine) = .ok c') :
    c.project = c'.project ∧ c.zone = c'.zone ∧ c.envId = c'.envId := by
  obtain ⟨hproject, hzone, henv⟩ := hflags
  obtain ⟨hfoundEnv, hfoundProject, hfoundZone, -⟩ := configured.built c hc
  obtain ⟨hfoundEnv', hfoundProject', hfoundZone', -⟩ := configured.built c' hc'
  have hsameProject : some c.project = some c'.project := by
    rw [← hfoundProject, ← hfoundProject']
    simp only [resolve, JobFlags.said, hproject, henv]
  have hsameZone : some c.zone = some c'.zone := by
    rw [← hfoundZone, ← hfoundZone']
    simp only [resolve, JobFlags.said, hzone, henv]
  have hsameEnv : c.envId = c'.envId := by
    rw [hfoundEnv, hfoundEnv']
    simp only [resolve, JobFlags.said, henv]
  exact ⟨Option.some.inj hsameProject, Option.some.inj hsameZone, hsameEnv⟩

/-- What a command that describes a job makes of its flags and of the settings file that it loads
depends on the value that counts for each key, and on nothing else of the sections: these values are
there once and for all, the job is the one that says them itself, and what a section other than the
default one says of the environment is never looked at. Jobs for the cluster and commands on a
machine come to the same values. The sections are those in the text of the file that is read: none
in a blank text, and none where the file of the home directory is missing. Any other file that is
missing is an error, and so is one that cannot be read or understood. -/
theorem settings_precedence :
    (∀ a flags, Action.flags? a = some flags → ∃ next, Configures a flags next) ∧
    (∀ {σ : Type} (env : Settings.Environment) (file : Option String) (flags : JobFlags)
      (answer : (step : Step) → σ → step.Answer × σ) (s : σ),
      ∃ loaded, (∀ other, Settings.Finds env file (fun path => (answer (.readFile path) s).1) other
          ↔ other = loaded) ∧
        configured? env file flags answer s
          = (loaded.mapError .settings).bind fun sections => configuration sections flags) ∧
    (∀ sections flags, ∃ found, Resolves sections flags.said found ∧
      (∀ other, Resolves sections flags.said other → other = found) ∧
        Configured sections flags found) ∧
    (∀ sections sections' flags,
      (∀ name key value, name = "default" ∨ key ≠ "env_id" →
        (Gives sections name key value ↔ Gives sections' name key value)) →
      configuration sections flags = configuration sections' flags) ∧
    (∀ sections (args : JobArgs) (v : Variant) (machine : MachineArgs),
      args.project = machine.project → args.zone = machine.zone → args.envId = machine.envId →
      ∀ c c', configuration sections (.jobSet args v) = .ok c →
        configuration sections (.machine machine) = .ok c' →
          c.project = c'.project ∧ c.zone = c'.zone ∧ c.envId = c'.envId) := by
  refine ⟨fun a flags => exists_configures, fun env file flags answer s => ?loaded,
    fun sections flags => ?found, fun sections sections' flags h => ?agree, ?same⟩
  case loaded =>
    exact ⟨_, fun other => Settings.finds_iff,
      configured?_of_finds (Settings.finds_load (Settings.place_of env file)) flags⟩
  case found =>
    exact ⟨resolve sections flags.said, Settings.resolves_iff.mpr rfl,
      fun other => Settings.resolves_iff.mp, configured⟩
  case agree => rw [configuration_eq, configuration_eq, resolve_congr h]
  case same =>
    intro sections args v machine hproject hzone henv c c' hc hc'
    exact same_of_flags_eq ⟨hproject, hzone, henv⟩ hc hc'

/-- Settings of two environments. -/
def twoEnvironments : String :=
  "default:\n  env_id: prod\n  project: shared\n  zone: here\n"
    ++ "prod:\n  env_id: test\n  zone: there\n  k8s_service_account: trainer\n"
    ++ "test:\n  zone: elsewhere\n"

/-- The sections as they are written. -/
def twoSections : Dict (Dict String) := Dict.ofList [
  ("default", Dict.ofList [("env_id", "prod"), ("project", "shared"), ("zone", "here")]),
  ("prod", Dict.ofList [("env_id", "test"), ("zone", "there"), ("k8s_service_account", "trainer")]),
  ("test", Dict.ofList [("zone", "elsewhere")])]

/-- They are in one home directory. -/
def twoHomes : Settings.FileTree where
  files := [(["home", "me", ".launchpad", "settings.yaml"], twoEnvironments)]

def trainCommand : JobFlags := .machine { name := "train", command := "true" }

def trainJob : JobFlags := .jobSet { trainArgs with zone := "near" } (.tpu {})

/-- The environment is that of the default section, whatever its own section says of it. The other
home has no settings, and a file that is named has to be there. -/
theorem settings_precedence_home :
    Settings.parseSections twoEnvironments = .ok twoSections
    ∧ (∀ flags, configured? { home := "/home/me" } none flags (scriptedWith twoHomes) {}
      = configuration twoSections flags)
    ∧ (configuration twoSections trainCommand).toOption.map
        (fun c => (c.envId, c.project, c.zone, c.serviceAccount))
      = some (some "prod", "shared", "there", none)
    ∧ (configuration twoSections trainJob).toOption.map
        (fun c => (c.envId, c.project, c.zone, c.serviceAccount))
      = some (some "prod", "shared", "near", some "trainer")
    ∧ configured? { home := "/home/you" } none trainCommand (scriptedWith twoHomes) {}
      = configuration Dict.empty trainCommand
    ∧ configured? { home := "/home/me" } "/etc/none.yaml" trainCommand (scriptedWith twoHomes) {}
      = .error (.settings (.notFound "/etc/none.yaml")) := by
  have hparse : Settings.parseSections twoEnvironments = .ok twoSections :=
    Except.toOption_eq_some_iff.mp (by decide +kernel)
  have hblank : Text.isBlankText twoEnvironments = false := by decide +kernel
  obtain ⟨-, hloads, -⟩ := settings_precedence
  have hconfigures (env : Settings.Environment) (file : Option String) (flags : JobFlags)
      {loaded : Except Settings.LoadError (Dict (Dict String))}
      (h : Settings.Finds env file twoHomes.read loaded) :
      configured? env file flags (scriptedWith twoHomes) {}
        = (loaded.mapError .settings).bind fun sections => configuration sections flags := by
    obtain ⟨loaded', hfinds, hconfigured⟩ := hloads env file flags (scriptedWith twoHomes) {}
    rw [hconfigured, ← (hfinds loaded).mp h]
  refine ⟨hparse, fun flags => ?home, by decide +kernel, by decide +kernel, ?other, ?named⟩
  case home =>
    have hread : twoHomes.read (Settings.homeFile "/home/me") = .text twoEnvironments := by
      decide +kernel
    exact hconfigures { home := "/home/me" } none flags
      (.text (.home (fun _ h => nomatch h) rfl) rfl hread (.written hblank hparse))
  case other =>
    have hread : twoHomes.read (Settings.homeFile "/home/you")
        = .missing "No such file or directory (os error 2)" := by
      decide +kernel
    exact hconfigures { home := "/home/you" } none trainCommand
      (.absent (.home (fun _ h => nomatch h) rfl) hread)
  case named =>
    have hread : twoHomes.read "/etc/none.yaml"
        = .missing "No such file or directory (os error 2)" := by
      decide +kernel
    exact hconfigures { home := "/home/me" } "/etc/none.yaml" trainCommand
      (.notFound (.said "/etc/none.yaml") hread)

end Cli

end JobLauncher
