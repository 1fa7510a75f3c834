import JobLauncher.Dict

/-!
# Settings

Defaults for what a job leaves open. A settings file has sections of keys and values, one section
for each environment and one for all of them. Which environment counts is decided once, by
`File.activeEnv?`; every other key is looked up in its section first and then in the default one.
-/

namespace JobLauncher.Settings

/-- What can be set. -/
inductive Key where
  | project
  | zone
  | envId
  | serviceAccount
  deriving DecidableEq, Repr

/-- The key as a settings file writes it. -/
def Key.name : Key → String
  | .project => "project"
  | .zone => "zone"
  | .envId => "env_id"
  | .serviceAccount => "k8s_service_account"

/-- A source of defaults: the value of each key that has one. -/
abbrev Source := Key → Option String

/-- Settings given by hand. -/
structure Fixed where
  project : Option String := none
  zone : Option String := none
  envId : Option String := none
  serviceAccount : Option String := none
  deriving DecidableEq, Repr

def Fixed.get? (s : Fixed) : Source
  | .project => s.project
  | .zone => s.zone
  | .envId => s.envId
  | .serviceAccount => s.serviceAccount

/-- The section that counts in every environment. -/
def defaultSection : String := "default"

/-- Settings read from a file, and the environment asked for, if one was. -/
structure File where
  sections : Dict (Dict String)
  env : Option String

namespace File

/-- The settings of an empty file. -/
def empty : File := ⟨Dict.empty, none⟩

/-- The same settings for another environment. -/
def forEnv (f : File) (env : Option String) : File := { f with env }

/-- The value of a key within one section. -/
def sectionValue? (f : File) (name : String) (key : Key) : Option String :=
  (f.sections.get? name).bind fun values => values.get? key.name

/-- The environment whose section counts: the one asked for, else the one that the default section
names. -/
def activeEnv? (f : File) : Option String :=
  f.env.or (f.sectionValue? defaultSection .envId)

/-- The value of a key. The environment is not a matter of its own section. -/
def get? (f : File) : Source
  | .envId => f.activeEnv?
  | key =>
    (f.activeEnv?.bind fun env => f.sectionValue? env key).or (f.sectionValue? defaultSection key)

end File

end JobLauncher.Settings
