import JobLauncher.Accelerator
import JobLauncher.Job.Error
import JobLauncher.Kube.Label
import JobLauncher.Kube.Resource
import JobLauncher.Settings.Basic

/-!
# Job configurations

A job is described by a `Draft`, on which each `Edit` sets one option, and becomes a `Config` by
`Draft.build`, which fills in defaults and checks that the options go together. Whatever the draft
says wins over the settings. The checks come in a fixed order and the first that fails is the error.
-/

namespace JobLauncher.Job

/-- How the code of a job is packed. -/
inductive Bundler where
  /-- An image that every pod pulls. -/
  | docker (image : String)
  /-- An archive in object storage. -/
  | archive (uri : String)
  deriving DecidableEq, Repr

namespace Bundler

def image? : Bundler → Option String
  | .docker image => some image
  | .archive _ => none

/-- A bundler as messages show it. -/
def describe : Option Bundler → String
  | none => "None"
  | some (.docker image) => "Some(Docker \x7b image: " ++ Text.quoted image ++ " \x7d)"
  | some (.archive uri) => "Some(Archive \x7b uri: " ++ Text.quoted uri ++ " \x7d)"

end Bundler

/-- A job that has been checked. -/
structure Config where
  name : String
  command : String
  project : String
  zone : String
  envId : Option String
  /-- The account that pods run as. -/
  serviceAccount : Option String
  /-- The account to act as towards the cluster, and its groups. -/
  impersonateAccount : Option String
  impersonateScopes : List String
  bundler : Option Bundler
  /-- The family of a job that runs in a cluster; none for one that runs on a machine. -/
  variant : Option Variant
  accelerator : Option Accelerator
  envVars : Dict String
  ns : String
  queue : Option String
  maxTries : UInt32
  /-- Where the outputs of the job are kept. -/
  outputDir : Option String
  /-- Whether pods wait for nodes that are made for them. -/
  preProvisioner : Bool
  deriving DecidableEq

/-- A job that is being described. -/
structure Draft where
  name : String
  command : String := ""
  project : Option String := none
  zone : Option String := none
  envId : Option String := none
  serviceAccount : Option String := none
  impersonateAccount : Option String := none
  impersonateScopes : List String := []
  bundler : Option Bundler := none
  variant : Option Variant := none
  accelerator : Option Accelerator := none
  envVars : Dict String := Dict.empty
  ns : Option String := none
  queue : Option String := none
  maxTries : UInt32 := 1
  outputDir : Option String := none
  preProvisioner : Bool := false
  deriving DecidableEq

/-- A change of one option of a draft. -/
inductive Edit where
  | command (s : String)
  | project (s : String)
  | zone (s : String)
  | envId (s : String)
  | serviceAccount (s : String)
  | impersonateAccount (s : String)
  | impersonateScopes (scopes : List String)
  | bundler (b : Bundler)
  | variant (v : Variant)
  | accelerator (a : Accelerator)
  | envVar (key value : String)
  | ns (s : String)
  | queue (s : String)
  | maxTries (n : UInt32)
  | outputDir (s : String)
  | preProvisioner (enable : Bool)
  deriving DecidableEq

/-- Why a draft is not a job. -/
inductive Fault where
  | noName
  | noTries
  | noProject
  | noZone
  | label (f : Kube.Label.Fault)
  | noImage
  | otherBundler (b : Option Bundler)
  | noAccelerator (kind : Accelerator.Kind)
  | noReplicas
  | accelerator (f : Accelerator.Fault)
  | unusedAccelerator
  deriving DecidableEq, Repr

/-- What a fault says about the job called `name`. -/
def Fault.message (name : String) : Fault → String
  | .noName => "job name is required"
  | .noTries => "max_tries must be at least 1"
  | .noProject => "project is required"
  | .noZone => "zone is required"
  | .label f => f.message "job name" name
  | .noImage => "docker bundler requires an image"
  | .otherBundler b => "only docker bundler supported, got: " ++ Bundler.describe b
  | .noAccelerator kind => kind.name ++ " jobs require an accelerator"
  | .noReplicas => "num_replicas must be at least 1"
  | .accelerator f => f.message
  | .unusedAccelerator => "accelerator requires a TPU or GPU builder"

namespace Draft

/-- Makes one change. -/
def apply (d : Draft) : Edit → Draft
  | .command s => { d with command := s }
  | .project s => { d with project := some s }
  | .zone s => { d with zone := some s }
  | .envId s => { d with envId := some s }
  | .serviceAccount s => { d with serviceAccount := some s }
  | .impersonateAccount s => { d with impersonateAccount := some s }
  | .impersonateScopes scopes => { d with impersonateScopes := scopes }
  | .bundler b => { d with bundler := some b }
  | .variant v => { d with variant := some v }
  | .accelerator a => { d with accelerator := some a }
  | .envVar key value => { d with envVars := d.envVars.insert key value }
  | .ns s => { d with ns := some s }
  | .queue s => { d with queue := some s }
  | .maxTries n => { d with maxTries := n }
  | .outputDir s => { d with outputDir := some s }
  | .preProvisioner enable => { d with preProvisioner := enable }

/-- Makes the changes one after another. -/
def applyAll (d : Draft) (edits : List Edit) : Draft := edits.foldl apply d

/-- Checks the bundler of a job for the cluster: an image, and not an empty one. -/
def checkBundler : Option Bundler → Except Fault Unit
  | some (.docker image) => if image = "" then .error .noImage else .ok ()
  | other => .error (.otherBundler other)

/-- Checks the accelerator of a job of a variant. -/
def checkAccelerator (v : Variant) : Option Accelerator → Except Fault Unit
  | none => .error (.noAccelerator v.kind)
  | some a =>
    if a.count = 0 then .error .noReplicas
    else (v.check a).mapError .accelerator

/-- Checks what depends on where the job runs. A job for the cluster needs a name that can be part
of a host name, an image and an accelerator; one for a machine has no use for an accelerator. -/
def checkPlace (d : Draft) : Except Fault Unit :=
  match d.variant with
  | some v => do
    match Kube.Label.fault? d.name with
    | some f => .error (.label f)
    | none => pure ()
    checkBundler d.bundler
    checkAccelerator v d.accelerator
  | none => if d.accelerator.isSome then .error .unusedAccelerator else .ok ()

/-- The account that pods run as. Only jobs for the cluster have pods and take it from the
settings. -/
def podAccount (d : Draft) (settings : Settings.Source) : Option String :=
  match d.variant with
  | some _ =>
    some ((d.serviceAccount.or (settings .serviceAccount)).getD Kube.defaultServiceAccount)
  | none => d.serviceAccount

/-- The job of a draft that has been checked, in a project and a zone. -/
def fill (d : Draft) (settings : Settings.Source) (project zone : String) : Config where
  name := d.name
  command := d.command
  project := project
  zone := zone
  envId := d.envId.or (settings .envId)
  serviceAccount := d.podAccount settings
  impersonateAccount := d.impersonateAccount
  impersonateScopes := d.impersonateScopes
  bundler := d.bundler
  variant := d.variant
  accelerator := d.accelerator
  envVars := d.envVars
  ns := d.ns.getD Kube.defaultNamespace
  queue := d.queue
  maxTries := d.maxTries
  outputDir := d.outputDir
  preProvisioner := d.preProvisioner

/-- The job of a draft, or what is wrong with it. -/
def check (d : Draft) (settings : Settings.Source) : Except Fault Config := do
  if d.name = "" then throw .noName
  if d.maxTries = 0 then throw .noTries
  -- what the draft says wins over the settings
  let some project := d.project.or (settings .project) | throw .noProject
  let some zone := d.zone.or (settings .zone) | throw .noZone
  d.checkPlace
  return d.fill settings project zone

/-- How an error names the job. -/
def errorName (d : Draft) : String := if d.name = "" then "<unnamed>" else d.name

/-- The job of a draft, with defaults from the settings. -/
def build (d : Draft) (settings : Settings.Source) : Except Error Config :=
  (d.check settings).mapError fun f => .config d.errorName (f.message d.name)

end Draft

namespace Config

/-- A draft that says all that the job says, to derive another one from. -/
def toDraft (c : Config) : Draft where
  name := c.name
  command := c.command
  project := some c.project
  zone := some c.zone
  envId := c.envId
  serviceAccount := c.serviceAccount
  impersonateAccount := c.impersonateAccount
  impersonateScopes := c.impersonateScopes
  bundler := c.bundler
  variant := c.variant
  accelerator := c.accelerator
  envVars := c.envVars
  ns := some c.ns
  queue := c.queue
  maxTries := c.maxTries
  outputDir := c.outputDir
  preProvisioner := c.preProvisioner

/-- Whether the job runs in a cluster. -/
def isJobSet (c : Config) : Bool := c.variant.isSome

/-- The image that pods run. -/
def image? (c : Config) : Option String := c.bundler.bind Bundler.image?

/-- What the job asks of its JobSet, with the annotations of its accelerator. -/
def plan (c : Config) (annotations : Dict String) : JobSet.Plan :=
  ⟨c.name, c.maxTries, c.queue, annotations⟩

end Config

end JobLauncher.Job
