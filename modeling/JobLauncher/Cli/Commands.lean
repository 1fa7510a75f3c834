import JobLauncher.Cli.Action
import JobLauncher.Cli.Reader

/-!
# The commands

The grammar of the command line and the action that each command stands for. What a flag's check
lets through is what the action reads, so a command line that is read gives an action.
-/

namespace JobLauncher.Cli

/-- Accepts texts that are not empty. -/
def nonempty (s : String) : Option String := if s = "" then none else some s

/-- The settings file, which may be named before or after any command. -/
def settingsFlag : Flag := { name := "settings" : Flag }.checked nonempty .invalidValue

/-- The flag that shows the version of the program. -/
def versionFlag : Flag := { name := "version", letter := some 'V', role := .shows .version }

def namespaceFlag : Flag := { name := "namespace", letter := some 'n' }

/-- Groups, parted by commas. -/
def scopesFlag : Flag := { name := "impersonate-scopes", repeatable := true, separator := some ',' }

def countFlag (name : String) : Flag := { name : Flag }.checked parseCount .malformedValue

/-- The flags of a job for the cluster. -/
def jobFlags : List Flag := [
  { name := "name", required := true },
  { name := "command", required := true },
  { name := "project" },
  { name := "zone" },
  { name := "env-id" },
  { name := "service-account" },
  { name := "impersonate-account" },
  scopesFlag,
  { name := "image" },
  { name := "instance-type", required := true },
  countFlag "num-replicas",
  { name := "env", repeatable := true : Flag }.checked
    (fun s => (parseVariable s).toOption) .malformedValue,
  namespaceFlag,
  { name := "queue" },
  countFlag "max-tries",
  { name := "output-dir" },
  .switch "enable-pre-provisioner"]

/-- The flags of TPU jobs. -/
def tpuFlags : List Flag :=
  jobFlags ++ [{ name := "reservation", excludes := ["enable-spot"] }, .switch "enable-spot"]

/-- The flags of GPU jobs. -/
def gpuFlags : List Flag := jobFlags ++ [{ name := "shm-size-limit" }]

/-- The flags of showing a document. -/
def buildFlags : List Flag :=
  [{ name := "output" : Flag }.checked Format.parse .invalidValue, { name := "api-version" }]

def deleteFlags : List Flag :=
  [{ name := "name", required := true }, namespaceFlag, { name := "impersonate-account" },
    scopesFlag]

/-- The flags of running a command on a machine. -/
def machineFlags : List Flag := [
  { name := "name", required := true },
  { name := "command", required := true },
  { name := "project" },
  { name := "zone" },
  { name := "env-id" },
  { name := "ssh-tool" },
  { name := "detached-session" }]

/-- The flags of running a command in a container. -/
def containerFlags : List Flag := [
  { name := "image", required := true },
  { name := "detached-session" },
  { name := "env", repeatable := true },
  { name := "volume", repeatable := true : Flag }.checked
    (fun s => (parseVolume s).toOption) .malformedValue,
  { name := "docker-flag", repeatable := true, dashes := true }]

/-- The commands for jobs of one family. -/
def jobCommands (flags : List Flag) : Command :=
  .group [("launch", .leaf flags), ("build", .leaf (flags ++ buildFlags)),
    ("delete", .leaf deleteFlags)]

/-- All commands. -/
def commands : Command := .group [
  ("tpu", jobCommands tpuFlags),
  ("gpu", jobCommands gpuFlags),
  ("cpu", .group [("run", .leaf machineFlags)]),
  ("docker-command",
    .node { flags := containerFlags, word := some { name := "command", required := true } } [])]

namespace Parsed

/-- The value of a flag that has to be given. -/
def text (p : Parsed) (name : String) : String := (p.value? name).getD ""

/-- The count that a flag gives; one if it is not given. -/
def count (p : Parsed) (name : String) : UInt32 := ((p.value? name).bind parseCount).getD 1

def ns (p : Parsed) : String := (p.value? "namespace").getD Kube.defaultNamespace

def jobArgs (p : Parsed) : JobArgs where
  name := p.text "name"
  command := p.text "command"
  project := p.value? "project"
  zone := p.value? "zone"
  envId := p.value? "env-id"
  serviceAccount := p.value? "service-account"
  impersonateAccount := p.value? "impersonate-account"
  impersonateScopes := p.values "impersonate-scopes"
  image := p.value? "image"
  instanceType := p.text "instance-type"
  replicas := p.count "num-replicas"
  env := (p.values "env").filterMap fun s => (parseVariable s).toOption
  ns := p.ns
  queue := p.value? "queue"
  maxTries := p.count "max-tries"
  outputDir := p.value? "output-dir"
  preProvisioner := p.has "enable-pre-provisioner"

def tpuVariant (p : Parsed) : Variant :=
  .tpu ⟨p.value? "reservation", p.has "enable-spot"⟩

def gpuVariant (p : Parsed) : Variant := .gpu ⟨p.value? "shm-size-limit"⟩

def build (p : Parsed) (v : Variant) : Action :=
  .build p.jobArgs v (((p.value? "output").bind Format.parse).getD .json)
    ((p.value? "api-version").getD Kube.fallbackApiVersion)

def delete (p : Parsed) : Action :=
  .delete ⟨p.text "name", p.ns, p.value? "impersonate-account", p.values "impersonate-scopes"⟩

def machineArgs (p : Parsed) : MachineArgs where
  name := p.text "name"
  command := p.text "command"
  project := p.value? "project"
  zone := p.value? "zone"
  envId := p.value? "env-id"
  tool := (p.value? "ssh-tool").getD Remote.defaultTool
  session := p.value? "detached-session"

def containerArgs (p : Parsed) : ContainerArgs where
  command := p.text "command"
  image := p.text "image"
  session := p.value? "detached-session"
  env := p.values "env"
  volumes := (p.values "volume").filterMap fun s => (parseVolume s).toOption
  flags := p.values "docker-flag"

/-- The action of the command that is named. -/
def action (p : Parsed) : Except Usage Action :=
  match p.path with
  | ["tpu", "launch"] => .ok (.launch p.jobArgs p.tpuVariant)
  | ["tpu", "build"] => .ok (p.build p.tpuVariant)
  | ["gpu", "launch"] => .ok (.launch p.jobArgs p.gpuVariant)
  | ["gpu", "build"] => .ok (p.build p.gpuVariant)
  | ["tpu", "delete"] | ["gpu", "delete"] => .ok p.delete
  | ["cpu", "run"] => .ok (.machine p.machineArgs)
  | ["docker-command"] => .ok (.container p.containerArgs)
  | _ => .error .missingCommand

end Parsed

/-- What a command line asks for, or what is wrong with it. -/
def Invocation.parse (words : List String) : Except Usage Invocation := do
  let p ← commands.read [settingsFlag] [versionFlag] words
  return ⟨p.value? "settings", ← p.action⟩

end JobLauncher.Cli
