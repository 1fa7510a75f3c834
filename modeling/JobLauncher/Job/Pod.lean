import JobLauncher.Job.Context
import JobLauncher.Shell.Quote
import JobLauncher.Text.Cut

/-!
# Pods

The parts of a pod that do not depend on the accelerator. A job with an output directory gets one
container more, which copies what the pod writes to storage for as long as the pod runs.
-/

namespace JobLauncher.Job.Pod

/-- The node label by which nodes are made for a job. -/
def preProvisionerLabel : String := "pre-provisioner-id"

/-- The annotation that tells a pod its number. -/
def completionIndexAnnotation : String := "batch.kubernetes.io/job-completion-index"

def outputVolumeName : String := "shared-output"

/-- Where a pod writes its outputs. -/
def outputPath : String := "/output"

def uploaderName : String := "output-uploader"

def uploaderImage : String := "google/cloud-sdk:alpine"

/-- How many seconds the uploader waits between copies. -/
def syncInterval : Nat := 60

/-- A variable with a value. -/
def envVar (name value : String) : Json := .obj [("name", .str name), ("value", .str value)]

/-- A variable whose value is the number of the pod. -/
def indexVar (name : String) : Json :=
  .obj [
    ("name", .str name),
    ("valueFrom", .obj [("fieldRef", .obj [
      ("fieldPath", .str ("metadata.annotations['" ++ completionIndexAnnotation ++ "']"))])])]

/-- The variables of a container: those of the accelerator, then those of the job in key order. -/
def env (ofAccelerator : List Json) (ctx : Context) : List Json :=
  ofAccelerator ++ ctx.envVars.toList.map fun v => envVar v.1 v.2

/-- The command of the main container. -/
def command (ctx : Context) : Json := Json.strings ["bash", "-c", ctx.command]

/-- The labels that a node has to have. -/
def nodeSelector (ctx : Context) (selector : Dict String) : Dict String :=
  if ctx.preProvisioner then selector.insert preProvisionerLabel ctx.name else selector

/-- A volume seen at a path. -/
def mount (path volume : String) : Json :=
  .obj [("mountPath", .str path), ("name", .str volume)]

/-- A volume that lives as long as the pod. -/
def emptyDir (volume : String) (options : List (String × Json)) : Json :=
  .obj [("emptyDir", .obj options), ("name", .str volume)]

/-- The output volume as a container sees it, if outputs are kept. -/
def outputMount (ctx : Context) : Option Json :=
  ctx.outputDir.map fun _ => mount outputPath outputVolumeName

/-- The output volume, if outputs are kept. -/
def outputVolume (ctx : Context) : Option Json :=
  ctx.outputDir.map fun _ => emptyDir outputVolumeName []

/-- Copies the outputs of the host again and again to their place under `dir`. The directory is
quoted and the name of the host is not, so that the shell fills in the one and leaves the other
alone. -/
def uploaderScript (dir : String) : String :=
  let source := outputPath ++ "/$HOSTNAME/"
  let target := Shell.quote (Text.dropEndWhile (· == '/') dir) ++ outputPath ++ "/$HOSTNAME/"
  "mkdir -p " ++ source ++ "; while true; do gsutil -m rsync -r " ++ source ++ " " ++ target
    ++ "; sleep " ++ toString syncInterval ++ "; done"

/-- The container that copies the outputs, if they are kept. -/
def uploader (ctx : Context) : Option Json :=
  ctx.outputDir.map fun dir => .obj [
    ("command", Json.strings ["/bin/sh", "-c", uploaderScript dir]),
    ("image", .str uploaderImage),
    ("name", .str uploaderName),
    ("volumeMounts", .arr [mount outputPath outputVolumeName])]

/-- The containers of a pod. -/
def containers (main : Json) (ctx : Context) : List Json := main :: (uploader ctx).toList

/-- What the accelerators decide about the main container of a pod. -/
structure Main where
  env : List Json
  ports : List Nat
  resource : String
  /-- How much of the resource one pod takes. -/
  amount : Nat
  mounts : List Json

/-- The container that runs the command of the job. -/
def mainContainer (m : Main) (ctx : Context) : Json :=
  .obj [
    ("command", command ctx),
    ("env", .arr (env m.env ctx)),
    ("image", .str ctx.image),
    ("imagePullPolicy", .str "Always"),
    ("name", .str ctx.name),
    ("ports", .arr (m.ports.map fun port => .obj [("containerPort", Json.nat port)])),
    ("resources", .obj [("limits", .obj [(m.resource, .str (toString m.amount))])]),
    ("securityContext", .obj [("privileged", .bool true)]),
    ("volumeMounts", .arr (m.mounts ++ (outputMount ctx).toList))]

/-- What the accelerators decide about a pod. -/
structure Shape where
  main : Main
  selector : Dict String
  tolerations : List Json
  volumes : List Json

/-- The pod of a job. -/
def template (s : Shape) (ctx : Context) : Json :=
  .obj [
    ("metadata", .obj [("labels", .obj [("app", .str ctx.name)])]),
    ("spec", .obj [
      ("containers", .arr (containers (mainContainer s.main ctx) ctx)),
      ("dnsPolicy", .str "ClusterFirstWithHostNet"),
      ("hostNetwork", .bool true),
      ("nodeSelector", Json.ofTexts (nodeSelector ctx s.selector)),
      ("restartPolicy", .str "Never"),
      ("serviceAccountName", .str ctx.serviceAccount),
      ("tolerations", .arr s.tolerations),
      ("volumes", .arr (s.volumes ++ (outputVolume ctx).toList))])]

/-- The name of the replicated job. -/
def replicatedJobName : String := "job"

/-- The job that the cluster replicates: `pods` pods, each with a number of its own, in each of
`replicas` copies. -/
def replicatedJob (replicas pods : Nat) (pod : Json) : Json :=
  .obj [
    ("name", .str replicatedJobName),
    ("replicas", Json.nat replicas),
    ("template", .obj [("spec", .obj [
      ("backoffLimit", Json.nat 0),
      ("completionMode", .str "Indexed"),
      ("completions", Json.nat pods),
      ("parallelism", Json.nat pods),
      ("template", pod)])])]

end JobLauncher.Job.Pod
