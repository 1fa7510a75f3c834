import JobLauncher.Job.Pod

/-!
# GPU jobs

A GPU job is a single copy with one pod for each node. The pods find each other through the first of
them, whose address they are given.
-/

namespace JobLauncher.Gpu

open Job

/-- The resource that stands for the GPUs of a node. -/
def resource : String := "nvidia.com/gpu"

def acceleratorSelector : String := "cloud.google.com/gke-accelerator"

/-- The port on which the first pod listens. -/
def coordinatorPort : Nat := 8080

def sharedMemoryVolume : String := "shared-memory"

/-- A GPU job whose machine is known. -/
structure ReplicatedJob where
  ctx : Context
  machine : Machine
  /-- The number of nodes. -/
  count : UInt32
  options : Options

namespace ReplicatedJob

/-- The GPU job for an accelerator. What it needs is checked here again, whoever asks for it. -/
def of (ctx : Context) (a : Accelerator) (options : Options) :
    Except Accelerator.Fault ReplicatedJob := do
  let some machine := machine? a.instanceType | throw (.unsupportedGpu a.instanceType)
  return ⟨ctx, machine, a.count, options⟩

/-- The host of the first pod of the first copy of the replicated job. -/
def coordinatorHost (name : String) : String := name ++ "-" ++ Pod.replicatedJobName ++ "-0-0"

/-- The address of the first pod within the cluster. -/
def coordinatorAddress (name : String) : String :=
  coordinatorHost name ++ "." ++ name ++ ":" ++ toString coordinatorPort

/-- The memory that the processes of a pod share, with its limit, if there is one. -/
def sharedMemory (o : Options) : Json :=
  Pod.emptyDir sharedMemoryVolume
    (("medium", .str "Memory")
      :: (o.sharedMemoryLimit.map fun limit => ("sizeLimit", Json.str limit)).toList)

/-- What is particular to the pods of the job. -/
def shape (r : ReplicatedJob) : Pod.Shape where
  main := {
    env := [
      Pod.envVar "DISTRIBUTED_COORDINATOR" (coordinatorAddress r.ctx.name),
      Pod.envVar "NUM_PROCESSES" (toString r.count.toNat),
      Pod.indexVar "PROCESS_ID"]
    ports := [coordinatorPort]
    resource
    amount := r.machine.gpusPerNode
    mounts := [Pod.mount "/dev/shm" sharedMemoryVolume] }
  selector := Dict.ofList [(acceleratorSelector, r.machine.accelerator)]
  tolerations := [.obj [
    ("effect", .str "NoSchedule"),
    ("key", .str resource),
    ("operator", .str "Exists")]]
  volumes := [sharedMemory r.options]

/-- The job as the cluster gets it. -/
def replicated (r : ReplicatedJob) : Replicated where
  kind := .gpu
  jobs := [Pod.replicatedJob 1 r.count.toNat (Pod.template r.shape r.ctx)]

end ReplicatedJob

end JobLauncher.Gpu
