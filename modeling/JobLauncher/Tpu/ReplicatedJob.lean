import JobLauncher.Job.Pod

/-!
# TPU jobs

A TPU job has one copy for each slice and in each copy one pod for each machine of the slice. A pod
takes all chips of its machine.
-/

namespace JobLauncher.Tpu

open Job

/-- The resource that stands for the chips of a machine. -/
def resource : String := "google.com/tpu"

def acceleratorSelector : String := "cloud.google.com/gke-tpu-accelerator"
def topologySelector : String := "cloud.google.com/gke-tpu-topology"
def reservationSelector : String := "cloud.google.com/reservation-name"
def spotSelector : String := "cloud.google.com/gke-spot"

/-- The ports on which the machines of a slice talk to each other. -/
def ports : List Nat := [8471, 8080, 8431]

/-- A TPU job whose slice is known and whose options agree. -/
structure ReplicatedJob where
  ctx : Context
  slice : Slice
  /-- The number of slices. -/
  count : UInt32
  options : Options

namespace ReplicatedJob

/-- The TPU job for an accelerator. What it needs is checked here again, whoever asks for it. -/
def of (ctx : Context) (a : Accelerator) (options : Options) :
    Except Accelerator.Fault ReplicatedJob := do
  let some slice := slice? a.instanceType | throw (.unknownTpu a.instanceType)
  Accelerator.checkCapacity options
  return ⟨ctx, slice, a.count, options⟩

/-- The labels of the nodes that fit the slice and the capacity asked for. -/
def selector (r : ReplicatedJob) : Dict String :=
  let base := Dict.ofList [
    (acceleratorSelector, r.slice.accelerator),
    (topologySelector, r.slice.topology)]
  let base := match r.options.reservation with
    | none => base
    | some name => base.insert reservationSelector name
  if r.options.spot then base.insert spotSelector "true" else base

/-- Accepts nodes that are kept for pods which say that they want them. -/
def toleration (key value : String) : Json :=
  .obj [
    ("effect", .str "NoSchedule"),
    ("key", .str key),
    ("operator", .str "Equal"),
    ("value", .str value)]

/-- The kinds of nodes to accept: TPU nodes and, if asked for, those that may be taken away. -/
def tolerations (r : ReplicatedJob) : List Json :=
  toleration resource "present" :: if r.options.spot then [toleration spotSelector "true"] else []

/-- What is particular to the pods of the job. -/
def shape (r : ReplicatedJob) : Pod.Shape where
  main := {
    env := [Pod.envVar "NUM_TPU_SLICES" (toString r.count.toNat)]
    ports
    resource
    amount := r.slice.chipsPerVm
    mounts := [] }
  selector := r.selector
  tolerations := r.tolerations
  volumes := []

/-- The job as the cluster gets it. Every copy keeps to one node pool. -/
def replicated (r : ReplicatedJob) : Replicated where
  kind := .tpu
  jobs := [Pod.replicatedJob r.count.toNat r.slice.vmsPerSlice (Pod.template r.shape r.ctx)]
  annotations := Dict.ofList [(JobSet.exclusiveTopologyAnnotation, JobSet.nodePoolTopology)]

end ReplicatedJob

end JobLauncher.Tpu
