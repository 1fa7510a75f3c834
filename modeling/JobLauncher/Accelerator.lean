import JobLauncher.Gpu.Machine
import JobLauncher.Text.Cut
import JobLauncher.Tpu.Slice

/-!
# Accelerators

The accelerators that a job asks for, and the family of jobs it belongs to. `Variant.check` decides
whether the two go together.
-/

namespace JobLauncher

/-- The families of accelerators. -/
inductive Accelerator.Kind where
  | tpu
  | gpu
  deriving DecidableEq, Repr

/-- An instance type and how many there are of it: slices of TPUs, nodes with GPUs. -/
structure Accelerator where
  instanceType : String
  count : UInt32
  deriving DecidableEq, Repr

namespace Accelerator

def Kind.name : Kind → String
  | .tpu => "tpu"
  | .gpu => "gpu"

/-- The family that the beginning of an instance type names. -/
def Kind.ofInstanceType? (instanceType : String) : Option Kind :=
  if Text.startsWith "tpu-" instanceType then some .tpu
  else if Text.startsWith "gpu-" instanceType then some .gpu
  else none

/-- Why an accelerator cannot be used. -/
inductive Fault where
  | otherKind (instanceType : String) (kind : Kind)
  | unknownTpu (instanceType : String)
  | unsupportedGpu (instanceType : String)
  | reservationAndSpot
  deriving DecidableEq, Repr

def Fault.message : Fault → String
  | .otherKind instanceType kind =>
    "instance type " ++ instanceType ++ " cannot be used with the " ++ kind.name ++ " builder"
  | .unknownTpu instanceType => "unknown TPU type: " ++ instanceType
  | .unsupportedGpu instanceType => "unsupported GPU type: " ++ instanceType
  | .reservationAndSpot => "reservation and spot capacity are mutually exclusive"

/-- Accepts options that ask for one kind of capacity. -/
def checkCapacity (options : Tpu.Options) : Except Fault Unit :=
  if options.consistent then .ok () else .error .reservationAndSpot

end Accelerator

/-- The family of a job, with what only that family knows. -/
inductive Variant where
  | tpu (options : Tpu.Options)
  | gpu (options : Gpu.Options)
  deriving DecidableEq, Repr

namespace Variant

def kind : Variant → Accelerator.Kind
  | .tpu _ => .tpu
  | .gpu _ => .gpu

/-- Accepts an accelerator that jobs of the variant can use: one of its family that is known there,
with options that do not contradict each other. -/
def check (v : Variant) (a : Accelerator) : Except Accelerator.Fault Unit :=
  if Accelerator.Kind.ofInstanceType? a.instanceType ≠ some v.kind then
    .error (.otherKind a.instanceType v.kind)
  else match v with
    | .tpu options =>
      match Tpu.slice? a.instanceType with
      | none => .error (.unknownTpu a.instanceType)
      | some _ => Accelerator.checkCapacity options
    | .gpu _ =>
      match Gpu.machine? a.instanceType with
      | none => .error (.unsupportedGpu a.instanceType)
      | some _ => .ok ()

end Variant

end JobLauncher
