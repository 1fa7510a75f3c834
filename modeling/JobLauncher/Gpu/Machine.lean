/-!
# GPU machines

What a GPU instance type stands for.
-/

namespace JobLauncher.Gpu

/-- A machine with GPUs. -/
structure Machine where
  /-- The value of the node label for the accelerator. -/
  accelerator : String
  gpusPerNode : Nat
  deriving DecidableEq, Repr

/-- The instance types and their machines. -/
def machines : List (String × Machine) := [
  ("gpu-a3-highgpu-8g", ⟨"nvidia-h100-80gb", 8⟩),
  ("gpu-a3-megagpu-8g", ⟨"nvidia-h100-mega-80gb", 8⟩)]

/-- The machine of an instance type. -/
def machine? (instanceType : String) : Option Machine := machines.lookup instanceType

/-- What a GPU job asks of its nodes. -/
structure Options where
  /-- The most that may be written to shared memory, for instance 256Gi. -/
  sharedMemoryLimit : Option String := none
  deriving DecidableEq, Repr

end JobLauncher.Gpu
