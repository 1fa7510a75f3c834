/-!
# TPU slices

The shape of a slice follows from the instance type alone.
-/

namespace JobLauncher.Tpu

/-- The shape of the slices of one instance type. -/
structure Slice where
  /-- The value of the node label for the accelerator. -/
  accelerator : String
  /-- How the chips are arranged. -/
  topology : String
  chipsPerVm : Nat
  vmsPerSlice : Nat
  deriving DecidableEq, Repr

def v4 : String := "tpu-v4-podslice"
def v5e : String := "tpu-v5-lite-podslice"
def v5p : String := "tpu-v5p-slice"
def v6e : String := "tpu-v6e-slice"

/-- The instance types and their slices. -/
def slices : List (String × Slice) := [
  ("tpu-v4-8", ⟨v4, "2x2x1", 4, 1⟩),
  ("tpu-v4-16", ⟨v4, "2x2x2", 4, 2⟩),
  ("tpu-v4-32", ⟨v4, "2x2x4", 4, 4⟩),
  ("tpu-v4-64", ⟨v4, "2x4x4", 4, 8⟩),
  ("tpu-v4-128", ⟨v4, "4x4x4", 4, 16⟩),
  ("tpu-v4-256", ⟨v4, "4x4x8", 4, 32⟩),
  ("tpu-v4-512", ⟨v4, "4x8x8", 4, 64⟩),
  ("tpu-v5litepod-1", ⟨v5e, "1x1", 1, 1⟩),
  ("tpu-v5litepod-4", ⟨v5e, "2x2", 4, 1⟩),
  ("tpu-v5litepod-8", ⟨v5e, "2x4", 8, 1⟩),
  ("tpu-v5litepod-16", ⟨v5e, "4x4", 4, 4⟩),
  ("tpu-v5litepod-32", ⟨v5e, "4x8", 4, 8⟩),
  ("tpu-v5litepod-64", ⟨v5e, "8x8", 4, 16⟩),
  ("tpu-v5litepod-128", ⟨v5e, "8x16", 4, 32⟩),
  ("tpu-v5litepod-256", ⟨v5e, "16x16", 4, 64⟩),
  ("tpu-v5p-8", ⟨v5p, "2x2x1", 4, 1⟩),
  ("tpu-v5p-16", ⟨v5p, "2x2x2", 4, 2⟩),
  ("tpu-v5p-32", ⟨v5p, "2x2x4", 4, 4⟩),
  ("tpu-v5p-64", ⟨v5p, "2x4x4", 4, 8⟩),
  ("tpu-v5p-128", ⟨v5p, "4x4x4", 4, 16⟩),
  ("tpu-v5p-256", ⟨v5p, "4x4x8", 4, 32⟩),
  ("tpu-v5p-512", ⟨v5p, "4x8x8", 4, 64⟩),
  ("tpu-v5p-1024", ⟨v5p, "8x8x8", 4, 128⟩),
  ("tpu-v6e-1", ⟨v6e, "1x1", 1, 1⟩),
  ("tpu-v6e-4", ⟨v6e, "2x2", 4, 1⟩),
  ("tpu-v6e-8", ⟨v6e, "2x4", 8, 1⟩),
  ("tpu-v6e-16", ⟨v6e, "4x4", 4, 4⟩),
  ("tpu-v6e-32", ⟨v6e, "4x8", 4, 8⟩),
  ("tpu-v6e-64", ⟨v6e, "8x8", 4, 16⟩),
  ("tpu-v6e-128", ⟨v6e, "8x16", 4, 32⟩),
  ("tpu-v6e-256", ⟨v6e, "16x16", 4, 64⟩)]

/-- The slice of an instance type. -/
def slice? (instanceType : String) : Option Slice := slices.lookup instanceType

/-- Which capacity a TPU job uses. -/
structure Options where
  /-- Capacity that has been reserved under this name. -/
  reservation : Option String := none
  /-- Capacity that may be taken away at any time. -/
  spot : Bool := false
  deriving DecidableEq, Repr

/-- Reserved capacity cannot be taken away, so a job asks for one kind or the other. -/
def Options.consistent (o : Options) : Bool := !(o.reservation.isSome && o.spot)

end JobLauncher.Tpu
