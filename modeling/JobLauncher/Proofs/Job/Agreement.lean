import JobLauncher.Job.Replicated
import JobLauncher.Proofs.Job.Acceptance

/-!
# Two checks of an accelerator

An accelerator is checked twice: when a configuration is built, and when the replicated jobs are
made that it asks for. The two checks are written out apart. Both look the instance type up in the
table of the family and see whether the options go together. The first check also looks at how the
instance type begins, and refuses one that does not begin with the name of the family before it
looks at the table. Whether the two agree depends on the tables, since nothing else ties a type to
the beginning of its name.

> `checks_agree`: both checks accept the same accelerators, and of an instance type that begins with
> the name of the family they say the same. No instance type is accepted for both families.
-/

namespace JobLauncher

open Accelerator

variable {α : Type} {v : Variant} {a : Accelerator} {made : Except Fault α}

/-- What there is to say of an instance type that is not known of the family. -/
def Variant.unknownType : Variant → String → Fault
  | .tpu _, t => .unknownTpu t
  | .gpu _, t => .unsupportedGpu t

/-- The check of an accelerator goes with what is made of it, or not made. -/
structure Variant.AgreesOn (v : Variant) (a : Accelerator) (made : Except Fault α) : Prop where
  accepts : v.check a = .ok () ↔ ∃ r, made = .ok r
  /-- Of a type that begins with the name of the family, both say the same. -/
  refuses : Kind.ofInstanceType? a.instanceType = some v.kind → ∀ text,
    (v.check a).mapError Fault.message = .error text ↔ made.mapError Fault.message = .error text
  /-- Any other type is refused by both, but only the check says how it begins. -/
  otherKind : Kind.ofInstanceType? a.instanceType ≠ some v.kind →
    v.check a = .error (.otherKind a.instanceType v.kind)
      ∧ made = .error (v.unknownType a.instanceType)

/-- What is found without a look at how the type begins. -/
def Variant.tableFault? (v : Variant) (t : String) : Option Fault :=
  (if t ∈ v.instanceTypes then none else some (v.unknownType t)).or v.capacityFault?

/-- To make a job for slices finds fault with what is not in the table. -/
theorem error?_ofTpu (ctx : Job.Context) (a : Accelerator) (o : Tpu.Options) :
    (Tpu.ReplicatedJob.of ctx a o).error? = (Variant.tpu o).tableFault? a.instanceType := by
  unfold Tpu.ReplicatedJob.of
  refine error?_of_lookup (fun hunknown => ?_) fun slice hslice => ?_
  · rw [Tpu.slice?, hunknown]
    rfl
  · rw [Tpu.slice?, hslice, ← error?_checkCapacity]
    exact Except.error?_bind.trans Option.or_none

theorem error?_ofGpu (ctx : Job.Context) (a : Accelerator) (o : Gpu.Options) :
    (Gpu.ReplicatedJob.of ctx a o).error? = (Variant.gpu o).tableFault? a.instanceType := by
  unfold Gpu.ReplicatedJob.of
  refine error?_of_lookup (fun hunknown => ?_) fun machine hmachine => ?_
  · rw [Gpu.machine?, hunknown]
    rfl
  · rw [Gpu.machine?, hmachine]
    rfl

/-- The check accepts exactly what is in the table. -/
theorem Variant.check_eq_ok_iff : v.check a = .ok () ↔ v.tableFault? a.instanceType = none := by
  have hok : v.check a = .ok () ↔ (v.check a).error? = none := by
    rw [Except.error?_eq_none_iff]
    exact ⟨fun h => ⟨(), h⟩, fun ⟨⟨⟩, h⟩ => h⟩
  rw [hok, Variant.error?_check, tableFault?, Option.or_eq_none_iff, Option.or_eq_none_iff,
    Job.typeFault?_eq_none_iff]
  simp

/-- Where the type begins with the name of the family, the check finds what the table says. -/
theorem Variant.error?_check_of_kind
    (h : Kind.ofInstanceType? a.instanceType = some v.kind) :
    (v.check a).error? = v.tableFault? a.instanceType := by
  have htype : v.typeFault? a.instanceType
      = if a.instanceType ∈ v.instanceTypes then none else some (v.unknownType a.instanceType) := by
    unfold typeFault?
    rw [if_neg (not_not_intro h)]
    cases v with
    | _ => rfl
  rw [Variant.error?_check, htype, tableFault?]

/-- Two definitions with the same faults agree. -/
theorem agreesOn_of_error? (h : made.error? = v.tableFault? a.instanceType) :
    v.AgreesOn a made := by
  refine ⟨?accepts, fun hkind text => ?refuses, fun hkind => ⟨if_pos hkind, ?otherKind⟩⟩
  case accepts => rw [Variant.check_eq_ok_iff, ← h, Except.error?_eq_none_iff]
  case refuses =>
    have hsame : (v.check a).error? = made.error? := by rw [Variant.error?_check_of_kind hkind, h]
    rw [Except.mapError_eq_error, Except.mapError_eq_error]
    refine exists_congr fun f => and_congr_left' ?_
    rw [← Except.error?_eq_some_iff, ← Except.error?_eq_some_iff, hsame]
  case otherKind =>
    have hunknown : a.instanceType ∉ v.instanceTypes := mt ofInstanceType?_of_mem hkind
    rw [← Except.error?_eq_some_iff, h, Variant.tableFault?, if_neg hunknown, Option.some_or]

/-- A type that is accepted begins with the name of the family. -/
theorem kind_of_check (h : v.check a = .ok ()) :
    Kind.ofInstanceType? a.instanceType = some v.kind := by
  refine Decidable.byContradiction fun hkind => ?_
  cases h.symm.trans (if_pos hkind)

/-- The check of a variant accepts an accelerator exactly if its replicated job can be made. If not,
both say the same, unless the type begins with something else than the name of the family. No type
that is known of the family begins so, and no type is accepted for both. -/
theorem checks_agree (ctx : Job.Context) (a : Accelerator) :
    (∀ o : Tpu.Options, (Variant.tpu o).AgreesOn a (Tpu.ReplicatedJob.of ctx a o))
    ∧ (∀ o : Gpu.Options, (Variant.gpu o).AgreesOn a (Gpu.ReplicatedJob.of ctx a o))
    ∧ (∀ (o : Tpu.Options) (o' : Gpu.Options) (n n' : UInt32),
      ¬((Variant.tpu o).check ⟨a.instanceType, n⟩ = .ok ()
        ∧ (Variant.gpu o').check ⟨a.instanceType, n'⟩ = .ok ()))
    ∧ ∀ v : Variant, a.instanceType ∈ v.instanceTypes →
      Kind.ofInstanceType? a.instanceType = some v.kind := by
  refine ⟨fun o => agreesOn_of_error? (error?_ofTpu ctx a o),
    fun o => agreesOn_of_error? (error?_ofGpu ctx a o), fun o o' n n' => ?both,
    fun v => ofInstanceType?_of_mem⟩
  case both =>
    rintro ⟨htpu, hgpu⟩
    cases (kind_of_check htpu).symm.trans (kind_of_check hgpu)

/-- A job with no options. -/
def plainContext : Job.Context where
  name := "train"
  command := "echo hi"
  image := "image"
  serviceAccount := "default"
  envVars := Dict.empty
  outputDir := none
  preProvisioner := false

/-- A TPU type that is not known is refused in the same words, a GPU type in different ones. -/
theorem checks_agree_unknown :
    (Tpu.ReplicatedJob.of plainContext ⟨"tpu-v5p-9", 1⟩ {}).mapError Fault.message
      = .error "unknown TPU type: tpu-v5p-9"
    ∧ (Variant.tpu {}).check ⟨"gpu-a3-highgpu-8g", 1⟩ = .error (.otherKind "gpu-a3-highgpu-8g" .tpu)
    ∧ Tpu.ReplicatedJob.of plainContext ⟨"gpu-a3-highgpu-8g", 1⟩ {}
      = .error (.unknownTpu "gpu-a3-highgpu-8g") := by
  obtain ⟨hmistyped, -⟩ := checks_agree plainContext ⟨"tpu-v5p-9", 1⟩
  obtain ⟨hother, -⟩ := checks_agree plainContext ⟨"gpu-a3-highgpu-8g", 1⟩
  exact ⟨((hmistyped {}).refuses (by decide) _).mp rfl, (hother {}).otherKind (by decide)⟩

end JobLauncher
