import JobLauncher.Proofs.Job.Compile
import JobLauncher.Proofs.Job.Rederivation

/-!
# The document of a draft

A document for the cluster has one replicated job, all of whose pods are made from one template.
What a variant adds to the template, and how many pods there are, follows from the accelerator
(`Arranged`).

A draft for the cluster that leaves nothing open but its environment is built under any settings,
and its document does not depend on them. What the document says is known from the draft alone
(`Draft.Describes`). The drafts that are derived from configurations are of this kind
(`Draft.describes_of_build`), and they describe the document of the configuration.
-/

namespace JobLauncher

/-- The annotations that jobs of the variant ask for. -/
def Variant.annotations : Variant → Dict String
  | .tpu _ => Dict.ofList [(JobSet.exclusiveTopologyAnnotation, JobSet.nodePoolTopology)]
  | .gpu _ => Dict.empty

namespace Job

open Accelerator

variable {d : Draft} {settings : Settings.Source} {c : Config} {v : Variant} {a : Accelerator}
  {ctx : Context} {shape : Pod.Shape} {replicas pods : Nat} {doc : JobSet.Document}

/-! ## What pods are made from -/

/-- What a variant makes of an accelerator: so many copies, so many pods in each, and their
shape. -/
inductive Arranged (a : Accelerator) (ctx : Context) : Variant → Nat → Nat → Pod.Shape → Prop where
  | tpu {o : Tpu.Options} {slice : Tpu.Slice} (hslice : Tpu.slice? a.instanceType = some slice)
      (hcapacity : checkCapacity o = .ok ()) :
      Arranged a ctx (.tpu o) a.count.toNat slice.vmsPerSlice
        (Tpu.ReplicatedJob.shape ⟨ctx, slice, a.count, o⟩)
  | gpu {o : Gpu.Options} {machine : Gpu.Machine}
      (hmachine : Gpu.machine? a.instanceType = some machine) :
      Arranged a ctx (.gpu o) 1 a.count.toNat
        (Gpu.ReplicatedJob.shape ⟨ctx, machine, a.count, o⟩)

/-- What passes its check can be arranged on its accelerator. -/
theorem exists_arranged (h : v.check a = .ok ()) (ctx : Context) :
    ∃ replicas pods shape, Arranged a ctx v replicas pods shape := by
  cases v with
  | tpu o =>
    obtain ⟨slice, hslice, hcapacity, -⟩ := replicated_tpu h ctx
    exact ⟨_, _, _, .tpu hslice hcapacity⟩
  | gpu o =>
    obtain ⟨machine, hmachine, -⟩ := replicated_gpu h ctx
    exact ⟨_, _, _, .gpu hmachine⟩

/-- What is arranged is what the accelerator makes of the job. -/
theorem Arranged.replicated_eq (h : Arranged a ctx v replicas pods shape) :
    Replicated.of v a ctx = .ok
      ⟨v.kind, [Pod.replicatedJob replicas pods (Pod.template shape ctx)], v.annotations⟩ := by
  cases h with
  | tpu hslice hcapacity =>
    simp only [Replicated.of, Tpu.ReplicatedJob.of, hslice, hcapacity]
    rfl
  | gpu hmachine =>
    simp only [Replicated.of, Gpu.ReplicatedJob.of, hmachine]
    rfl

/-- What a variant makes of an accelerator depends on the name of the job and nothing else. -/
theorem Arranged.congr {ctx' : Context} (h : Arranged a ctx v replicas pods shape)
    (hname : ctx'.name = ctx.name) : Arranged a ctx' v replicas pods shape := by
  cases h with
  | tpu hslice hcapacity => exact .tpu hslice hcapacity
  | @gpu o machine hmachine =>
    have hshape : Gpu.ReplicatedJob.shape ⟨ctx, machine, a.count, o⟩
        = Gpu.ReplicatedJob.shape ⟨ctx', machine, a.count, o⟩ := by
      unfold Gpu.ReplicatedJob.shape
      rw [hname]
    rw [hshape]
    exact .gpu hmachine

/-! ## What a draft describes -/

/-- The document of a configuration. -/
def Config.document (c : Config) : Except Error JobSet.Document :=
  JobSetJob.ofConfig c >>= JobSetJob.compile

/-- The document of the configuration that is built from a draft. -/
def Draft.document (d : Draft) (settings : Settings.Source) : Except Error JobSet.Document :=
  d.build settings >>= Config.document

/-- What pods are told of a job with this image and this account for its pods. -/
def Draft.context (d : Draft) (image account : String) : Context where
  name := d.name
  command := d.command
  image
  serviceAccount := account
  envVars := d.envVars
  outputDir := d.outputDir
  preProvisioner := d.preProvisioner

/-- The document of a draft with this image and this account, for a variant that makes so many pods
of this shape. -/
def Draft.documentOf (d : Draft) (v : Variant) (image account : String) (replicas pods : Nat)
    (shape : Pod.Shape) : JobSet.Document where
  name := d.name
  annotations := JobSet.compileAnnotations ⟨d.name, d.maxTries, d.queue, v.annotations⟩
  maxRestarts := d.maxTries - 1
  replicatedJobs :=
    [Pod.replicatedJob replicas pods (Pod.template shape (d.context image account))]

/-- The draft passes all checks of a job for the cluster and leaves nothing open but its
environment. -/
structure Draft.Complete (d : Draft) (v : Variant) (a : Accelerator) (image account : String) :
    Prop where
  name : d.name ≠ ""
  tries : d.maxTries ≠ 0
  project : d.project ≠ none
  zone : d.zone ≠ none
  account : d.serviceAccount = some account
  variant : d.variant = some v
  label : Kube.Label.fault? d.name = none
  bundler : d.bundler = some (.docker image)
  image : image ≠ ""
  accelerator : d.accelerator = some a
  count : a.count ≠ 0
  check : v.check a = .ok ()

/-- The draft is complete, and this is its document. -/
inductive Draft.Describes (d : Draft) : JobSet.Document → Prop where
  | intro {v : Variant} {a : Accelerator} {image account : String} {shape : Pod.Shape}
      {replicas pods : Nat} (hcomplete : d.Complete v a image account)
      (harranged : Arranged a (d.context image account) v replicas pods shape) :
      d.Describes (d.documentOf v image account replicas pods shape)

/-! ## What is described is compiled -/

/-- A configuration has the document that describes its draft. -/
theorem document_of_describes (h : c.toDraft.Describes doc) : c.document = .ok doc := by
  cases h with
  | @intro v a image account shape replicas pods hcomplete harranged =>
    have hctx : Context.ofConfig c = .ok (c.toDraft.context image account) := by
      have himage : c.image? = some image := by
        rw [Config.image?, show c.bundler = _ from hcomplete.bundler]
        rfl
      rw [Context.ofConfig, himage, show c.serviceAccount = _ from hcomplete.account]
      rfl
    have hreplicated : Replicated.ofConfig c = .ok ⟨v.kind,
        [Pod.replicatedJob replicas pods (Pod.template shape (c.toDraft.context image account))],
        v.annotations⟩ := by
      unfold Replicated.ofConfig
      rw [show c.variant = _ from hcomplete.variant,
        show c.accelerator = _ from hcomplete.accelerator]
      simp only [hcomplete.check, hctx]
      exact congrArg (Except.mapError _) harranged.replicated_eq
    rw [Config.document, JobSetJob.ofConfig, hreplicated]
    exact Except.mapError_eq_ok.mpr
      (JobSet.compile_eq_ok_iff.mpr ⟨hcomplete.tries, checkNames_single _ _ _ _, rfl⟩)

namespace Draft

/-- What is complete can be built, whatever the settings. -/
theorem Complete.exists_build {image account : String} (h : d.Complete v a image account)
    (settings : Settings.Source) : ∃ c, d.build settings = .ok c := by
  obtain ⟨project, hproject⟩ := Option.ne_none_iff_exists'.mp h.project
  obtain ⟨zone, hzone⟩ := Option.ne_none_iff_exists'.mp h.zone
  have hplaced : Placed d.name d.bundler d.accelerator d.variant := by
    rw [h.variant]
    exact .cluster h.label h.bundler h.image h.accelerator h.count h.check
  have hcheck : d.check settings = .ok (d.fill settings project zone) := by
    refine check_eq_ok_iff.mpr
      ⟨h.name, h.tries, project, zone, ?_, ?_, checkPlace_eq_ok_iff.mpr hplaced, rfl⟩
    · rw [hproject, Option.some_or]
    · rw [hzone, Option.some_or]
  exact ⟨_, build_eq_ok_iff.mpr hcheck⟩

namespace Describes

/-- A configuration that is built from the draft describes the same. -/
theorem toDraft (h : d.Describes doc) (hbuild : d.build settings = .ok c) :
    c.toDraft.Describes doc := by
  obtain ⟨project, zone, rfl⟩ := exists_fill_of_build hbuild
  cases h with
  | intro hcomplete harranged =>
    have hpods : d.podAccount settings = d.serviceAccount := by
      rw [podAccount, hcomplete.variant, hcomplete.account]
      rfl
    exact .intro { hcomplete with
      project := Option.some_ne_none project
      zone := Option.some_ne_none zone
      account := hpods.trans hcomplete.account } harranged

/-- So a draft has the document that describes it. -/
theorem document (h : d.Describes doc) (settings : Settings.Source) :
    d.document settings = .ok doc := by
  have hbuild : ∃ c, d.build settings = .ok c := by
    cases h with
    | intro hcomplete => exact hcomplete.exists_build settings
  obtain ⟨c, hbuild⟩ := hbuild
  rw [Draft.document, hbuild]
  exact document_of_describes (h.toDraft hbuild)

end Describes

/-- What is built for the cluster describes its document when it is made a draft again. -/
theorem describes_of_build (hbuild : d.build settings = .ok c) (hv : c.variant = some v) :
    ∃ doc, c.toDraft.Describes doc := by
  have hsettled : c.Settled := settled_of_build hbuild
  obtain ⟨account, haccount⟩ := Option.ne_none_iff_exists'.mp
    (hsettled.account (by rw [hv]; exact Option.some_ne_none v))
  have hplace := hsettled.valid.place
  rw [hv] at hplace
  cases hplace with
  | @cluster _ image a hlabel hbundler himage haccelerator hcount hcheck =>
    obtain ⟨replicas, pods, shape, harranged⟩ :=
      exists_arranged hcheck (c.toDraft.context image account)
    have hcomplete : c.toDraft.Complete v a image account :=
      ⟨hsettled.valid.name, hsettled.valid.tries, Option.some_ne_none _, Option.some_ne_none _,
        haccount, hv, hlabel, hbundler, himage, haccelerator, hcount, hcheck⟩
    exact ⟨_, .intro hcomplete harranged⟩

end Draft

/-- A context says of the job what the configuration says. -/
structure Context.Shares (ctx : Context) (c : Config) : Prop where
  name : ctx.name = c.name
  envVars : ctx.envVars = c.envVars
  outputDir : ctx.outputDir = c.outputDir

/-- A configuration for the cluster that has been built compiles, and the pods of its document are
made from the template of its variant. -/
theorem exists_document (hbuild : d.build settings = .ok c) (hv : c.variant = some v) :
    ∃ job doc a ctx replicas pods shape,
      JobSetJob.ofConfig c = .ok job ∧ job.compile = .ok doc ∧ doc.name = c.name
      ∧ doc.replicatedJobs = [Pod.replicatedJob replicas pods (Pod.template shape ctx)]
      ∧ Arranged a ctx v replicas pods shape ∧ ctx.Shares c := by
  obtain ⟨doc, hdescribes⟩ := Draft.describes_of_build hbuild hv
  obtain ⟨job, hjob, hdoc⟩ := Except.bind_eq_ok.mp (document_of_describes hdescribes)
  cases hdescribes with
  | intro hcomplete harranged =>
    cases hv.symm.trans hcomplete.variant
    exact ⟨job, _, _, _, _, _, _, hjob, hdoc, rfl, rfl, harranged, rfl, rfl, rfl⟩

end Job

end JobLauncher
