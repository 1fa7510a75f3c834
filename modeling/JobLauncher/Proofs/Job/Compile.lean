import JobLauncher.Control.Job
import JobLauncher.Proofs.Job.Validity
import JobLauncher.Proofs.JobSet.Compile

/-!
# Valid configurations compile

The jobs of a configuration, its replicated jobs and the document are made one from the other, and
each of these steps checks for itself what it needs. Once a configuration is valid, none of them
fails.

A configuration need not be fresh from its first draft: drafts are derived from configurations and
built again, under other settings. `Draft.Reachable` holds of every draft that comes about in this
way.
-/

namespace JobLauncher.Job

open Accelerator JobSet

variable {c : Config} {v : Variant} {a : Accelerator}

/-- A draft to which a job has come by changes and by building it and deriving a draft from it
again. -/
inductive Draft.Reachable : Draft → Prop where
  | named (name : String) : Draft.Reachable { name }
  | edited {d : Draft} (h : d.Reachable) (e : Edit) : (d.apply e).Reachable
  | derived {d : Draft} {settings : Settings.Source} {c : Config} (h : d.Reachable)
      (hbuild : d.build settings = .ok c) : c.toDraft.Reachable

/-- A configuration that is built from such a draft. -/
def Config.Reachable (c : Config) : Prop :=
  ∃ (d : Draft) (settings : Settings.Source), d.Reachable ∧ d.build settings = .ok c

theorem Draft.Reachable.applyAll {d : Draft} (h : d.Reachable) (edits : List Edit) :
    (d.applyAll edits).Reachable := by
  induction edits generalizing d with
  | nil => exact h
  | cons e rest ih => exact ih (h.edited e)

theorem Config.Reachable.valid (h : c.Reachable) : c.Valid := by
  obtain ⟨d, settings, -, hbuild⟩ := h
  exact Draft.valid_of_build hbuild

/-! ## Replicated jobs -/

/-- What passes the check for slices has one to run on. -/
theorem replicated_tpu {o : Tpu.Options} (h : (Variant.tpu o).check a = .ok ()) (ctx : Context) :
    ∃ slice, Tpu.slice? a.instanceType = some slice ∧ checkCapacity o = .ok ()
      ∧ Replicated.of (.tpu o) a ctx
        = .ok (Tpu.ReplicatedJob.replicated ⟨ctx, slice, a.count, o⟩) := by
  unfold Variant.check at h
  split at h
  · cases h
  cases hslice : Tpu.slice? a.instanceType with
  | none =>
    rw [hslice] at h
    cases h
  | some slice =>
    rw [hslice] at h
    replace h : checkCapacity o = .ok () := h
    refine ⟨slice, rfl, h, ?_⟩
    simp only [Replicated.of, Tpu.ReplicatedJob.of, hslice, h]
    rfl

theorem replicated_gpu {o : Gpu.Options} (h : (Variant.gpu o).check a = .ok ()) (ctx : Context) :
    ∃ machine, Gpu.machine? a.instanceType = some machine
      ∧ Replicated.of (.gpu o) a ctx
        = .ok (Gpu.ReplicatedJob.replicated ⟨ctx, machine, a.count, o⟩) := by
  unfold Variant.check at h
  split at h
  · cases h
  cases hmachine : Gpu.machine? a.instanceType with
  | none =>
    rw [hmachine] at h
    cases h
  | some machine =>
    refine ⟨machine, rfl, ?_⟩
    simp only [Replicated.of, Gpu.ReplicatedJob.of, hmachine]
    rfl

/-- The one replicated job of any variant has a name. -/
theorem checkNames_single (job : String) (replicas pods : Nat) (pod : Json) :
    checkNames job 0 [] [Pod.replicatedJob replicas pods pod] = .ok () := rfl

/-- The annotation that a variant asks for. -/
def topology? : Variant → String → Option String
  | .tpu _, key => if key = exclusiveTopologyAnnotation then some nodePoolTopology else none
  | .gpu _, _ => none

/-- No variant asks for a queue. -/
theorem topology?_queueAnnotation (v : Variant) : topology? v queueAnnotation = none := by
  cases v with
  | tpu o =>
    have hne : queueAnnotation ≠ exclusiveTopologyAnnotation := by decide
    rw [topology?, if_neg hne]
  | gpu o => rfl

/-- What the replicated jobs of an accelerator are like that its variant accepts. -/
theorem replicated_of_check (h : v.check a = .ok ()) (ctx : Context) :
    ∃ r, Replicated.of v a ctx = .ok r ∧ r.kind = v.kind
      ∧ (∃ replicas pods pod, r.jobs = [Pod.replicatedJob replicas pods pod])
      ∧ ∀ key, r.annotations.get? key = topology? v key := by
  cases v with
  | tpu o =>
    obtain ⟨slice, -, -, hr⟩ := replicated_tpu h ctx
    refine ⟨_, hr, rfl, ⟨_, _, _, rfl⟩, fun key => ?_⟩
    exact Dict.get?_insert Dict.empty exclusiveTopologyAnnotation nodePoolTopology key
  | gpu o =>
    obtain ⟨machine, -, hr⟩ := replicated_gpu h ctx
    exact ⟨_, hr, rfl, ⟨_, _, _, rfl⟩, fun key => rfl⟩

/-- A valid configuration for the cluster has all that its replicated jobs are made from. -/
theorem replicated_ofConfig (h : c.Valid) (hv : c.variant = some v) :
    ∃ a ctx, v.check a = .ok () ∧ Context.ofConfig c = .ok ctx
      ∧ Replicated.ofConfig c
        = (Replicated.of v a ctx).mapError fun f => .config c.name f.message := by
  have hplace := h.place
  rw [hv] at hplace
  cases hplace with
  | @cluster _ image a hlabel hbundler himage haccelerator hcount hcheck =>
    have hctx : ∃ ctx, Context.ofConfig c = .ok ctx := by
      have himage : c.image? = some image := by rw [Config.image?, hbundler]; rfl
      exact ⟨_, by rw [Context.ofConfig, himage]⟩
    obtain ⟨ctx, hctx⟩ := hctx
    refine ⟨a, ctx, hcheck, hctx, ?_⟩
    unfold Replicated.ofConfig
    rw [hv, haccelerator]
    simp only [hcheck, hctx]
    rfl

/-! ## Documents -/

/-- The annotations of the document of a job: its queue and the topology of its variant. -/
def Config.annotation? (c : Config) (v : Variant) (key : String) : Option String :=
  if key = queueAnnotation then c.queue else topology? v key

/-- A valid configuration compiles with the jobs of its accelerator, and carries its own
annotations. -/
theorem compile_of_valid (h : c.Valid) {r : Replicated}
    (hjobs : ∃ replicas pods pod, r.jobs = [Pod.replicatedJob replicas pods pod])
    (hannotations : ∀ key, r.annotations.get? key = topology? v key) :
    ∃ doc, c.compile r = .ok doc ∧ doc.name = c.name
      ∧ doc.maxRestarts.toNat + 1 = c.maxTries.toNat ∧ doc.replicatedJobs = r.jobs
      ∧ ∀ key, doc.annotation? key = c.annotation? v key := by
  obtain ⟨replicas, pods, pod, hjobs⟩ := hjobs
  have hnames : checkNames c.name 0 [] r.jobs = .ok () := by
    rw [hjobs]
    exact checkNames_single c.name replicas pods pod
  have hdoc : JobSet.compile (c.plan r.annotations) r.jobs = .ok _ :=
    compile_eq_ok_iff.mpr ⟨h.tries, hnames, rfl⟩
  refine ⟨_, Except.mapError_eq_ok.mpr hdoc, rfl, ?_, rfl, fun key => ?_⟩
  · have hpos : 0 < c.maxTries.toNat :=
      Nat.pos_of_ne_zero fun hzero => h.tries (UInt32.toNat_inj.mp hzero)
    have hone : (c.maxTries - 1).toNat = c.maxTries.toNat - 1 :=
      UInt32.toNat_sub_of_le c.maxTries 1 hpos
    show (c.maxTries - 1).toNat + 1 = c.maxTries.toNat
    omega
  · rw [annotation?_of_compile hdoc]
    unfold Config.annotation?
    by_cases hkey : key = queueAnnotation
    · subst hkey
      rw [if_pos rfl, if_pos rfl]
      show c.queue.or (r.annotations.get? queueAnnotation) = c.queue
      rw [hannotations, topology?_queueAnnotation, Option.or_none]
    · rw [if_neg hkey, if_neg hkey]
      exact hannotations key

/-- A valid configuration with a variant is a job for the cluster, and it compiles. -/
theorem exists_jobSet_of_valid (h : c.Valid) (hv : c.variant = some v) :
    ∃ job doc, job.config = c ∧ JobSetJob.ofConfig c = .ok job
      ∧ Job.ofConfig c = .ok (.jobSet job) ∧ job.compile = .ok doc := by
  have hcluster : c.isJobSet := by rw [Config.isJobSet, hv]; rfl
  obtain ⟨a, ctx, hcheck, -, heq⟩ := replicated_ofConfig h hv
  obtain ⟨r, hr, -, hjobs, hannotations⟩ := replicated_of_check hcheck ctx
  obtain ⟨doc, hdoc, -⟩ := compile_of_valid h hjobs hannotations
  have hjobSet : JobSetJob.ofConfig c = .ok ⟨c, r⟩ := by
    rw [JobSetJob.ofConfig, heq, hr]
    rfl
  exact ⟨⟨c, r⟩, doc, rfl, hjobSet, by rw [Job.ofConfig, if_pos hcluster, hjobSet]; rfl, hdoc⟩

/-- No configuration that comes about by building fails later on. One without a variant is a job for
a machine. One with a variant is a job for the cluster, with one replicated job that goes into a
document under the name of the configuration, with all tries but the first as restarts, and with the
queue and the topology as the only annotations. -/
theorem reachable_compiles (h : c.Reachable) :
    (c.variant = none → Job.ofConfig c = .ok (.vm { config := c }))
    ∧ ∀ v, c.variant = some v → ∃ ctx r doc,
        Context.ofConfig c = .ok ctx
        ∧ Replicated.ofConfig c = .ok r
        ∧ r.kind = v.kind
        ∧ JobSetJob.ofConfig c = .ok ⟨c, r⟩
        ∧ Job.ofConfig c = .ok (.jobSet ⟨c, r⟩)
        ∧ JobSetJob.compile ⟨c, r⟩ = .ok doc
        ∧ doc.name = c.name
        ∧ doc.maxRestarts.toNat + 1 = c.maxTries.toNat
        ∧ doc.replicatedJobs.length = 1
        ∧ ∀ key, doc.annotation? key = c.annotation? v key := by
  refine ⟨fun hv => ?_, fun v hv => ?_⟩
  · have hmachine : ¬c.isJobSet := by rw [Config.isJobSet, hv]; decide
    exact if_neg hmachine
  · have hcluster : c.isJobSet := by rw [Config.isJobSet, hv]; rfl
    obtain ⟨a, ctx, hcheck, hctx, heq⟩ := replicated_ofConfig h.valid hv
    obtain ⟨r, hr, hkind, hjobs, hannotations⟩ := replicated_of_check hcheck ctx
    have hofConfig : Replicated.ofConfig c = .ok r := by rw [heq, hr]; rfl
    have hjobSet : JobSetJob.ofConfig c = .ok ⟨c, r⟩ := by rw [JobSetJob.ofConfig, hofConfig]; rfl
    have hjob : Job.ofConfig c = .ok (.jobSet ⟨c, r⟩) := by
      rw [Job.ofConfig, if_pos hcluster, hjobSet]
      rfl
    obtain ⟨doc, hdoc, hname, hrestarts, hdocJobs, hdocAnnotations⟩ :=
      compile_of_valid h.valid hjobs hannotations
    have hlength : doc.replicatedJobs.length = 1 := by
      obtain ⟨replicas, pods, pod, hone⟩ := hjobs
      rw [hdocJobs, hone]
      rfl
    exact ⟨ctx, r, doc, hctx, hofConfig, hkind, hjobSet, hjob, hdoc, hname, hrestarts, hlength,
      hdocAnnotations⟩

/-- A TPU job that leaves its project and its zone to the settings. -/
def trainDraft : Draft := ({ name := "train" } : Draft).applyAll [
  .bundler (.docker "image"), .variant (.tpu {}), .accelerator ⟨"tpu-v5litepod-16", 2⟩, .maxTries 3]

/-- Settings that say the same of everything. -/
def trainSettings : Settings.Source := fun _ => some "here"

/-- The draft of the job once it has been built, for a queue. -/
def requeuedDraft : Draft :=
  (trainDraft.fill trainSettings "here" "here").toDraft.apply (.queue "team")

/-- A job that is built, changed and built again compiles with the queue it has got. -/
theorem reachable_compiles_requeued : ∃ c r doc,
    c.queue = some "team" ∧ JobSetJob.compile ⟨c, r⟩ = .ok doc ∧ doc.maxRestarts.toNat + 1 = 3
      ∧ doc.annotation? queueAnnotation = some "team"
      ∧ doc.annotation? exclusiveTopologyAnnotation = some nodePoolTopology := by
  have hdraft : trainDraft.Reachable := (Draft.Reachable.named "train").applyAll _
  have hbuild : trainDraft.build trainSettings
      = .ok (trainDraft.fill trainSettings "here" "here") := rfl
  -- the second time, there are no settings to fall back on
  have hrebuild : requeuedDraft.build (fun _ => none)
      = .ok (requeuedDraft.fill (fun _ => none) "here" "here") := rfl
  obtain ⟨-, hcluster⟩ :=
    reachable_compiles ⟨requeuedDraft, _, (hdraft.derived hbuild).edited _, hrebuild⟩
  obtain ⟨ctx, r, doc, -, -, -, -, -, hdoc, -, hrestarts, -, hannotations⟩ := hcluster (.tpu {}) rfl
  exact ⟨_, r, doc, rfl, hdoc, hrestarts, hannotations queueAnnotation,
    hannotations exclusiveTopologyAnnotation⟩

end JobLauncher.Job
