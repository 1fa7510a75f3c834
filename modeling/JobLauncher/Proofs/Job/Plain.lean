import JobLauncher.Proofs.Job.Documents
import JobLauncher.Proofs.Json.Reading

/-!
# Documents are plain

Nothing is lost when a document is printed and read again: all its objects list their fields in key
order, whatever the names and values in them are, and all its numbers are short. This goes through
the parts of a document, one lemma for each.

> `plain_submit`: the document of a job that has been built is plain under every version.
-/

namespace JobLauncher

open Json (Plain)

/-! ## Parts of any document -/

namespace Json

attribute [simp] Plain.null Plain.bool Plain.str

/-- An object whose keys are known. -/
theorem Plain.ofKeys {fields : List (String × Json)} (keys : List String)
    (hkeys : fields.map (·.1) = keys) (hsorted : keys.Pairwise (· < ·))
    (hfields : ∀ f ∈ fields, Plain f.2) : Plain (.obj fields) :=
  .obj (List.pairwise_map.mp (hkeys ▸ hsorted)) hfields

/-- A list of texts is plain. -/
@[simp] theorem plain_strings (l : List String) : Plain (strings l) := by
  refine .arr fun v hv => ?_
  obtain ⟨s, -, rfl⟩ := List.mem_map.mp hv
  exact .str s

/-- So is an object of texts, which a dictionary lists in key order. -/
@[simp] theorem plain_ofTexts (d : Dict String) : Plain (ofTexts d) := by
  refine .obj (d.map Json.str).sorted fun f hf => ?_
  obtain ⟨e, -, rfl⟩ := List.mem_map.mp hf
  exact .str e.2

/-- Counts of 32 bits are short enough. -/
theorem plain_uint32 (n : UInt32) : Plain (Json.nat n.toNat) :=
  .nat (Nat.lt_trans n.toNat_lt (by decide))

end Json

namespace Job

variable {d : Draft} {settings : Settings.Source} {c : Config} {v : Variant} {a : Accelerator}
  {ctx : Context} {shape : Pod.Shape} {replicas pods : Nat}

/-! ## Pods -/

namespace Pod

/-- A variable with its value is plain, whatever the two are. -/
@[simp] theorem plain_envVar (name value : String) : Plain (envVar name value) :=
  .ofKeys ["name", "value"] rfl (by decide) (by simp)

/-- So is one that gets its value from the index of its pod. -/
@[simp] theorem plain_indexVar (name : String) : Plain (indexVar name) := by
  have hpath : Plain (.obj [("fieldPath",
      .str ("metadata.annotations['" ++ completionIndexAnnotation ++ "']"))]) :=
    .ofKeys ["fieldPath"] rfl (by decide) (by simp)
  have hfield : Plain (.obj [("fieldRef", .obj [("fieldPath",
      .str ("metadata.annotations['" ++ completionIndexAnnotation ++ "']"))])]) :=
    .ofKeys ["fieldRef"] rfl (by decide) (by simp [hpath])
  exact .ofKeys ["name", "valueFrom"] rfl (by decide) (by simp [hfield])

@[simp] theorem plain_mount (path volume : String) : Plain (mount path volume) :=
  .ofKeys ["mountPath", "name"] rfl (by decide) (by simp)

/-- A volume is plain if its options are. -/
theorem plain_emptyDir (volume : String) {options : List (String × Json)}
    (h : Plain (.obj options)) : Plain (emptyDir volume options) :=
  .ofKeys ["emptyDir", "name"] rfl (by decide) (by simp [h])

/-- What is particular to the pods of a job is plain. -/
structure Shape.IsPlain (s : Shape) : Prop where
  env : ∀ e ∈ s.main.env, Plain e
  ports : ∀ port ∈ s.main.ports, port < UInt64.size
  mounts : ∀ m ∈ s.main.mounts, Plain m
  tolerations : ∀ t ∈ s.tolerations, Plain t
  volumes : ∀ volume ∈ s.volumes, Plain volume

/-- The main container is plain if what is particular to the job is. -/
theorem plain_mainContainer (h : shape.IsPlain) (ctx : Context) :
    Plain (mainContainer shape.main ctx) := by
  have henv : Plain (.arr (env shape.main.env ctx)) := by
    refine .arr (List.forall_mem_append.mpr ⟨h.env, fun e he => ?_⟩)
    obtain ⟨x, -, rfl⟩ := List.mem_map.mp he
    exact plain_envVar x.1 x.2
  have hports : Plain (.arr (shape.main.ports.map fun port =>
      .obj [("containerPort", Json.nat port)])) := by
    refine .arr fun p hp => ?_
    obtain ⟨port, hport, rfl⟩ := List.mem_map.mp hp
    exact .ofKeys ["containerPort"] rfl (by decide) (by simp [Plain.nat (h.ports port hport)])
  have hlimits : Plain (.obj [("limits",
      .obj [(shape.main.resource, .str shape.main.amount.repr)])]) := by
    refine .ofKeys ["limits"] rfl (by decide) (List.forall_mem_singleton.mpr ?_)
    exact .obj (List.pairwise_singleton ..) (by simp)
  have hcontext : Plain (.obj [("privileged", .bool true)]) :=
    .ofKeys ["privileged"] rfl (by decide) (by simp)
  have hmounts : Plain (.arr (shape.main.mounts ++ (outputMount ctx).toList)) := by
    refine .arr (List.forall_mem_append.mpr ⟨h.mounts, fun m hm => ?_⟩)
    obtain ⟨dir, -, rfl⟩ := Option.map_eq_some_iff.mp (Option.mem_toList.mp hm)
    exact plain_mount _ _
  -- the keys are listed in their order; what is left is about the values
  refine .ofKeys ["command", "env", "image", "imagePullPolicy", "name", "ports", "resources",
    "securityContext", "volumeMounts"] rfl (by decide) ?_
  simp [command, henv, hports, hlimits, hcontext, hmounts]

theorem plain_uploader {container : Json} (h : uploader ctx = some container) :
    Plain container := by
  obtain ⟨dir, -, rfl⟩ := Option.map_eq_some_iff.mp h
  have hmounts : Plain (.arr [mount outputPath outputVolumeName]) := .arr (by simp)
  exact .ofKeys ["command", "image", "name", "volumeMounts"] rfl (by decide) (by simp [hmounts])

theorem plain_template (h : shape.IsPlain) (ctx : Context) : Plain (template shape ctx) := by
  have hlabels : Plain (.obj [("labels", .obj [("app", .str ctx.name)])]) := by
    refine .ofKeys ["labels"] rfl (by decide) (List.forall_mem_singleton.mpr ?_)
    exact .ofKeys ["app"] rfl (by decide) (by simp)
  have hcontainers : Plain (.arr (containers (mainContainer shape.main ctx) ctx)) :=
    .arr (List.forall_mem_cons.mpr ⟨plain_mainContainer h ctx,
      fun container hmem => plain_uploader (Option.mem_toList.mp hmem)⟩)
  have htolerations : Plain (.arr shape.tolerations) := .arr h.tolerations
  have hvolumes : Plain (.arr (shape.volumes ++ (outputVolume ctx).toList)) := by
    refine .arr (List.forall_mem_append.mpr ⟨h.volumes, fun volume hvolume => ?_⟩)
    obtain ⟨dir, -, rfl⟩ := Option.map_eq_some_iff.mp (Option.mem_toList.mp hvolume)
    exact plain_emptyDir _ (.obj .nil (by simp))
  have hspec : Plain (.obj [
      ("containers", .arr (containers (mainContainer shape.main ctx) ctx)),
      ("dnsPolicy", .str "ClusterFirstWithHostNet"),
      ("hostNetwork", .bool true),
      ("nodeSelector", Json.ofTexts (nodeSelector ctx shape.selector)),
      ("restartPolicy", .str "Never"),
      ("serviceAccountName", .str ctx.serviceAccount),
      ("tolerations", .arr shape.tolerations),
      ("volumes", .arr (shape.volumes ++ (outputVolume ctx).toList))]) := by
    refine .ofKeys ["containers", "dnsPolicy", "hostNetwork", "nodeSelector", "restartPolicy",
      "serviceAccountName", "tolerations", "volumes"] rfl (by decide) ?_
    simp [hcontainers, htolerations, hvolumes]
  exact .ofKeys ["metadata", "spec"] rfl (by decide) (by simp [hlabels, hspec])

/-- A job is plain if its pods are and their numbers are short. -/
theorem plain_replicatedJob (hreplicas : replicas < UInt64.size) (hpods : pods < UInt64.size)
    {pod : Json} (hpod : Plain pod) : Plain (replicatedJob replicas pods pod) := by
  have hspec : Plain (.obj [
      ("backoffLimit", Json.nat 0),
      ("completionMode", .str "Indexed"),
      ("completions", Json.nat pods),
      ("parallelism", Json.nat pods),
      ("template", pod)]) := by
    refine .ofKeys ["backoffLimit", "completionMode", "completions", "parallelism", "template"] rfl
      (by decide) ?_
    simp [Plain.nat (n := 0) (by decide), Plain.nat hpods, hpod]
  have htemplate : Plain (.obj [("spec", .obj [
      ("backoffLimit", Json.nat 0),
      ("completionMode", .str "Indexed"),
      ("completions", Json.nat pods),
      ("parallelism", Json.nat pods),
      ("template", pod)])]) :=
    .ofKeys ["spec"] rfl (by decide) (List.forall_mem_singleton.mpr hspec)
  exact .ofKeys ["name", "replicas", "template"] rfl (by decide)
    (by simp [Plain.nat hreplicas, htemplate])

end Pod

/-! ## Accelerators -/

theorem plain_toleration (key value : String) : Plain (Tpu.ReplicatedJob.toleration key value) :=
  .ofKeys ["effect", "key", "operator", "value"] rfl (by decide) (by simp)

theorem plain_sharedMemory (o : Gpu.Options) : Plain (Gpu.ReplicatedJob.sharedMemory o) := by
  refine Pod.plain_emptyDir _ ?_
  cases o.sharedMemoryLimit with
  | none => exact .ofKeys ["medium"] rfl (by decide) (by simp)
  | some limit => exact .ofKeys ["medium", "sizeLimit"] rfl (by decide) (by simp)

/-- No slice has many machines. -/
theorem vmsPerSlice_lt {t : String} {slice : Tpu.Slice} (h : Tpu.slice? t = some slice) :
    slice.vmsPerSlice < UInt64.size := by
  have hall : ∀ e ∈ Tpu.slices, e.2.vmsPerSlice < 256 := by decide
  obtain ⟨before, after, hsplit, -⟩ := List.lookup_eq_some_iff.mp h
  have hmem : (t, slice) ∈ Tpu.slices := hsplit ▸ List.mem_append_right _ List.mem_cons_self
  exact Nat.lt_trans (hall _ hmem) (by decide)

/-- What an accelerator adds to its pods is plain. -/
theorem Arranged.isPlain (h : Arranged a ctx v replicas pods shape) : shape.IsPlain := by
  cases h with
  | @tpu o slice hslice hcapacity =>
    refine ⟨by simp [Tpu.ReplicatedJob.shape], ?ports, by simp [Tpu.ReplicatedJob.shape],
      fun t ht => ?tolerations, by simp [Tpu.ReplicatedJob.shape]⟩
    case ports =>
      -- the ports are numbers that are written down, and the bound can be checked
      show ∀ port ∈ Tpu.ports, port < UInt64.size
      decide
    case tolerations =>
      have ht : t ∈ Tpu.ReplicatedJob.tolerations ⟨ctx, slice, a.count, o⟩ := ht
      unfold Tpu.ReplicatedJob.tolerations at ht
      rcases List.mem_cons.mp ht with rfl | hspot
      · exact plain_toleration _ _
      · split at hspot
        · rw [List.mem_singleton.mp hspot]
          exact plain_toleration _ _
        · cases hspot
  | @gpu o machine hmachine =>
    have htoleration : Plain (.obj [
        ("effect", .str "NoSchedule"),
        ("key", .str Gpu.resource),
        ("operator", .str "Exists")]) :=
      .ofKeys ["effect", "key", "operator"] rfl (by decide) (by simp)
    refine ⟨by simp [Gpu.ReplicatedJob.shape], ?ports, by simp [Gpu.ReplicatedJob.shape],
      List.forall_mem_singleton.mpr htoleration,
      List.forall_mem_singleton.mpr (plain_sharedMemory o)⟩
    case ports =>
      show ∀ port ∈ [Gpu.coordinatorPort], port < UInt64.size
      decide

/-- There are no more copies and pods than can be counted. -/
theorem Arranged.counts_lt (h : Arranged a ctx v replicas pods shape) :
    replicas < UInt64.size ∧ pods < UInt64.size := by
  have hcount : a.count.toNat < UInt64.size := Nat.lt_trans a.count.toNat_lt (by decide)
  cases h with
  | tpu hslice hcapacity => exact ⟨hcount, vmsPerSlice_lt hslice⟩
  | gpu hmachine => exact ⟨by decide, hcount⟩

/-! ## Documents -/

/-- A document is plain if its jobs are. -/
theorem plain_toJson {doc : JobSet.Document} (hjobs : ∀ job ∈ doc.replicatedJobs, Plain job)
    (version : String) : Plain (doc.submit version).toJson := by
  have hmetadata : Plain doc.metadataJson :=
    .ofKeys ["annotations", "name"] rfl (by decide) (by simp)
  have hpolicy : Plain (.obj [("maxRestarts", Json.nat doc.maxRestarts.toNat)]) :=
    .ofKeys ["maxRestarts"] rfl (by decide)
      (List.forall_mem_singleton.mpr (Json.plain_uint32 doc.maxRestarts))
  have hspec : Plain doc.specJson :=
    .ofKeys ["failurePolicy", "replicatedJobs"] rfl (by decide)
      (by simp [hpolicy, Plain.arr hjobs])
  exact .ofKeys ["apiVersion", "kind", "metadata", "spec"] rfl (by decide)
    (by simp [JobSet.Document.submit, hmetadata, hspec])

/-- The document of a job that has been built is plain. -/
theorem plain_submit (hbuild : d.build settings = .ok c) (hv : c.variant = some v)
    {job : JobSetJob} {doc : JobSet.Document} (hjob : JobSetJob.ofConfig c = .ok job)
    (hdoc : job.compile = .ok doc) (version : String) : Plain (doc.submit version).toJson := by
  obtain ⟨job', doc', a, ctx, replicas, pods, shape, hjob', hdoc', -, hjobs, harranged, -⟩ :=
    exists_document hbuild hv
  cases hjob.symm.trans hjob'
  cases hdoc.symm.trans hdoc'
  refine plain_toJson (fun job hmem => ?_) version
  rw [hjobs] at hmem
  obtain ⟨hreplicas, hpods⟩ := harranged.counts_lt
  rw [List.mem_singleton.mp hmem]
  exact Pod.plain_replicatedJob hreplicas hpods (Pod.plain_template harranged.isPlain ctx)

end Job

end JobLauncher
