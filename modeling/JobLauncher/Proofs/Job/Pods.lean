import Mathlib.Data.List.Nodup
import JobLauncher.Proofs.Job.Documents
import JobLauncher.Proofs.Kube.Label

/-!
# Pods of a document

Documents are read from outside here, field by field as the cluster reads them, so that what is said
of a pod is said of what is submitted.

The main container has the name of the job. That is a label, and nothing else is asked of it, while
the uploader has a name of its own. The two are checked nowhere against each other.

> `container_names_nodup_iff`: the containers of a pod have labels for names, and no two have the
> same, except where a job that keeps its outputs is named like the uploader.
-/

namespace JobLauncher

/-! ## Reading documents -/

/-- Where the specification of the pods is in a replicated job. -/
def Job.Pod.specPath : List String := ["template", "spec", "template", "spec"]

/-- The containers of the pods of a document, if it has one replicated job. -/
def JobSet.Document.containers? (d : JobSet.Document) : Option (List Json) :=
  match d.replicatedJobs with
  | [job] => (job.at? ["template", "spec", "template", "spec", "containers"]).bind Json.items?
  | _ => none

/-! ## Labels of nodes -/

/-- The labels of the nodes of a TPU job, by name. -/
theorem Tpu.ReplicatedJob.get?_selector (r : Tpu.ReplicatedJob) (key : String) :
    r.selector.get? key
      = if key = Tpu.spotSelector ∧ r.options.spot = true then some "true"
        else if key = Tpu.reservationSelector ∧ r.options.reservation ≠ none then
          r.options.reservation
        else if key = Tpu.topologySelector then some r.slice.topology
        else if key = Tpu.acceleratorSelector then some r.slice.accelerator
        else none := by
  have hbase : (Dict.ofList [(Tpu.acceleratorSelector, r.slice.accelerator),
        (Tpu.topologySelector, r.slice.topology)]).get? key
      = if key = Tpu.topologySelector then some r.slice.topology
        else if key = Tpu.acceleratorSelector then some r.slice.accelerator else none := by
    rw [Dict.get?_ofList]
    show List.lookup key [(Tpu.topologySelector, _), (Tpu.acceleratorSelector, _)] = _
    rw [Dict.lookup_cons_if, Dict.lookup_cons_if, List.lookup_nil]
  unfold selector
  cases hspot : r.options.spot with
  | false =>
    cases hreservation : r.options.reservation with
    | none => simp [hbase]
    | some name => simp [Dict.get?_insert, hbase]
  | true =>
    cases hreservation : r.options.reservation with
    | none => simp [Dict.get?_insert, hbase]
    | some name => simp [Dict.get?_insert, hbase]

/-- The capacity that is asked for has labels of its own. -/
theorem Tpu.ReplicatedJob.get?_selector_of_ne (r : Tpu.ReplicatedJob) {key : String}
    (hspot : key ≠ Tpu.spotSelector) (hreservation : key ≠ Tpu.reservationSelector) :
    r.selector.get? key
      = if key = Tpu.topologySelector then some r.slice.topology
        else if key = Tpu.acceleratorSelector then some r.slice.accelerator
        else none := by
  rw [get?_selector, if_neg fun h => hspot h.1, if_neg fun h => hreservation h.1]

namespace Job

variable {d : Draft} {settings : Settings.Source} {c : Config} {v : Variant} {a : Accelerator}
  {ctx : Context} {shape : Pod.Shape} {replicas pods : Nat} {doc : JobSet.Document}

/-- No variant asks for nodes that are made for a job. -/
theorem get?_selector_preProvisionerLabel (h : Arranged a ctx v replicas pods shape) :
    shape.selector.get? Pod.preProvisionerLabel = none := by
  cases h with
  | tpu hslice =>
    show (Tpu.ReplicatedJob.selector _).get? Pod.preProvisionerLabel = none
    rw [Tpu.ReplicatedJob.get?_selector_of_ne _ (by decide) (by decide), if_neg (by decide),
      if_neg (by decide)]
  | gpu hmachine =>
    show (Dict.empty.insert Gpu.acceleratorSelector _).get? Pod.preProvisionerLabel = none
    rw [Dict.get?_insert, if_neg (by decide), Dict.get?_empty]

/-! ## Containers -/

/-- The containers of a document are those of its pods. -/
theorem containers?_of_replicatedJobs
    (h : doc.replicatedJobs = [Pod.replicatedJob replicas pods (Pod.template shape ctx)]) :
    doc.containers? = some (Pod.containers (Pod.mainContainer shape.main ctx) ctx) := by
  unfold JobSet.Document.containers?
  rw [h]
  rfl

/-! ## Names of containers -/

/-- The names of the containers that stand beside the main one. -/
def Config.sidecars (c : Config) : List String :=
  if c.outputDir = none then [] else ["output-uploader"]

/-- They are named after the job and its sidecars. -/
theorem map_name_containers (h : ctx.Shares c) (m : Pod.Main) :
    (Pod.containers (Pod.mainContainer m ctx) ctx).map (Json.textAt? "name")
      = (c.name :: c.sidecars).map some := by
  have hmain : (Pod.mainContainer m ctx).textAt? "name" = some ctx.name := rfl
  rw [Pod.containers, List.map_cons, hmain, h.name, List.map_cons]
  congr 1
  unfold Pod.uploader Config.sidecars
  rw [h.outputDir]
  cases c.outputDir with
  | none => rfl
  | some dir => rfl

/-- The name of a job for the cluster is a label. -/
theorem isLabel_name (h : c.Valid) (hv : c.variant = some v) : Kube.Label.IsLabel c.name := by
  have hplace := h.place
  rw [hv] at hplace
  cases hplace with
  | cluster hlabel => exact Kube.Label.fault?_eq_none_iff.mp hlabel

theorem isLabel_of_mem_sidecars {name : String} (h : name ∈ c.sidecars) :
    Kube.Label.IsLabel name := by
  unfold Config.sidecars at h
  split at h
  next => cases h
  next =>
    rw [List.mem_singleton.mp h]
    exact Kube.Label.fault?_eq_none_iff.mp (by decide)

/-- The names differ unless the job is called like its sidecar and has one. -/
theorem nodup_cons_sidecars_iff (name : String) :
    (name :: c.sidecars).Nodup ↔ ¬(name = "output-uploader" ∧ c.outputDir ≠ none) := by
  unfold Config.sidecars
  cases c.outputDir with
  | none => simp
  | some dir => simp

/-- A job that has been built has a document with containers. -/
theorem exists_containers (hbuild : d.build settings = .ok c) (hv : c.variant = some v) :
    ∃ job doc a ctx replicas pods shape,
      JobSetJob.ofConfig c = .ok job ∧ job.compile = .ok doc ∧ doc.name = c.name
      ∧ doc.containers? = some (Pod.containers (Pod.mainContainer shape.main ctx) ctx)
      ∧ Arranged a ctx v replicas pods shape ∧ ctx.Shares c := by
  obtain ⟨job, doc, a, ctx, replicas, pods, shape, hjob, hdoc, hname, hjobs, hrest⟩ :=
    exists_document hbuild hv
  exact ⟨job, doc, a, ctx, replicas, pods, shape, hjob, hdoc, hname,
    containers?_of_replicatedJobs hjobs, hrest⟩

/-- Every container has a label for a name. No two have the same name, except where a job that keeps
its outputs is named like the uploader. -/
theorem container_names_nodup_iff (hbuild : d.build settings = .ok c) (hv : c.variant = some v) :
    ∃ job doc containers, JobSetJob.ofConfig c = .ok job ∧ job.compile = .ok doc
      ∧ doc.containers? = some containers
      ∧ containers.map (Json.textAt? "name") = (c.name :: c.sidecars).map some
      ∧ (∀ container ∈ containers, ∃ name, container.textAt? "name" = some name
        ∧ ∀ what, Kube.Label.check what name = .ok ())
      ∧ ((containers.map (Json.textAt? "name")).Nodup
        ↔ ¬(c.name = "output-uploader" ∧ c.outputDir ≠ none)) := by
  obtain ⟨job, doc, a, ctx, replicas, pods, shape, hjob, hdoc, -, hcontainers, -, hshares⟩ :=
    exists_containers hbuild hv
  have hnames := map_name_containers hshares shape.main
  refine ⟨job, doc, _, hjob, hdoc, hcontainers, hnames, fun container hmem => ?labels, ?nodup⟩
  case labels =>
    have hname := List.mem_map_of_mem (f := Json.textAt? "name") hmem
    rw [hnames] at hname
    obtain ⟨name, hmem, hname⟩ := List.mem_map.mp hname
    refine ⟨name, hname.symm, fun what => Kube.Label.check_eq_ok_iff.mpr ?_⟩
    rcases List.mem_cons.mp hmem with rfl | hmem
    · exact isLabel_name (Draft.valid_of_build hbuild) hv
    · exact isLabel_of_mem_sidecars hmem
  case nodup =>
    rw [hnames, List.nodup_map_iff fun _ _ => Option.some.inj, nodup_cons_sidecars_iff]

/-- A TPU job that keeps its outputs. -/
def keepingDraft (name : String) : Draft := ({ name } : Draft).applyAll [
  .project "mine", .zone "there", .bundler (.docker "image"), .variant (.tpu {}),
  .accelerator ⟨"tpu-v5litepod-16", 2⟩, .outputDir "gs://bucket/out"]

/-- A job that keeps its outputs has two containers of different names. -/
theorem container_names_nodup_iff_keeping :
    ∃ c, (keepingDraft "train").build (fun _ => none) = .ok c ∧ c.variant = some (.tpu {})
    ∧ ∃ job doc containers, JobSetJob.ofConfig c = .ok job ∧ job.compile = .ok doc
      ∧ doc.containers? = some containers
      ∧ containers.map (Json.textAt? "name") = [some "train", some "output-uploader"]
      ∧ (containers.map (Json.textAt? "name")).Nodup := by
  have hbuild : (keepingDraft "train").build (fun _ => none)
      = .ok ((keepingDraft "train").fill (fun _ => none) "mine" "there") := rfl
  obtain ⟨job, doc, containers, hjob, hdoc, hcontainers, hnames, -, hnodup⟩ :=
    container_names_nodup_iff hbuild rfl
  exact ⟨_, hbuild, rfl, job, doc, containers, hjob, hdoc, hcontainers, hnames,
    hnodup.mpr (by decide)⟩

/-- Named like the uploader, the job is accepted all the same, and two containers of its pods have
one name. -/
theorem containers_named_alike :
    ∃ c, (keepingDraft "output-uploader").build (fun _ => none) = .ok c
    ∧ ∃ job doc containers, JobSetJob.ofConfig c = .ok job ∧ job.compile = .ok doc
      ∧ doc.containers? = some containers
      ∧ containers.map (Json.textAt? "name") = [some "output-uploader", some "output-uploader"]
      ∧ ¬(containers.map (Json.textAt? "name")).Nodup := by
  have hbuild : (keepingDraft "output-uploader").build (fun _ => none)
      = .ok ((keepingDraft "output-uploader").fill (fun _ => none) "mine" "there") := rfl
  obtain ⟨job, doc, a, ctx, replicas, pods, shape, hjob, hdoc, -, hcontainers, -, hshares⟩ :=
    exists_containers hbuild rfl
  have hnames := map_name_containers hshares shape.main
  refine ⟨_, hbuild, job, doc, _, hjob, hdoc, hcontainers, hnames, ?_⟩
  rw [hnames]
  decide

end Job

end JobLauncher
