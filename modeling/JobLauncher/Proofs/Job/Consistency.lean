import JobLauncher.Proofs.Job.Variables

/-!
# Parts of a document that have to agree

What a document says in one place has to fit what it says in others. Pods are told how many there
are of them, the address of the first is made from the names of the document and of its job, and
containers mount the volumes of their pod. Nothing checks this, and where it fails, pods wait for
each other.

Volumes and mounts are a matter of the variant and of whether outputs are kept. Outputs add one
volume and its mounts to those of any variant (`Pod.Fit.extend`).

> `parts_agree`: the numbers, names, ports, labels and volumes of a document agree with each other
> and with the accelerator.
-/

namespace JobLauncher

/-- The volumes that pods of the variant have in any case. -/
def Variant.volumes : Variant → List String
  | .tpu _ => []
  | .gpu _ => ["shared-memory"]

/-- What the main containers of the variant mount in any case, each path with the name of its
volume. -/
def Variant.mounts : Variant → List (String × String)
  | .tpu _ => []
  | .gpu _ => [("/dev/shm", "shared-memory")]

theorem Json.field?_ofTexts (d : Dict String) (key : String) :
    (Json.ofTexts d).field? key = (d.get? key).map .str :=
  Dict.get?_map Json.str d key

namespace Job

variable {d : Draft} {settings : Settings.Source} {c : Config} {v : Variant} {a : Accelerator}
  {ctx : Context} {shape : Pod.Shape} {replicas pods : Nat}

/-! ## Volumes and mounts -/

namespace Pod

/-- The pod has volumes of these names. -/
def HasVolumes (pod : Json) (names : List String) : Prop :=
  ∃ items, pod.field? "volumes" = some (.arr items)
    ∧ items.map (Json.textAt? "name") = names.map some

/-- The container mounts these, each path with the name of its volume. -/
def HasMounts (container : Json) (mounts : List (String × String)) : Prop :=
  ∃ items, container.field? "volumeMounts" = some (.arr items)
    ∧ items.map (fun m => (m.textAt? "mountPath", m.textAt? "name"))
      = mounts.map (Prod.map some some)

/-- The volumes have different names, the mounts have different paths, and each mount is of one
volume. -/
structure Fit (volumes : List String) (mounts : List (String × String)) : Prop where
  names : volumes.Nodup
  paths : (mounts.map (·.1)).Nodup
  single : ∀ m ∈ mounts, volumes.count m.2 = 1

/-- What the containers of the pod mount fits the volumes of the pod. -/
def Linked (pod : Json) : Prop :=
  ∃ volumes containers, HasVolumes pod volumes ∧ pod.field? "containers" = some (.arr containers)
    ∧ ∀ container ∈ containers, ∃ mounts, HasMounts container mounts ∧ Fit volumes mounts

namespace Fit

variable {volumes : List String} {mounts more : List (String × String)} {volume path : String}

/-- A volume with a new name can be mounted at a new path. -/
theorem extend (h : Fit volumes mounts) (hvolume : volume ∉ volumes)
    (hpath : path ∉ mounts.map (·.1)) :
    Fit (volumes ++ [volume]) (mounts ++ [(path, volume)]) := by
  have hnames : (volumes ++ [volume]).Nodup :=
    List.nodup_append_comm.mpr (List.nodup_cons.mpr ⟨hvolume, h.names⟩)
  have hpaths : ((mounts ++ [(path, volume)]).map (·.1)).Nodup := by
    rw [List.map_append]
    exact List.nodup_append_comm.mpr (List.nodup_cons.mpr ⟨hpath, h.paths⟩)
  refine ⟨hnames, hpaths, List.forall_mem_append.mpr ⟨fun m hm => ?_, ?_⟩⟩
  · have hdeclared : m.2 ∈ volumes := List.count_pos_iff.mp (by rw [h.single m hm]; decide)
    exact List.count_eq_one_of_mem hnames (List.mem_append_left _ hdeclared)
  · exact List.forall_mem_singleton.mpr
      (List.count_eq_one_of_mem hnames (List.mem_append_right _ List.mem_cons_self))

/-- Mounts that fit with others fit without them. -/
theorem of_append_right (h : Fit volumes (mounts ++ more)) : Fit volumes more where
  names := h.names
  paths := (List.map_append ▸ h.paths).of_append_right
  single := (List.forall_mem_append.mp h.single).2

/-- The mounts of a variant fit its volumes. -/
theorem variant (v : Variant) : Fit v.volumes v.mounts := by
  cases v with
  | tpu o => exact ⟨List.nodup_nil, List.nodup_nil, List.forall_mem_nil _⟩
  | gpu o =>
    exact ⟨List.nodup_singleton _, List.nodup_singleton _, List.forall_mem_singleton.mpr rfl⟩

end Fit

/-- The mount for outputs, if they are kept. -/
def outputs (ctx : Context) : List (String × String) :=
  if ctx.outputDir = none then [] else [("/output", "shared-output")]

/-- No variant uses the volume for outputs or its path. -/
theorem fit_outputs (v : Variant) (ctx : Context) :
    Fit (v.volumes ++ (outputs ctx).map (·.2)) (v.mounts ++ outputs ctx) := by
  unfold outputs
  split
  next =>
    rw [List.map_nil, List.append_nil, List.append_nil]
    exact .variant v
  next =>
    have hvolume : "shared-output" ∉ v.volumes := by
      cases v with
      | tpu o => exact List.not_mem_nil
      | gpu o =>
        show "shared-output" ∉ ["shared-memory"]
        decide
    have hpath : "/output" ∉ v.mounts.map (·.1) := by
      cases v with
      | tpu o => exact List.not_mem_nil
      | gpu o =>
        show "/output" ∉ ["/dev/shm"]
        decide
    exact (Fit.variant v).extend hvolume hpath

/-- A pod has the volumes of its variant, and the one for outputs if there are any. -/
theorem hasVolumes_template (h : Arranged a ctx v replicas pods shape) {pod : Json}
    (hpod : (template shape ctx).field? "spec" = some pod) :
    HasVolumes pod (v.volumes ++ (outputs ctx).map (·.2)) := by
  obtain rfl := Option.some.inj hpod
  refine ⟨_, rfl, ?_⟩
  have hvariant : shape.volumes.map (Json.textAt? "name") = v.volumes.map some := by
    cases h with
    | tpu => rfl
    | gpu => rfl
  rw [List.map_append, List.map_append, hvariant]
  congr 1
  unfold outputVolume outputs
  cases ctx.outputDir with
  | none => rfl
  | some dir => rfl

/-- The main container mounts all of them. -/
theorem hasMounts_main (h : Arranged a ctx v replicas pods shape) :
    HasMounts (mainContainer shape.main ctx) (v.mounts ++ outputs ctx) := by
  refine ⟨_, rfl, ?_⟩
  have hvariant : shape.main.mounts.map (fun m => (m.textAt? "mountPath", m.textAt? "name"))
      = v.mounts.map (Prod.map some some) := by
    cases h with
    | tpu => rfl
    | gpu => rfl
  rw [List.map_append, List.map_append, hvariant]
  congr 1
  unfold outputMount outputs
  cases ctx.outputDir with
  | none => rfl
  | some dir => rfl

theorem hasMounts_uploader {container : Json} (h : uploader ctx = some container) :
    HasMounts container (outputs ctx) := by
  obtain ⟨dir, hdir, rfl⟩ := Option.map_eq_some_iff.mp h
  have houtputs : outputs ctx = [("/output", "shared-output")] :=
    if_neg (by rw [hdir]; exact Option.some_ne_none dir)
  rw [houtputs]
  exact ⟨_, rfl, rfl⟩

/-- So no container of a pod mounts what the pod does not have. -/
theorem linked_template (h : Arranged a ctx v replicas pods shape) {pod : Json}
    (hpod : (template shape ctx).field? "spec" = some pod) : Linked pod := by
  refine ⟨_, containers (mainContainer shape.main ctx) ctx, hasVolumes_template h hpod, ?_,
    List.forall_mem_cons.mpr ⟨⟨_, hasMounts_main h, fit_outputs v ctx⟩, fun container hmem => ?_⟩⟩
  · obtain rfl := Option.some.inj hpod
    rfl
  · exact ⟨_, hasMounts_uploader (Option.mem_toList.mp hmem), (fit_outputs v ctx).of_append_right⟩

end Pod

/-! ## Labels of nodes -/

/-- What the accelerator asks of its nodes is in the selector of the pod. -/
theorem at?_nodeSelector {pod : Json} (hpod : (Pod.template shape ctx).field? "spec" = some pod)
    {key value : String} (hkey : key ≠ Pod.preProvisionerLabel)
    (h : shape.selector.get? key = some value) :
    pod.at? ["nodeSelector", key] = some (.str value) := by
  have hget : (Pod.nodeSelector ctx shape.selector).get? key = some value := by
    unfold Pod.nodeSelector
    split
    next => rw [Dict.get?_insert, if_neg hkey, h]
    next => exact h
  obtain rfl := Option.some.inj hpod
  show ((Json.ofTexts (Pod.nodeSelector ctx shape.selector)).field? key).bind some = _
  rw [Json.field?_ofTexts, hget]
  rfl

/-! ## What has to agree -/

/-- The host of a pod: of this document, of the replicated job of this name, in this copy of it and
with this number. -/
def podHost (document job : String) (copy pod : Nat) : String :=
  document ++ "-" ++ job ++ "-" ++ toString copy ++ "-" ++ toString pod

/-- The host of the first pod of the first copy. -/
theorem podHost_first (document job : String) :
    podHost document job 0 0 = document ++ "-" ++ job ++ "-0-0" := by
  rw [podHost, String.append_assoc, String.append_assoc, String.append_assoc]
  rfl

/-- A replicated job, its pods, their containers, and the variables that the main one gets from the
variant. -/
structure Parts where
  job : Json
  pod : Json
  main : Json
  sidecars : List Json
  own : List Json

namespace Parts

/-- The parts are those of the document of a job that sets these variables. -/
structure Of (p : Parts) (doc : JobSet.Document) (vars : Dict String) : Prop where
  job : doc.replicatedJobs = [p.job]
  pod : p.job.at? Pod.specPath = some p.pod
  containers : p.pod.field? "containers" = some (.arr (p.main :: p.sidecars))
  env : p.main.field? "env" = some (.arr (p.own ++ entriesFor vars))

/-- There are so many copies of the job. Each has so many pods, with a number each, which all run at
the same time. -/
structure Indexed (p : Parts) (replicas pods : Nat) : Prop where
  replicas : p.job.at? ["replicas"] = some (.num (.int replicas))
  mode : p.job.at? ["template", "spec", "completionMode"] = some (.str "Indexed")
  completions : p.job.at? ["template", "spec", "completions"] = some (.num (.int pods))
  parallelism : p.job.at? ["template", "spec", "parallelism"] = some (.num (.int pods))

/-- So many copies and pods are what the accelerator stands for, and what the pods are told: each
variable that says so has one entry, and its value is read there. -/
inductive Suit (p : Parts) (doc : JobSet.Document) (a : Accelerator) :
    Variant → Nat → Nat → Prop where
  | tpu {o : Tpu.Options} {slice : Tpu.Slice} (hslice : Tpu.slice? a.instanceType = some slice)
      (hslices : valuesOf "NUM_TPU_SLICES" p.own = [some (toString a.count.toNat)])
      (hchips : p.main.at? ["resources", "limits", "google.com/tpu"]
        = some (.str (toString slice.chipsPerVm)))
      (haccelerator : p.pod.at? ["nodeSelector", "cloud.google.com/gke-tpu-accelerator"]
        = some (.str slice.accelerator))
      (htopology : p.pod.at? ["nodeSelector", "cloud.google.com/gke-tpu-topology"]
        = some (.str slice.topology)) :
      p.Suit doc a (.tpu o) a.count.toNat slice.vmsPerSlice
  | gpu {o : Gpu.Options} {name : String} {port : Nat} {ports : List Json}
      (hprocesses : valuesOf "NUM_PROCESSES" p.own = [some (toString a.count.toNat)])
      (hname : p.job.textAt? "name" = some name)
      (haddress : valuesOf "DISTRIBUTED_COORDINATOR" p.own
        = [some (podHost doc.name name 0 0 ++ "." ++ doc.name ++ ":" ++ toString port)])
      (hports : p.main.field? "ports" = some (.arr ports))
      (hport : ∃ item ∈ ports, item.field? "containerPort" = some (.num (.int port))) :
      p.Suit doc a (.gpu o) 1 a.count.toNat

end Parts

/-- The parts of a job agree because they are made from one accelerator. -/
theorem suit_of_arranged {p : Parts} {doc : JobSet.Document}
    (h : Arranged a ctx v replicas pods shape) (hname : doc.name = ctx.name)
    (hjob : p.job = Pod.replicatedJob replicas pods (Pod.template shape ctx))
    (hpod : (Pod.template shape ctx).field? "spec" = some p.pod)
    (hmain : p.main = Pod.mainContainer shape.main ctx) (hown : p.own = shape.main.env) :
    p.Suit doc a v replicas pods := by
  cases h with
  | @tpu o slice hslice =>
    refine .tpu hslice ?slices ?chips ?accelerator ?topology
    case slices => rw [hown]; rfl
    case chips => rw [hmain]; rfl
    case accelerator =>
      refine at?_nodeSelector hpod (by decide) ?_
      show (Tpu.ReplicatedJob.selector _).get? Tpu.acceleratorSelector = _
      rw [Tpu.ReplicatedJob.get?_selector_of_ne _ (by decide) (by decide), if_neg (by decide),
        if_pos rfl]
    case topology =>
      refine at?_nodeSelector hpod (by decide) ?_
      show (Tpu.ReplicatedJob.selector _).get? Tpu.topologySelector = _
      rw [Tpu.ReplicatedJob.get?_selector_of_ne _ (by decide) (by decide), if_pos rfl]
  | gpu hmachine =>
    have hjobName : p.job.textAt? "name" = some Pod.replicatedJobName := by rw [hjob]; rfl
    have hports : p.main.field? "ports"
        = some (.arr [.obj [("containerPort", Json.nat Gpu.coordinatorPort)]]) := by rw [hmain]; rfl
    have haddress : podHost ctx.name Pod.replicatedJobName 0 0 ++ "." ++ ctx.name ++ ":"
          ++ toString Gpu.coordinatorPort
        = Gpu.ReplicatedJob.coordinatorAddress ctx.name := by
      rw [podHost_first]
      rfl
    refine .gpu ?processes hjobName ?address hports ⟨_, List.mem_cons_self, rfl⟩
    case processes => rw [hown]; rfl
    case address =>
      rw [hown, hname, haddress]
      rfl

/-- Whatever the accelerator, the name and the options of a job that has been built, the parts of its
document agree with each other. -/
theorem parts_agree (hbuild : d.build settings = .ok c) (hv : c.variant = some v) :
    ∃ doc a replicas pods, ∃ p : Parts, c.document = .ok doc ∧ doc.name = c.name
      ∧ c.accelerator = some a ∧ p.Of doc c.envVars ∧ p.Indexed replicas pods
      ∧ p.Suit doc a v replicas pods ∧ Pod.Linked p.pod := by
  obtain ⟨doc, hdescribes⟩ := Draft.describes_of_build hbuild hv
  have hdoc : c.document = .ok doc := document_of_describes hdescribes
  cases hdescribes with
  | @intro _ a image account shape replicas pods hcomplete harranged =>
    cases hv.symm.trans hcomplete.variant
    refine ⟨_, a, replicas, pods, ⟨_, _, _, _, _⟩, hdoc, rfl, hcomplete.accelerator,
      ⟨rfl, rfl, rfl, rfl⟩, ⟨rfl, rfl, rfl, rfl⟩, ?suit, Pod.linked_template harranged rfl⟩
    exact suit_of_arranged harranged rfl rfl rfl rfl rfl

/-- Two slices with outputs: four machines in each, with four chips in each of these. And two
machines, the first of which is where both are told it is. -/
theorem parts_agree_keeping :
    (∃ c, (keepingDraft "train").build (fun _ => none) = .ok c ∧ c.variant = some (.tpu {})
      ∧ ∃ doc, ∃ p : Parts, c.document = .ok doc ∧ p.Of doc Dict.empty ∧ p.Indexed 2 4
        ∧ valuesOf "NUM_TPU_SLICES" p.own = [some "2"]
        ∧ p.main.at? ["resources", "limits", "google.com/tpu"] = some (.str "4")
        ∧ Pod.Linked p.pod)
    ∧ ∃ c, (settingDraft "train" []).build (fun _ => none) = .ok c ∧ c.variant = some (.gpu {})
      ∧ ∃ doc, ∃ p : Parts, c.document = .ok doc ∧ p.Of doc Dict.empty ∧ p.Indexed 1 2
        ∧ valuesOf "NUM_PROCESSES" p.own = [some "2"]
        ∧ (∃ name port, p.job.textAt? "name" = some name
          ∧ valuesOf "DISTRIBUTED_COORDINATOR" p.own
            = [some ("train-" ++ name ++ "-0-0.train:" ++ toString (port : Nat))])
        ∧ Pod.Linked p.pod := by
  constructor
  · have hbuild : (keepingDraft "train").build (fun _ => none)
        = .ok ((keepingDraft "train").fill (fun _ => none) "mine" "there") := rfl
    obtain ⟨doc, a, replicas, pods, p, hdoc, -, haccelerator, hparts, hindexed, hsuit, hlinked⟩ :=
      parts_agree hbuild rfl
    cases haccelerator
    cases hsuit with
    | tpu hslice hslices hchips =>
      cases hslice
      exact ⟨_, hbuild, rfl, doc, p, hdoc, hparts, hindexed, hslices, hchips, hlinked⟩
  · have hbuild : (settingDraft "train" []).build (fun _ => none)
        = .ok ((settingDraft "train" []).fill (fun _ => none) "mine" "there") := rfl
    obtain ⟨doc, a, replicas, pods, p, hdoc, hname, haccelerator, hparts, hindexed, hsuit,
      hlinked⟩ := parts_agree hbuild rfl
    cases haccelerator
    cases hsuit with
    | @gpu o name port ports hprocesses hjob haddress hports hport =>
      refine ⟨_, hbuild, rfl, doc, p, hdoc, hparts, hindexed, hprocesses, ⟨name, port, hjob, ?_⟩,
        hlinked⟩
      rw [haddress, hname, podHost_first]
      simp only [String.append_assoc]
      rfl

end Job
end JobLauncher
