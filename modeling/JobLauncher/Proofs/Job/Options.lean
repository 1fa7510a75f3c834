import JobLauncher.Proofs.Job.Documents
import JobLauncher.Proofs.Job.Pods

/-!
# Options of a job

What an option adds to a document it adds beside what is there. Each option has its own effect on
the document (`Edit.effect`), which is told in terms of the document alone, as a change at one place
of it or at a few. A draft that describes a document describes the changed one once the option is
set (`Draft.Describes.apply`), and building it in between changes nothing
(`Draft.Describes.toDraft`). So the effects of the options that are set one after another are the
effects one after another (`Draft.Derived.describes`), wherever a configuration is built on the way.

> `options_add_up`: outputs, nodes made for the job, its queue and its tries each change their own
> part of the document, in either order and together, and where and as whom the job is submitted
> changes nothing.
-/

namespace JobLauncher

/-! ## Changing documents -/

namespace Json

variable {key key' : String} {f g : Json → Json}

/-- The object with one of its fields changed. Any other value stays as it is. -/
def mapField (key : String) (f : Json → Json) : Json → Json
  | .obj fields => .obj (fields.map fun e => if e.1 = key then (e.1, f e.2) else e)
  | v => v

/-- The value with the one at the end of a path of fields changed. -/
def mapAt (f : Json → Json) : List String → Json → Json
  | [] => f
  | key :: path => mapField key (mapAt f path)

/-- The object with one field more, in its place. -/
def withField (key : String) (item : Json) : Json → Json
  | .obj fields => .obj (Dict.insertEntry key item fields)
  | v => v

/-- The list with one item more at its end. -/
def push (item : Json) : Json → Json
  | .arr items => .arr (items ++ [item])
  | v => v

/-- The list with its first item changed. -/
def mapFirst (f : Json → Json) : Json → Json
  | .arr (first :: rest) => .arr (f first :: rest)
  | v => v

/-- Two changes of one field are one change. -/
theorem mapField_mapField (v : Json) :
    (v.mapField key f).mapField key g = v.mapField key (g ∘ f) := by
  cases v with
  | obj fields =>
    rw [mapField, mapField, mapField, List.map_map]
    congr 2
    funext e
    by_cases he : e.1 = key
    · simp [he]
    · simp [he]
  | _ => rfl

/-- Changes of different fields do not meet. -/
theorem mapField_comm (h : key ≠ key') (v : Json) :
    (v.mapField key f).mapField key' g = (v.mapField key' g).mapField key f := by
  cases v with
  | obj fields =>
    rw [mapField, mapField, mapField, mapField, List.map_map, List.map_map]
    congr 2
    funext e
    by_cases he : e.1 = key
    · simp [he, h]
    · by_cases he' : e.1 = key'
      · simp [he', h.symm]
      · simp [he, he']
  | _ => rfl

theorem mapAt_mapAt (path : List String) (v : Json) :
    (v.mapAt f path).mapAt g path = v.mapAt (g ∘ f) path := by
  induction path generalizing v with
  | nil => rfl
  | cons key path ih =>
    rw [mapAt, mapAt, mapAt, mapField_mapField]
    congr 1
    funext item
    exact ih item

/-- To set a field of an object of texts is to insert the text. -/
theorem withField_ofTexts (key s : String) (d : Dict String) :
    withField key (.str s) (ofTexts d) = ofTexts (d.insert key s) := by
  rw [ofTexts, ofTexts, Dict.map_insert]
  rfl

end Json

/-- The document with the specification of its pods changed. -/
def JobSet.Document.mapPods (f : Json → Json) (doc : JobSet.Document) : JobSet.Document :=
  { doc with replicatedJobs := doc.replicatedJobs.map (Json.mapAt f Job.Pod.specPath) }

/-- Two changes of all pods are one change. -/
theorem JobSet.Document.mapPods_mapPods (f g : Json → Json) (doc : JobSet.Document) :
    (doc.mapPods f).mapPods g = doc.mapPods (g ∘ f) := by
  unfold mapPods
  rw [List.map_map]
  congr 2
  funext job
  exact Json.mapAt_mapAt Job.Pod.specPath job

namespace Job

/-! ## The effects of options -/

namespace Pod

/-- The container that copies the outputs to their place under `dir`. -/
def uploaderTo (dir : String) : Json :=
  .obj [
    ("command", Json.strings ["/bin/sh", "-c", uploaderScript dir]),
    ("image", .str "google/cloud-sdk:alpine"),
    ("name", .str "output-uploader"),
    ("volumeMounts", .arr [mount "/output" "shared-output"])]

/-- Pods with a volume more, which the main container mounts after the others, and with a container
more, which copies what is in the volume to its place under `dir`. -/
def keepOutputs (dir : String) (spec : Json) : Json :=
  let mounting := Json.mapField "volumeMounts" (Json.push (mount "/output" "shared-output"))
  (spec.mapField "containers" fun l => Json.push (uploaderTo dir) (l.mapFirst mounting)).mapField
    "volumes" (Json.push (emptyDir "shared-output" []))

/-- Pods that wait for nodes with one label more, the name of the job. -/
def awaitNodes (name : String) (spec : Json) : Json :=
  spec.mapField "nodeSelector" (Json.withField "pre-provisioner-id" (.str name))

/-- To wait for nodes and to keep outputs are about different fields of a pod, so their order is the
same to it. -/
theorem awaitNodes_comp_keepOutputs (name dir : String) :
    awaitNodes name ∘ keepOutputs dir = keepOutputs dir ∘ awaitNodes name := by
  have hvolumes : "volumes" ≠ "nodeSelector" := by decide
  have hcontainers : "containers" ≠ "nodeSelector" := by decide
  funext spec
  rw [Function.comp_apply, Function.comp_apply, awaitNodes, awaitNodes, keepOutputs, keepOutputs,
    Json.mapField_comm hvolumes, Json.mapField_comm hcontainers]

end Pod

/-- What setting an option does to the document. -/
def Edit.effect : Edit → JobSet.Document → JobSet.Document
  | .outputDir dir, doc => doc.mapPods (Pod.keepOutputs dir)
  | .preProvisioner true, doc => doc.mapPods (Pod.awaitNodes doc.name)
  | .queue q, doc => { doc with annotations := doc.annotations.insert JobSet.queueAnnotation q }
  | .maxTries n, doc => { doc with maxRestarts := n - 1 }
  | _, doc => doc

/-- The edits that say where and as whom the job is submitted. -/
inductive Edit.IsAddress : Edit → Prop where
  | ns (s : String) : IsAddress (.ns s)
  | impersonateAccount (s : String) : IsAddress (.impersonateAccount s)
  | impersonateScopes (scopes : List String) : IsAddress (.impersonateScopes scopes)
  | project (s : String) : IsAddress (.project s)
  | zone (s : String) : IsAddress (.zone s)
  | envId (s : String) : IsAddress (.envId s)

/-- The edits that set an option of a job which is complete without it. -/
inductive Edit.IsOption : Edit → Prop where
  | outputDir (s : String) : IsOption (.outputDir s)
  | preProvisioner : IsOption (.preProvisioner true)
  | queue (s : String) : IsOption (.queue s)
  | maxTries {n : UInt32} (h : n ≠ 0) : IsOption (.maxTries n)
  | address {e : Edit} (h : e.IsAddress) : IsOption e

/-- The output directory that an edit sets. -/
def Edit.outputDir? : Edit → Option String
  | .outputDir s => some s
  | _ => none

section

variable {ctx : Context} {shape : Pod.Shape} {replicas pods : Nat}

theorem uploader_eq_none (h : ctx.outputDir = none) : Pod.uploader ctx = none := by
  rw [Pod.uploader, h]
  rfl

/-- The pod of a job that keeps no outputs becomes the pod of the job that keeps them. -/
theorem mapAt_keepOutputs (h : ctx.outputDir = none) (dir : String) :
    Json.mapAt (Pod.keepOutputs dir) Pod.specPath
        (Pod.replicatedJob replicas pods (Pod.template shape ctx))
      = Pod.replicatedJob replicas pods
          (Pod.template shape { ctx with outputDir := some dir }) := by
  have hmount : Pod.outputMount ctx = none := by rw [Pod.outputMount, h]; rfl
  have hvolume : Pod.outputVolume ctx = none := by rw [Pod.outputVolume, h]; rfl
  have hmain : (Pod.mainContainer shape.main ctx).mapField "volumeMounts"
        (Json.push (Pod.mount "/output" "shared-output"))
      = Pod.mainContainer shape.main { ctx with outputDir := some dir } := by
    unfold Pod.mainContainer
    rw [hmount, Option.toList_none, List.append_nil]
    rfl
  unfold Pod.template Pod.containers
  rw [hvolume, uploader_eq_none h, Option.toList_none, List.append_nil, ← hmain]
  rfl

/-- Nodes that are waited for already need not be waited for again. -/
theorem mapAt_awaitNodes (ctx : Context) :
    Json.mapAt (Pod.awaitNodes ctx.name) Pod.specPath
        (Pod.replicatedJob replicas pods (Pod.template shape ctx))
      = Pod.replicatedJob replicas pods
          (Pod.template shape { ctx with preProvisioner := true }) := by
  have hselector : (Pod.nodeSelector ctx shape.selector).insert Pod.preProvisionerLabel ctx.name
      = Pod.nodeSelector { ctx with preProvisioner := true } shape.selector := by
    unfold Pod.nodeSelector
    split
    next => exact Dict.insert_eq_self (by rw [Dict.get?_insert, if_pos rfl])
    next => rfl
  unfold Pod.template
  rw [← hselector, ← Json.withField_ofTexts]
  rfl

end

/-- A queue is one more annotation, in place of one of that key. -/
theorem compileAnnotations_queue (plan : JobSet.Plan) (q : String) :
    JobSet.compileAnnotations { plan with queue := some q }
      = (JobSet.compileAnnotations plan).insert JobSet.queueAnnotation q := by
  refine Dict.ext_get? fun key => ?_
  rw [JobSet.get?_compileAnnotations, Dict.get?_insert, JobSet.get?_compileAnnotations]
  by_cases hkey : key = JobSet.queueAnnotation
  · rw [if_pos hkey, if_pos hkey, Option.some_or]
  · rw [if_neg hkey, if_neg hkey, if_neg hkey]

/-! ## Setting options one after another -/

variable {d d' : Draft} {doc : JobSet.Document} {e : Edit} {edits : List Edit}
  {settings : Settings.Source} {c : Config} {v : Variant}

/-- A draft to which another has come by these edits, perhaps with a configuration built and made a
draft again on the way. -/
inductive Draft.Derived (d : Draft) : List Edit → Draft → Prop where
  | same : d.Derived [] d
  | edited {edits : List Edit} {d' : Draft} (h : d.Derived edits d') (e : Edit) :
      d.Derived (edits ++ [e]) (d'.apply e)
  | rebuilt {edits : List Edit} {d' : Draft} {settings : Settings.Source} {c : Config}
      (h : d.Derived edits d') (hbuild : d'.build settings = .ok c) : d.Derived edits c.toDraft

/-- More options after a derivation are a derivation. -/
theorem Draft.Derived.applyAll (h : d.Derived edits d') (more : List Edit) :
    d.Derived (edits ++ more) (d'.applyAll more) := by
  induction more generalizing edits d' with
  | nil =>
    rw [List.append_nil]
    exact h
  | cons e rest ih =>
    rw [List.append_cons]
    exact ih (h.edited e)

/-- An option has its effect on what a draft describes, unless outputs are kept already and it is
where they are kept. -/
theorem Draft.Describes.apply (h : d.Describes doc) (he : e.IsOption)
    (houtputs : e.outputDir? ≠ none → d.outputDir = none) :
    (d.apply e).Describes (e.effect doc) := by
  cases h with
  | @intro v a image account shape replicas pods hcomplete harranged =>
    cases he with
    | outputDir dir =>
      have hnone : (d.context image account).outputDir = none :=
        houtputs (Option.some_ne_none dir)
      have heffect : (Edit.outputDir dir).effect
            (d.documentOf v image account replicas pods shape)
          = (d.apply (.outputDir dir)).documentOf v image account replicas pods shape :=
        congrArg (fun job => { d.documentOf v image account replicas pods shape with
          replicatedJobs := [job] }) (mapAt_keepOutputs hnone dir)
      rw [heffect]
      exact .intro { hcomplete with } (harranged.congr rfl)
    | preProvisioner =>
      have heffect : (Edit.preProvisioner true).effect
            (d.documentOf v image account replicas pods shape)
          = (d.apply (.preProvisioner true)).documentOf v image account replicas pods shape :=
        congrArg (fun job => { d.documentOf v image account replicas pods shape with
          replicatedJobs := [job] }) (mapAt_awaitNodes (d.context image account))
      rw [heffect]
      exact .intro { hcomplete with } (harranged.congr rfl)
    | queue q =>
      have heffect : (Edit.queue q).effect (d.documentOf v image account replicas pods shape)
          = (d.apply (.queue q)).documentOf v image account replicas pods shape :=
        congrArg (fun l => { d.documentOf v image account replicas pods shape with
          annotations := l }) (compileAnnotations_queue _ q).symm
      rw [heffect]
      exact .intro { hcomplete with } harranged
    -- the count of tries is not in the pods
    | maxTries hn => exact .intro { hcomplete with tries := hn } harranged
    | address h =>
      cases h with
      | project s => exact .intro { hcomplete with project := Option.some_ne_none s } harranged
      | zone s => exact .intro { hcomplete with zone := Option.some_ne_none s } harranged
      | _ => exact .intro { hcomplete with } harranged

/-- Options that can be set one after another, starting with the draft: outputs are kept in one
place only. -/
structure Draft.Takes (d : Draft) (edits : List Edit) : Prop where
  options : ∀ e ∈ edits, e.IsOption
  once : edits.Pairwise fun e e' => e.outputDir? = none ∨ e'.outputDir? = none
  first : ∀ e ∈ edits, e.outputDir? ≠ none → d.outputDir = none

namespace Draft.Derived

/-- Where no option is about outputs, the directory stays as it was. -/
theorem outputDir_eq (h : d.Derived edits d') (hnone : ∀ e ∈ edits, e.outputDir? = none) :
    d'.outputDir = d.outputDir := by
  induction h with
  | same => rfl
  | @edited edits d' h e ih =>
    obtain ⟨hbefore, he⟩ := List.forall_mem_append.mp hnone
    rw [← ih hbefore]
    -- of the options only the one that sets the directory changes it
    have hlast : e.outputDir? = none := he e List.mem_cons_self
    cases e with
    | outputDir dir => cases hlast
    | _ => rfl
  | rebuilt h hbuild ih =>
    obtain ⟨project, zone, rfl⟩ := exists_fill_of_build hbuild
    exact ih hnone

/-- Options have their effects one after another. -/
theorem describes (h : d.Derived edits d') (hdescribes : d.Describes doc) (htakes : d.Takes edits) :
    d'.Describes (edits.foldl (fun doc e => e.effect doc) doc) := by
  induction h with
  | same => exact hdescribes
  | @edited edits d' h e ih =>
    obtain ⟨hbefore, he⟩ := List.forall_mem_append.mp htakes.options
    obtain ⟨honce, -, hapart⟩ := List.pairwise_append.mp htakes.once
    have hfirst := (List.forall_mem_append.mp htakes.first)
    rw [List.foldl_append]
    refine (ih ⟨hbefore, honce, hfirst.1⟩).apply (he e List.mem_cons_self) fun hdir => ?_
    have hnone : ∀ e' ∈ edits, e'.outputDir? = none := fun e' he' =>
      (hapart e' he' e List.mem_cons_self).resolve_right hdir
    rw [h.outputDir_eq hnone]
    exact hfirst.2 e List.mem_cons_self hdir
  | rebuilt h hbuild ih => exact (ih htakes).toDraft hbuild

end Draft.Derived

/-! ## What each option adds -/

/-- What becomes of the document of a configuration when options are set on the draft of it. -/
structure Config.AddsUp (c : Config) (doc : JobSet.Document) : Prop where
  /-- Each option has its effect, whatever the others are. -/
  together : ∀ edits d', c.toDraft.Takes edits → c.toDraft.Derived edits d' → ∀ settings,
    d'.document settings = .ok (edits.foldl (fun doc e => e.effect doc) doc)
  /-- Where no outputs are kept the main container is alone, -/
  alone : c.outputDir = none → ∃ job main mounts volumes, doc.replicatedJobs = [job]
    ∧ job.at? (Pod.specPath ++ ["containers"]) = some (.arr [main])
    ∧ main.field? "volumeMounts" = some (.arr mounts)
    ∧ job.at? (Pod.specPath ++ ["volumes"]) = some (.arr volumes)
  /-- and keeping them adds a container after it, a mount to its mounts and a volume. -/
  outputs : c.outputDir = none → ∀ dir d', c.toDraft.Derived [.outputDir dir] d' →
    ∀ settings, d'.document settings = .ok (doc.mapPods (Pod.keepOutputs dir))
  /-- The label of nodes that are made for a job is not among those that are asked for already, -/
  label : c.preProvisioner = false → ∃ (job : Json) (selector : Dict String),
    doc.replicatedJobs = [job]
    ∧ job.at? (Pod.specPath ++ ["nodeSelector"]) = some (Json.ofTexts selector)
    ∧ selector.get? "pre-provisioner-id" = none
  /-- and waiting for them adds it. -/
  nodes : ∀ d', c.toDraft.Derived [.preProvisioner true] d' →
    ∀ settings, d'.document settings = .ok (doc.mapPods (Pod.awaitNodes c.name))
  /-- Either can come first. -/
  both : c.outputDir = none → ∀ dir edits d',
    edits = [.outputDir dir, .preProvisioner true]
      ∨ edits = [.preProvisioner true, .outputDir dir] →
    c.toDraft.Derived edits d' → ∀ settings, d'.document settings
      = .ok ((doc.mapPods (Pod.keepOutputs dir)).mapPods (Pod.awaitNodes c.name))
  queue : ∀ q d', c.toDraft.Derived [.queue q] d' → ∀ settings, d'.document settings
    = .ok { doc with annotations := doc.annotations.insert JobSet.queueAnnotation q }
  tries : ∀ n d', n ≠ 0 → c.toDraft.Derived [.maxTries n] d' → ∀ settings, d'.document settings
    = .ok { doc with maxRestarts := n - 1 }
  /-- There is no document of a job that may not be tried. -/
  noTries : ∀ settings, (c.toDraft.apply (.maxTries 0)).document settings
    = .error (.config c.name "max_tries must be at least 1")
  /-- Where and as whom a job is submitted is not in its document. -/
  address : ∀ edits d', (∀ e ∈ edits, e.IsAddress) → c.toDraft.Derived edits d' →
    ∀ settings, d'.document settings = .ok doc

theorem name_of_describes (h : d.Describes doc) : doc.name = d.name := by
  cases h with
  | _ => rfl

namespace Draft

/-- What is derived has the document with the effects of all its options, one after another. -/
theorem Derived.document (h : d.Derived edits d') (hdescribes : d.Describes doc)
    (htakes : d.Takes edits) (settings : Settings.Source) :
    d'.document settings = .ok (edits.foldl (fun doc e => e.effect doc) doc) :=
  (h.describes hdescribes htakes).document settings

/-- One option can always be taken, but for a second directory of outputs. -/
theorem takes_singleton (he : e.IsOption) (hfirst : e.outputDir? ≠ none → d.outputDir = none) :
    d.Takes [e] where
  options := List.forall_mem_singleton.mpr he
  once := List.pairwise_singleton _ e
  first := List.forall_mem_singleton.mpr hfirst

/-! ### Outputs and nodes -/

/-- A job that keeps no outputs has one container, to which mounts and volumes can be added. -/
theorem Describes.alone (h : d.Describes doc) (hnone : d.outputDir = none) :
    ∃ job main mounts volumes, doc.replicatedJobs = [job]
      ∧ job.at? (Pod.specPath ++ ["containers"]) = some (.arr [main])
      ∧ main.field? "volumeMounts" = some (.arr mounts)
      ∧ job.at? (Pod.specPath ++ ["volumes"]) = some (.arr volumes) := by
  cases h with
  | @intro v a image account shape replicas pods hcomplete harranged =>
    have halone : Pod.containers (Pod.mainContainer shape.main (d.context image account))
          (d.context image account)
        = [Pod.mainContainer shape.main (d.context image account)] := by
      rw [Pod.containers, uploader_eq_none hnone]
      rfl
    exact ⟨_, _, _, _, rfl, congrArg (fun l => some (Json.arr l)) halone, rfl, rfl⟩

/-- A job that does not wait for nodes has a selector without the label for that. -/
theorem Describes.exists_selector (h : d.Describes doc) (hpre : d.preProvisioner = false) :
    ∃ (job : Json) (selector : Dict String), doc.replicatedJobs = [job]
      ∧ job.at? (Pod.specPath ++ ["nodeSelector"]) = some (Json.ofTexts selector)
      ∧ selector.get? "pre-provisioner-id" = none := by
  cases h with
  | intro hcomplete harranged =>
    refine ⟨_, _, rfl, rfl, ?_⟩
    rw [Pod.nodeSelector, if_neg (Bool.not_eq_true _ ▸ hpre)]
    exact get?_selector_preProvisionerLabel harranged

/-- Outputs and nodes can be asked for in either order, -/
theorem takes_both {dir : String} (hnone : d.outputDir = none)
    (h : edits = [.outputDir dir, .preProvisioner true]
      ∨ edits = [.preProvisioner true, .outputDir dir]) : d.Takes edits := by
  have hkept : (Edit.outputDir dir).IsOption := .outputDir dir
  have hawaited : (Edit.preProvisioner true).IsOption := .preProvisioner
  rcases h with rfl | rfl
  · exact ⟨List.forall_mem_cons.mpr ⟨hkept, List.forall_mem_singleton.mpr hawaited⟩,
      List.pairwise_pair.mpr (.inr rfl), fun _ _ _ => hnone⟩
  · exact ⟨List.forall_mem_cons.mpr ⟨hawaited, List.forall_mem_singleton.mpr hkept⟩,
      List.pairwise_pair.mpr (.inl rfl), fun _ _ _ => hnone⟩

/-- and to the same effect. -/
theorem foldl_effect_both {dir : String} (h : edits = [.outputDir dir, .preProvisioner true]
      ∨ edits = [.preProvisioner true, .outputDir dir]) (doc : JobSet.Document) :
    edits.foldl (fun doc e => e.effect doc) doc
      = (doc.mapPods (Pod.keepOutputs dir)).mapPods (Pod.awaitNodes doc.name) := by
  rcases h with rfl | rfl
  · rfl
  · rw [JobSet.Document.mapPods_mapPods, Pod.awaitNodes_comp_keepOutputs,
      ← JobSet.Document.mapPods_mapPods]
    rfl

/-! ### Tries and the address -/

/-- A job that is not tried at all has no document. -/
theorem document_noTries (hname : d.name ≠ "") (settings : Settings.Source) :
    (d.apply (.maxTries 0)).document settings
      = .error (.config d.name "max_tries must be at least 1") := by
  have hname' : (d.apply (.maxTries 0)).name ≠ "" := hname
  have herror : (d.apply (.maxTries 0)).errorName = d.name := if_neg hname'
  have hcheck : (d.apply (.maxTries 0)).check settings = .error .noTries := by
    rw [Draft.check, if_neg hname']
    rfl
  rw [Draft.document, Draft.build, hcheck, herror]
  rfl

/-- Options about where the job is sent leave the document alone. -/
theorem effect_of_isAddress (h : e.IsAddress) : e.effect doc = doc := by
  cases h with
  | _ => rfl

theorem outputDir?_of_isAddress (h : e.IsAddress) : e.outputDir? = none := by
  cases h with
  | _ => rfl

theorem foldl_effect_of_isAddress (h : ∀ e ∈ edits, e.IsAddress) :
    edits.foldl (fun doc e => e.effect doc) doc = doc := by
  induction edits with
  | nil => rfl
  | cons e rest ih =>
    obtain ⟨he, hrest⟩ := List.forall_mem_cons.mp h
    rw [List.foldl_cons, effect_of_isAddress he, ih hrest]

theorem takes_of_isAddress (h : ∀ e ∈ edits, e.IsAddress) : d.Takes edits where
  options e he := .address (h e he)
  once := List.pairwise_of_forall_mem_list fun e he _ _ => .inl (outputDir?_of_isAddress (h e he))
  first e he hdir := absurd (outputDir?_of_isAddress (h e he)) hdir

end Draft

/-- What setting options does to the document of a configuration. -/
theorem options_add_up (hbuild : d.build settings = .ok c) (hv : c.variant = some v) :
    ∃ doc, c.document = .ok doc ∧ c.AddsUp doc := by
  obtain ⟨doc, hdescribes⟩ := Draft.describes_of_build hbuild hv
  have hname : doc.name = c.name := name_of_describes hdescribes
  have hset {e : Edit} {d' : Draft} (he : e.IsOption) (hdir : e.outputDir? = none)
      (h : c.toDraft.Derived [e] d') : ∀ settings, d'.document settings = .ok (e.effect doc) :=
    h.document hdescribes (Draft.takes_singleton he fun hdir' => absurd hdir hdir')
  refine ⟨doc, document_of_describes hdescribes, {
    together := fun edits d' htakes h => h.document hdescribes htakes
    alone := hdescribes.alone
    outputs := fun hnone dir d' h =>
      h.document hdescribes (Draft.takes_singleton (.outputDir dir) fun _ => hnone)
    label := hdescribes.exists_selector
    nodes := fun d' h => ?nodes
    both := fun hnone dir edits d' hedits h settings => ?both
    queue := fun q d' h => hset (.queue q) rfl h
    tries := fun n d' hn h => hset (.maxTries hn) rfl h
    noTries := Draft.document_noTries (Draft.valid_of_build hbuild).name
    address := fun edits d' hedits h settings => ?address }⟩
  case nodes =>
    rw [← hname]
    exact hset .preProvisioner rfl h
  case both =>
    rw [← hname, ← Draft.foldl_effect_both hedits]
    exact h.document hdescribes (Draft.takes_both hnone hedits) settings
  case address =>
    have hsame := h.document hdescribes (Draft.takes_of_isAddress hedits) settings
    rwa [Draft.foldl_effect_of_isAddress hedits] at hsame

/-- A job that is given nodes of its own and keeps its outputs, the settings that it was built with
being gone. -/
theorem options_add_up_train :
    ∃ c doc, trainDraft.build trainSettings = .ok c ∧ c.variant = some (.tpu {})
    ∧ c.outputDir = none ∧ c.preProvisioner = false ∧ c.document = .ok doc
    ∧ (c.toDraft.applyAll [.preProvisioner true, .outputDir "gs://bucket/out"]).document
        (fun _ => none)
      = .ok ((doc.mapPods (Pod.keepOutputs "gs://bucket/out")).mapPods (Pod.awaitNodes "train"))
    ∧ (c.toDraft.applyAll [.ns "team", .zone "there"]).document (fun _ => none) = .ok doc := by
  have hbuild : trainDraft.build trainSettings
      = .ok (trainDraft.fill trainSettings "here" "here") := rfl
  obtain ⟨doc, hdoc, hadds⟩ := options_add_up hbuild rfl
  refine ⟨_, doc, hbuild, rfl, rfl, rfl, hdoc, ?both, ?address⟩
  case both =>
    exact hadds.both rfl "gs://bucket/out" _ _ (.inr rfl) (Draft.Derived.same.applyAll _) _
  case address =>
    have haddress : ∀ e ∈ [Edit.ns "team", .zone "there"], e.IsAddress :=
      List.forall_mem_cons.mpr ⟨.ns "team", List.forall_mem_singleton.mpr (.zone "there")⟩
    exact hadds.address _ _ haddress (Draft.Derived.same.applyAll _) _

end Job

end JobLauncher
