import JobLauncher.Cli.Run
import JobLauncher.Control.Scripted
import JobLauncher.Proofs.Control.Protocol
import JobLauncher.Proofs.Job.Plain
import JobLauncher.Settings.FileTree

/-!
# What is printed is what is submitted

`launch` and `build` take the same description of a job. Both configure it in the same way and do
nothing else if that fails (`Refused`). Where it does not fail, the job is one for the cluster, and
what the one prints under a version is what the other has created under that version
(`SubmitsAsPrinted`). Documents are plain, so printed JSON comes back as the very document when it
is read.

> `launch_submits_what_build_prints`: whatever the command line and the settings say and whatever
> the surroundings answer, one of the two holds of the two commands.
-/

namespace JobLauncher

open Program (Round Course)

/-! ## The description of a job -/

namespace Job.Draft

variable {d : Draft} {v : Variant}

/-- A draft whose variant is set is of that variant, unless it is set to another one. -/
theorem variant_applyAll {edits : List Edit} (h : ∀ w, .variant w ∈ edits → w = v)
    (hset : d.variant = some v ∨ .variant v ∈ edits) : (d.applyAll edits).variant = some v := by
  induction edits generalizing d with
  | nil => exact hset.resolve_right List.not_mem_nil
  | cons e rest ih =>
    refine ih (fun w hw => h w (List.mem_cons_of_mem e hw)) ?_
    cases e with
    | variant w => exact .inl (congrArg some (h w List.mem_cons_self))
    | _ =>
      refine hset.imp id fun hmem => ?_
      rcases List.mem_cons.mp hmem with heq | hrest
      · cases heq
      · exact hrest

end Job.Draft

namespace Cli

variable {α σ : Type}

/-- The job that is described is of the variant of the command. -/
theorem JobArgs.variant_draft (args : JobArgs) (v : Variant) : (args.draft v).variant = some v := by
  refine Job.Draft.variant_applyAll (fun w hw => ?_) (.inr (by simp [edits]))
  simpa [edits] using hw

theorem JobArgs.variant_of_build {args : JobArgs} {v : Variant} {settings : Settings.Source}
    {c : Job.Config} (h : (args.draft v).build settings = .ok c) : c.variant = some v := by
  obtain ⟨project, zone, rfl⟩ := Job.Draft.exists_fill_of_build h
  exact args.variant_draft v

/-! ## Reading the settings -/

/-- Nothing is called to read the settings. -/
theorem calls_loadSettings {env : Settings.Environment} {file envId : Option String}
    {rs : List (Round Step Step.Answer)} {result : Except Error Settings.File}
    (h : Course (loadSettings env file envId) rs result) (call : Call) :
    .call call ∉ rs.map (·.1) := by
  cases hpath : (Settings.Location.of env file).path? with
  | none =>
    simp only [loadSettings, hpath] at h
    obtain ⟨rfl, -⟩ := Program.course_done.mp h
    exact List.not_mem_nil
  | some path =>
    simp only [loadSettings, hpath] at h
    obtain ⟨reading, rest, rfl, hend⟩ := Program.course_ask.mp h
    obtain ⟨rfl, -⟩ := Program.course_done.mp hend
    simp

/-- Nor to configure a job, which is then one that has been built under some settings. -/
theorem course_configure {env : Settings.Environment} {file envId : Option String} {d : Job.Draft}
    {rs : List (Round Step Step.Answer)} {result : Except Error Job.Config}
    (h : Course (configure env file envId d) rs result) :
    (∀ call, .call call ∉ rs.map (·.1))
      ∧ ∀ c, result = .ok c → ∃ settings, d.build settings = .ok c := by
  obtain ⟨before, loaded, after, rfl, hload, hbuild⟩ := Program.course_bind.mp h
  cases loaded with
  | error e =>
    obtain ⟨rfl, rfl⟩ := Program.course_done.mp hbuild
    rw [List.append_nil]
    exact ⟨calls_loadSettings hload, fun c hc => nomatch hc⟩
  | ok settings =>
    obtain ⟨rfl, rfl⟩ := Program.course_done.mp hbuild
    rw [List.append_nil]
    exact ⟨calls_loadSettings hload, fun c hc => ⟨_, Except.mapError_eq_ok.mp hc⟩⟩

/-! ## Going on with a result -/

section

variable {α σ : Type} {answer : (step : Step) → σ → step.Answer × σ} {s : σ}
  {p : Session (Except Error α)}

/-- A failure is the outcome, and nothing more is asked. -/
theorem andThen_of_error {e : Error} (h : (p.run answer s).1 = .error e)
    (f : α → Session Outcome) :
    ((andThen p f).run answer s).1 = .error e
      ∧ (andThen p f).rounds answer s = p.rounds answer s := by
  rw [andThen, Program.run_bind, Program.rounds_bind, h]
  exact ⟨rfl, List.append_nil _⟩

/-- Otherwise the session goes on with the result. -/
theorem andThen_of_ok {a : α} (h : (p.run answer s).1 = .ok a) (f : α → Session Outcome) :
    ((andThen p f).run answer s).1 = ((f a).run answer (p.run answer s).2).1
      ∧ (andThen p f).rounds answer s
        = p.rounds answer s ++ (f a).rounds answer (p.run answer s).2 := by
  rw [andThen, Program.run_bind, Program.rounds_bind, h]
  exact ⟨rfl, rfl⟩

end

/-! ## Calls of a session -/

/-- The round of a session in which a call is made. -/
def callRound (r : Round Call Call.Answer) : Round Step Step.Answer := ⟨.call r.1, r.2⟩

/-- Where nothing was called before, the calls of a session are those of its last part. -/
theorem mem_calls {before : List (Round Step Step.Answer)} {calls : List (Round Call Call.Answer)}
    (hbefore : ∀ call, .call call ∉ before.map (·.1)) {call : Call} :
    .call call ∈ (before ++ calls.map callRound).map (·.1) ↔ call ∈ calls.map (·.1) := by
  have hmap : (calls.map callRound).map (·.1) = (calls.map (·.1)).map Step.call := by
    rw [List.map_map, List.map_map]
    rfl
  rw [List.map_append, List.mem_append, hmap, or_iff_right (hbefore call)]
  simp only [List.mem_map, Step.call.injEq, exists_eq_right]

/-- A session that does nothing but control jobs makes the calls of that. -/
theorem course_control {p : Control α} {rs : List (Round Step Step.Answer)} {a : α}
    (h : Course (Session.control p) rs a) :
    ∃ calls, Course p calls a ∧ rs = calls.map callRound := by
  obtain ⟨calls, hp, hrefined⟩ := Program.course_refine.mp h
  exact ⟨calls, hp, hrefined.eq_map fun call answer rs' hrs' => Program.course_question.mp hrs'⟩

/-- What it prints is what the control came to. -/
theorem course_controlled {p : Control (Except Job.Error α)} {text : α → String}
    {rs : List (Round Step Step.Answer)} {o : Outcome} (h : Course (controlled p text) rs o) :
    ∃ calls result, Course p calls result ∧ rs = calls.map callRound
      ∧ o = (result.mapError .job).map text := by
  obtain ⟨result, hcontrol, rfl⟩ := Program.course_map.mp h
  obtain ⟨calls, hp, rfl⟩ := course_control hcontrol
  exact ⟨calls, result, hp, rfl, rfl⟩

/-- A job for the cluster is submitted by the calls that submit its document. -/
theorem calls_of_submit {c : Job.Config} {job : JobSetJob} {document : JobSet.Document}
    (hjob : Job.ofConfig c = .ok (.jobSet job)) (hcompile : job.compile = .ok document)
    {rs : List (Round Step Step.Answer)} {o : Outcome} (h : Course (submit c) rs o) :
    ∃ calls, rs = calls.map callRound
      ∧ InOrder job.config.impersonateAccount job.config.impersonateScopes (job.createCall document)
          calls := by
  rw [submit, hjob] at h
  obtain ⟨calls, result, hexecute, rfl, -⟩ := course_controlled h
  obtain ⟨result', hsubmits, rfl⟩ := Program.course_map.mp hexecute
  refine ⟨calls, rfl, ?_⟩
  exact ((JobSetJob.submits_of_course hsubmits).approach hcompile).inOrder fun _ _ => rfl

/-! ## A job on a single slice -/

/-- The job without a place. -/
def trainArgs : JobArgs where
  name := "train"
  command := "echo hi"
  image := "image"
  instanceType := "tpu-v5p-8"

/-- The same job with its place on the command line. -/
def trainPlaced : JobArgs := { trainArgs with project := "project", zone := "zone" }

/-- A world of files and of what is written down for calls. -/
def scriptedWith (files : Settings.FileTree) (step : Step) (w : Scripted) :
    step.Answer × Scripted :=
  match step with
  | .readFile path => (files.read path, w)
  | .call call => Scripted.answer call w

/-- What a step creates: the namespace, the kind of resource and the body. -/
def Step.creation? : Step → Option (String × Kube.Resource × Json)
  | .call (.create _ ns r body) => some (ns, r, body)
  | _ => none

/-- The lines of a text, one more than it has line ends. -/
def linesOf (cs : List Char) : List String := (cs.splitOn '\n').map String.ofList

/-- Lines with breaks between them are the text again. -/
theorem intercalate_linesOf (cs : List Char) :
    "\n".intercalate (linesOf cs) = String.ofList cs := by
  have hlines : (linesOf cs).map String.toList = cs.splitOn '\n' := by
    rw [linesOf, List.map_map]
    exact (List.map_congr_left fun l _ => String.toList_ofList).trans (List.map_id _)
  rw [← String.toList_inj, String.toList_intercalate, hlines]
  exact (List.intercalate_splitOn '\n').trans String.toList_ofList.symm

/-- The lines that are printed of the job in its place, as JSON. -/
def trainJson : List String := [
  "\x7b",
  "  \"apiVersion\": \"jobset.x-k8s.io/v1alpha2\",",
  "  \"kind\": \"JobSet\",",
  "  \"metadata\": \x7b",
  "    \"annotations\": \x7b",
  "      \"alpha.jobset.sigs.k8s.io/exclusive-topology\": \"cloud.google.com/gke-nodepool\"",
  "    \x7d,",
  "    \"name\": \"train\"",
  "  \x7d,",
  "  \"spec\": \x7b",
  "    \"failurePolicy\": \x7b",
  "      \"maxRestarts\": 0",
  "    \x7d,",
  "    \"replicatedJobs\": [",
  "      \x7b",
  "        \"name\": \"job\",",
  "        \"replicas\": 1,",
  "        \"template\": \x7b",
  "          \"spec\": \x7b",
  "            \"backoffLimit\": 0,",
  "            \"completionMode\": \"Indexed\",",
  "            \"completions\": 1,",
  "            \"parallelism\": 1,",
  "            \"template\": \x7b",
  "              \"metadata\": \x7b",
  "                \"labels\": \x7b",
  "                  \"app\": \"train\"",
  "                \x7d",
  "              \x7d,",
  "              \"spec\": \x7b",
  "                \"containers\": [",
  "                  \x7b",
  "                    \"command\": [",
  "                      \"bash\",",
  "                      \"-c\",",
  "                      \"echo hi\"",
  "                    ],",
  "                    \"env\": [",
  "                      \x7b",
  "                        \"name\": \"NUM_TPU_SLICES\",",
  "                        \"value\": \"1\"",
  "                      \x7d",
  "                    ],",
  "                    \"image\": \"image\",",
  "                    \"imagePullPolicy\": \"Always\",",
  "                    \"name\": \"train\",",
  "                    \"ports\": [",
  "                      \x7b",
  "                        \"containerPort\": 8471",
  "                      \x7d,",
  "                      \x7b",
  "                        \"containerPort\": 8080",
  "                      \x7d,",
  "                      \x7b",
  "                        \"containerPort\": 8431",
  "                      \x7d",
  "                    ],",
  "                    \"resources\": \x7b",
  "                      \"limits\": \x7b",
  "                        \"google.com/tpu\": \"4\"",
  "                      \x7d",
  "                    \x7d,",
  "                    \"securityContext\": \x7b",
  "                      \"privileged\": true",
  "                    \x7d,",
  "                    \"volumeMounts\": []",
  "                  \x7d",
  "                ],",
  "                \"dnsPolicy\": \"ClusterFirstWithHostNet\",",
  "                \"hostNetwork\": true,",
  "                \"nodeSelector\": \x7b",
  "                  \"cloud.google.com/gke-tpu-accelerator\": \"tpu-v5p-slice\",",
  "                  \"cloud.google.com/gke-tpu-topology\": \"2x2x1\"",
  "                \x7d,",
  "                \"restartPolicy\": \"Never\",",
  "                \"serviceAccountName\": \"default\",",
  "                \"tolerations\": [",
  "                  \x7b",
  "                    \"effect\": \"NoSchedule\",",
  "                    \"key\": \"google.com/tpu\",",
  "                    \"operator\": \"Equal\",",
  "                    \"value\": \"present\"",
  "                  \x7d",
  "                ],",
  "                \"volumes\": []",
  "              \x7d",
  "            \x7d",
  "          \x7d",
  "        \x7d",
  "      \x7d",
  "    ]",
  "  \x7d",
  "\x7d",
  ""]

/-- The lines of the same as YAML. -/
def trainYaml : List String := [
  "apiVersion: jobset.x-k8s.io/v1alpha2",
  "kind: JobSet",
  "metadata:",
  "  annotations:",
  "    alpha.jobset.sigs.k8s.io/exclusive-topology: cloud.google.com/gke-nodepool",
  "  name: train",
  "spec:",
  "  failurePolicy:",
  "    maxRestarts: 0",
  "  replicatedJobs:",
  "  - name: job",
  "    replicas: 1",
  "    template:",
  "      spec:",
  "        backoffLimit: 0",
  "        completionMode: Indexed",
  "        completions: 1",
  "        parallelism: 1",
  "        template:",
  "          metadata:",
  "            labels:",
  "              app: train",
  "          spec:",
  "            containers:",
  "            - command:",
  "              - bash",
  "              - -c",
  "              - echo hi",
  "              env:",
  "              - name: NUM_TPU_SLICES",
  "                value: \x271\x27",
  "              image: image",
  "              imagePullPolicy: Always",
  "              name: train",
  "              ports:",
  "              - containerPort: 8471",
  "              - containerPort: 8080",
  "              - containerPort: 8431",
  "              resources:",
  "                limits:",
  "                  google.com/tpu: \x274\x27",
  "              securityContext:",
  "                privileged: true",
  "              volumeMounts: []",
  "            dnsPolicy: ClusterFirstWithHostNet",
  "            hostNetwork: true",
  "            nodeSelector:",
  "              cloud.google.com/gke-tpu-accelerator: tpu-v5p-slice",
  "              cloud.google.com/gke-tpu-topology: 2x2x1",
  "            restartPolicy: Never",
  "            serviceAccountName: default",
  "            tolerations:",
  "            - effect: NoSchedule",
  "              key: google.com/tpu",
  "              operator: Equal",
  "              value: present",
  "            volumes: []",
  ""]

/-! ## The two commands -/

/-- What `launch` does for a job. -/
abbrev launch (env : Settings.Environment) (file : Option String) (args : JobArgs) (v : Variant) :
    Session Outcome := (Action.launch args v).run env file

/-- What `build` does for a job. -/
abbrev build (env : Settings.Environment) (file : Option String) (args : JobArgs) (v : Variant)
    (format : Format) (apiVersion : String) : Session Outcome :=
  (Action.build args v format apiVersion).run env file

section

variable (env : Settings.Environment) (file : Option String) (args : JobArgs) (v : Variant)
  (answer : (step : Step) → σ → step.Answer × σ) (s : σ)

/-- The job cannot be configured. Both commands fail with the same error, and nothing is called. -/
structure Refused (e : Error) : Prop where
  launchFails : ((launch env file args v).run answer s).1 = .error e
  buildFails : ∀ format version, ((build env file args v format version).run answer s).1 = .error e
  uncalled : ∀ call, .call call ∉ (launch env file args v).questions answer s

/-- The job is one for the cluster, and `launch` submits it as `build` prints it. -/
structure SubmitsAsPrinted (job : JobSetJob) (document : JobSet.Document) : Prop where
  configured : ((configure env file args.envId (args.draft v)).run answer s).1 = .ok job.config
  /-- The job is the one that runs, and no machine is involved. -/
  ofConfig : Job.ofConfig job.config = .ok (.jobSet job)
  compiled : job.compile = .ok document
  annotations : (Job.jobSet job).annotations = .ok document.annotations
  printed : ∀ format version, ((build env file args v format version).run answer s).1
    = .ok (format.print (document.submit version).toJson)
  /-- Nothing of the document is lost in print. -/
  readsBack : ∀ version, ∃ text, ((build env file args v .json version).run answer s).1 = .ok text
    ∧ Json.parse? text = some (document.submit version).toJson
  called : .call (.credentials job.config.impersonateAccount job.config.impersonateScopes)
    ∈ (launch env file args v).questions answer s
  /-- `launch` begins as `build` does, and then makes the calls that submit the document. -/
  launched : ∃ calls, (∀ format version, (launch env file args v).rounds answer s
        = (build env file args v format version).rounds answer s ++ calls.map callRound)
    ∧ InOrder job.config.impersonateAccount job.config.impersonateScopes (job.createCall document)
        calls
  /-- What is created says what is printed under the version of the resource. -/
  created : ∀ c ns r body,
    .call (.create c ns r body) ∈ (launch env file args v).questions answer s →
    (∀ format, ((build env file args v format r.apiVersion).run answer s).1
        = .ok (format.print body))
      ∧ (∃ text, ((build env file args v .json r.apiVersion).run answer s).1 = .ok text
        ∧ Json.parse? text = some body)
      ∧ (body.field? "metadata").bind (·.field? "annotations")
        = some (Json.ofTexts document.annotations)
      ∧ JobSet.Submitted.ofJson body = .ok (document.submit r.apiVersion)
  machineless : ∀ line, .call (.run line) ∉ (launch env file args v).questions answer s

end

variable {env : Settings.Environment} {file : Option String} {args : JobArgs} {v : Variant}
  {answer : (step : Step) → σ → step.Answer × σ} {s : σ}

/-- A job that cannot be configured is refused by both commands. -/
theorem refused_of_configure {e : Error}
    (h : ((configure env file args.envId (args.draft v)).run answer s).1 = .error e) :
    Refused env file args v answer s e where
  launchFails := (andThen_of_error h submit).1
  buildFails format version := (andThen_of_error h _).1
  uncalled call := by
    have hrounds : (launch env file args v).rounds answer s
        = (configure env file args.envId (args.draft v)).rounds answer s :=
      (andThen_of_error h submit).2
    rw [← Program.map_fst_rounds, hrounds]
    exact (course_configure (Program.course_run answer _ s)).1 call

/-- The document to print is the document that the job compiles to. -/
theorem document_of_jobSet {job : JobSetJob} {document : JobSet.Document}
    (hjob : JobSetJob.ofConfig job.config = .ok job) (hcompile : job.compile = .ok document)
    (version : String) :
    Cli.document job.config version = .ok (document.submit version).toJson := by
  rw [Cli.document, hjob]
  show job.compile.bind _ = _
  rw [hcompile]
  rfl

/-- It is printed if the job can be configured. -/
theorem build_of_document {c : Job.Config} {body : Json} {version : String}
    (h : ((configure env file args.envId (args.draft v)).run answer s).1 = .ok c)
    (hbody : Cli.document c version = .ok body) (format : Format) :
    ((build env file args v format version).run answer s).1 = .ok (format.print body) := by
  refine (andThen_of_ok h _).1.trans ?_
  rw [hbody]
  rfl

/-- A job that can be configured is submitted as it is printed. -/
theorem submitsAsPrinted_of_configure {c : Job.Config}
    (h : ((configure env file args.envId (args.draft v)).run answer s).1 = .ok c) :
    ∃ job document, SubmitsAsPrinted env file args v answer s job document := by
  obtain ⟨hbefore, hbuilt⟩ :=
    course_configure (Program.course_run answer (configure env file args.envId (args.draft v)) s)
  obtain ⟨settings, hbuild⟩ := hbuilt c h
  obtain ⟨job, document, rfl, hjobSet, hjob, hcompile⟩ := Job.exists_jobSet_of_valid
    (Job.Draft.valid_of_build hbuild) (JobArgs.variant_of_build hbuild)
  have hprinted (format : Format) (version : String) :
      ((build env file args v format version).run answer s).1
        = .ok (format.print (document.submit version).toJson) :=
    build_of_document h (document_of_jobSet hjobSet hcompile version) format
  have hbuilds (format : Format) (version : String) :
      (build env file args v format version).rounds answer s
        = (configure env file args.envId (args.draft v)).rounds answer s :=
    (andThen_of_ok h _).2.trans (List.append_nil _)
  have hreads (version : String) :
      ∃ text, ((build env file args v .json version).run answer s).1 = .ok text
        ∧ Json.parse? text = some (document.submit version).toJson := by
    have hplain :=
      Job.plain_submit hbuild (JobArgs.variant_of_build hbuild) hjobSet hcompile version
    exact ⟨_, hprinted .json version, Json.parse?_pretty hplain⟩
  obtain ⟨calls, hcalls, horder⟩ :=
    calls_of_submit hjob hcompile (Program.course_run answer (submit job.config) _)
  have hlaunches : (launch env file args v).rounds answer s
      = (configure env file args.envId (args.draft v)).rounds answer s ++ calls.map callRound :=
    (andThen_of_ok h submit).2.trans (congrArg _ hcalls)
  have hcall (call : Call) :
      .call call ∈ (launch env file args v).questions answer s ↔ call ∈ calls.map (·.1) := by
    rw [← Program.map_fst_rounds, hlaunches, mem_calls hbefore]
  refine ⟨job, document, h, hjob, hcompile, ?annotations, hprinted, hreads, ?called,
    ⟨calls, fun format version => ?launched, horder⟩, fun c ns r body hmem => ?created,
    fun line hmem => ?machineless⟩
  case annotations =>
    rw [Job.annotations, hcompile]
    rfl
  case called => exact (hcall _).mpr horder.begins
  case launched => rw [hlaunches, hbuilds]
  case created =>
    rcases horder.cases ((hcall _).mp hmem) with heq | ⟨c', heq⟩ | ⟨c', r', heq⟩
    · cases heq
    · cases heq
    · cases heq
      exact ⟨fun format => hprinted format r.apiVersion, hreads r.apiVersion, rfl,
        JobSet.Submitted.ofJson_toJson _⟩
  case machineless =>
    rcases horder.cases ((hcall _).mp hmem) with heq | ⟨c', heq⟩ | ⟨c', r', heq⟩ <;> cases heq

/-- What `build` prints is what `launch` submits, whatever the command line and the settings say and
whatever answers the two. A job that cannot be configured fails in one exactly if it fails in the
other, with the same error and before anything is called; any other job is submitted as it is
printed, and the printed JSON reads back as what is submitted. -/
theorem launch_submits_what_build_prints (env : Settings.Environment) (file : Option String)
    (args : JobArgs) (v : Variant) (answer : (step : Step) → σ → step.Answer × σ) (s : σ) :
    (∀ format version e, ((build env file args v format version).run answer s).1 = .error e
      ↔ ((launch env file args v).run answer s).1 = .error e
        ∧ ∀ call, .call call ∉ (launch env file args v).questions answer s)
    ∧ ((∃ e, Refused env file args v answer s e)
      ∨ ∃ job document, SubmitsAsPrinted env file args v answer s job document) := by
  cases h : ((configure env file args.envId (args.draft v)).run answer s).1 with
  | error e =>
    have hrefused := refused_of_configure h
    refine ⟨fun format version e' => ?_, .inl ⟨e, hrefused⟩⟩
    rw [hrefused.buildFails, hrefused.launchFails]
    exact ⟨fun he => ⟨he, hrefused.uncalled⟩, fun he => he.1⟩
  | ok c =>
    obtain ⟨job, document, hsubmits⟩ := submitsAsPrinted_of_configure h
    refine ⟨fun format version e => ?_, .inr ⟨job, document, hsubmits⟩⟩
    rw [hsubmits.printed]
    constructor
    · intro he
      cases he
    · rintro ⟨-, huncalled⟩
      exact absurd hsubmits.called (huncalled _)

/-- The job is printed under the version that the cluster has, and what is created there is what the
printed text says. -/
theorem launch_submits_what_build_prints_train :
    ((build {} none trainPlaced (.tpu {}) .json Kube.fallbackApiVersion).run (scriptedWith {}) {}).1
      = .ok ("\n".intercalate trainJson)
    ∧ ((build {} none trainPlaced (.tpu {}) .yaml Kube.fallbackApiVersion).run (scriptedWith {})
        {}).1 = .ok ("\n".intercalate trainYaml)
    ∧ ∃ body, ((launch {} none trainPlaced (.tpu {})).questions (scriptedWith {}) {}).filterMap
          Step.creation?
        = [("default", Kube.Resource.of Kube.fallbackApiVersion Kube.jobSetKind, body)]
      ∧ Json.parse? ("\n".intercalate trainJson) = some body := by
  have hprint : (((configure {} none trainPlaced.envId (trainPlaced.draft (.tpu {}))).run
      (scriptedWith {}) {}).1.toOption.bind fun c =>
        (document c Kube.fallbackApiVersion).toOption).map
        (fun body => (linesOf (body.prettyChars 0 ++ ['\n']),
          linesOf (Yaml.valueChars .top 0 ['\n'] body))) = some (trainJson, trainYaml) := by
    decide +kernel
  have hcreate : (((launch {} none trainPlaced (.tpu {})).questions (scriptedWith {}) {}).filterMap
      Step.creation?).map (fun creation => (creation.1, creation.2.1))
        = [("default", Kube.Resource.of Kube.fallbackApiVersion Kube.jobSetKind)] := by
    decide +kernel
  obtain ⟨printed, hprinted, hlines⟩ := Option.map_eq_some_iff.mp hprint
  obtain ⟨c, hconfigure, hdocument⟩ := Option.bind_eq_some_iff.mp hprinted
  have hbuild := build_of_document (Except.toOption_eq_some_iff.mp hconfigure)
    (Except.toOption_eq_some_iff.mp hdocument)
  obtain ⟨hjsonLines, hyamlLines⟩ := Prod.mk.inj hlines
  have hjson : Format.print printed .json = "\n".intercalate trainJson := by
    rw [← hjsonLines, intercalate_linesOf, Format.print, Json.pretty, String.ofList_append]
  have hyaml : Format.print printed .yaml = "\n".intercalate trainYaml := by
    rw [← hyamlLines, intercalate_linesOf]
    rfl
  obtain ⟨⟨ns, r, body⟩, hcreations, hplace⟩ := List.map_eq_singleton_iff.mp hcreate
  cases hplace
  refine ⟨hjson ▸ hbuild .json, hyaml ▸ hbuild .yaml, body, hcreations, ?_⟩
  obtain ⟨step, hstep, hcreation⟩ := List.mem_filterMap.mp (hcreations ▸ List.mem_singleton_self _)
  obtain ⟨-, ⟨e, hrefused⟩ | ⟨job, document, hsubmits⟩⟩ :=
    launch_submits_what_build_prints {} none trainPlaced (.tpu {}) (scriptedWith {}) {}
  · cases (hbuild .json).symm.trans (hrefused.buildFails .json Kube.fallbackApiVersion)
  · cases step with
    | readFile path => cases hcreation
    | call call =>
      cases call with
      | create c ns r body' =>
        cases hcreation
        obtain ⟨-, ⟨text, htext, hreads⟩, -⟩ := hsubmits.created _ _ _ _ hstep
        cases (hbuild .json).symm.trans htext
        exact hjson ▸ hreads
      | _ => cases hcreation

end Cli

end JobLauncher
