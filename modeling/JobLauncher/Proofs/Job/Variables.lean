import Mathlib.Data.List.Count
import JobLauncher.Proofs.Job.Pods

/-!
# Variables of the main container

The main container gets the variables of its variant and, after them, those of the job in the order
of their names. No two of the variant have the same name, and no two of the job, which are the
entries of a dictionary. But a job may name a variable of its variant. Nothing is done about it:
there are two entries for the variable then, and that of the job is the last.

The pods of a GPU job get the address of the first of them in this way. Its host is the name of the
job with an ending, and only the name is checked.

> `variable_names_nodup_iff`: every variable has one entry, except those of the variant that the job
> names too, which have two.
>
> `coordinator_host_check`: the host in the address passes the check of labels exactly if there is
> room for the ending.
-/

namespace JobLauncher

/-- The variables that jobs of the variant get, whatever they are set to. -/
def Variant.variables : Variant → List String
  | .tpu _ => ["NUM_TPU_SLICES"]
  | .gpu _ => ["DISTRIBUTED_COORDINATOR", "NUM_PROCESSES", "PROCESS_ID"]

/-- The variables of a variant are different ones. -/
theorem Variant.nodup_variables (v : Variant) : v.variables.Nodup := by
  cases v with
  | tpu o => exact List.nodup_singleton _
  | gpu o =>
    show ["DISTRIBUTED_COORDINATOR", "NUM_PROCESSES", "PROCESS_ID"].Nodup
    decide

namespace Job

variable {d : Draft} {settings : Settings.Source} {c : Config} {v : Variant} {a : Accelerator}
  {ctx : Context} {shape : Pod.Shape} {replicas pods : Nat}

/-! ## Entries -/

/-- The entries for a variable. -/
def entriesOf (name : String) (env : List Json) : List Json :=
  env.filter fun e => e.textAt? "name" == some name

theorem entriesOf_append (name : String) (env env' : List Json) :
    entriesOf name (env ++ env') = entriesOf name env ++ entriesOf name env' :=
  List.filter_append env env'

/-- What a variable is set to, entry by entry. An entry that takes its value from elsewhere gives
none. -/
def valuesOf (name : String) (env : List Json) : List (Option String) :=
  (entriesOf name env).map (Json.textAt? "value")

theorem valuesOf_append (name : String) (env env' : List Json) :
    valuesOf name (env ++ env') = valuesOf name env ++ valuesOf name env' := by
  rw [valuesOf, entriesOf_append, List.map_append]
  rfl

/-- Entries with different names: there is one for a variable, or none. -/
theorem length_entriesOf {env : List Json} {names : List String} (hnodup : names.Nodup)
    (h : env.map (Json.textAt? "name") = names.map some) (name : String) :
    (entriesOf name env).length = if name ∈ names then 1 else 0 := by
  have hcount : (entriesOf name env).length
      = (env.map (Json.textAt? "name")).count (some name) := by
    rw [entriesOf, ← List.countP_eq_length_filter, List.count, List.countP_map]
    rfl
  rw [hcount, h, List.count_map_of_injective _ _ (fun _ _ => Option.some.inj), hnodup.count]

/-- The entries for the variables of a job. -/
def entriesFor (vars : Dict String) : List Json := vars.toList.map fun e => Pod.envVar e.1 e.2

/-- A dictionary makes an entry for each of its keys. -/
theorem map_name_entriesFor (vars : Dict String) :
    (entriesFor vars).map (Json.textAt? "name") = vars.keys.map some := by
  rw [entriesFor, Dict.keys, List.map_map, List.map_map]
  rfl

/-- There is one entry of a name at most. -/
theorem entriesOf_entriesFor (vars : Dict String) (name : String) :
    entriesOf name (entriesFor vars) = ((vars.get? name).map (Pod.envVar name)).toList := by
  have hname : ((fun e : Json => e.textAt? "name" == some name)
      ∘ fun e : String × String => Pod.envVar e.1 e.2) = fun e => e.1 == name := rfl
  rw [entriesOf, entriesFor, List.filter_map, hname, Dict.filter_toList]
  cases vars.get? name with
  | none => rfl
  | some value => rfl

/-- The entries say what the dictionary does. -/
theorem map_entriesFor (vars : Dict String) :
    (entriesFor vars).map (fun e => (e.textAt? "name", e.textAt? "value"))
      = vars.toList.map (Prod.map some some) := by
  rw [entriesFor, List.map_map]
  rfl

/-- It reads the value that was set. -/
theorem valuesOf_entriesFor (vars : Dict String) (name : String) :
    valuesOf name (entriesFor vars) = ((vars.get? name).map some).toList := by
  rw [valuesOf, entriesOf_entriesFor]
  cases vars.get? name with
  | none => rfl
  | some value => rfl

/-! ## The environment of the main container -/

/-- The accelerator sets the variables of its variant, in this order. -/
theorem map_name_env (h : Arranged a ctx v replicas pods shape) :
    shape.main.env.map (Json.textAt? "name") = v.variables.map some := by
  cases h with
  | tpu => rfl
  | gpu => rfl

/-- The names are different exactly if the job names no variable of the variant. -/
theorem nodup_names_iff (v : Variant) (vars : Dict String) :
    (v.variables ++ vars.keys).Nodup ↔ ∀ name ∈ v.variables, vars.get? name = none := by
  rw [List.nodup_append']
  constructor
  · rintro ⟨-, -, hdisjoint⟩ name hname
    exact Decidable.byContradiction fun hset => hdisjoint hname (Dict.mem_keys_iff.mpr hset)
  · intro h
    refine ⟨v.nodup_variables, vars.nodup_keys, fun name hname hkey => ?_⟩
    exact Dict.mem_keys_iff.mp hkey (h name hname)

/-- The container lists the variables of the accelerator and then those that were set. -/
theorem field?_env_main (h : ctx.Shares c) (m : Pod.Main) :
    (Pod.mainContainer m ctx).field? "env" = some (.arr (m.env ++ entriesFor c.envVars)) := by
  rw [← h.envVars]
  rfl

/-- The main container sets the variables of the variant and then those of the job. Each has one
entry, except where the job sets a variable of the variant: that has two, and the last of them is
the one of the job. What the job sets has the value that it is set to. -/
theorem variable_names_nodup_iff (hbuild : d.build settings = .ok c) (hv : c.variant = some v) :
    ∃ job doc main sidecars own, JobSetJob.ofConfig c = .ok job ∧ job.compile = .ok doc
      ∧ doc.containers? = some (main :: sidecars) ∧ main.textAt? "name" = some c.name
      ∧ main.field? "env" = some (.arr (own ++ entriesFor c.envVars))
      ∧ own.map (Json.textAt? "name") = v.variables.map some
      ∧ (((own ++ entriesFor c.envVars).map (Json.textAt? "name")).Nodup
        ↔ ∀ name ∈ v.variables, c.envVars.get? name = none)
      ∧ ∀ name, (entriesOf name own).length = (if name ∈ v.variables then 1 else 0)
        ∧ entriesOf name (own ++ entriesFor c.envVars)
          = entriesOf name own ++ ((c.envVars.get? name).map (Pod.envVar name)).toList
        ∧ valuesOf name (own ++ entriesFor c.envVars)
          = valuesOf name own ++ ((c.envVars.get? name).map some).toList := by
  obtain ⟨job, doc, a, ctx, replicas, pods, shape, hjob, hdoc, -, hcontainers, harranged, hshares⟩ :=
    exists_containers hbuild hv
  have hnames := map_name_env harranged
  refine ⟨job, doc, _, _, shape.main.env, hjob, hdoc, hcontainers, ?name, ?env, hnames, ?nodup,
    fun name => ⟨length_entriesOf v.nodup_variables hnames name, ?entries, ?values⟩⟩
  case name => exact congrArg some hshares.name
  case env => exact field?_env_main hshares shape.main
  case nodup =>
    rw [List.map_append, hnames, map_name_entriesFor, ← List.map_append,
      List.nodup_map_iff fun _ _ => Option.some.inj, nodup_names_iff]
  case entries => rw [entriesOf_append, entriesOf_entriesFor]
  case values => rw [valuesOf_append, valuesOf_entriesFor]

/-- A GPU job that sets variables of its own. -/
def settingDraft (name : String) (vars : List (String × String)) : Draft :=
  ({ name } : Draft).applyAll ([.project "mine", .zone "there", .bundler (.docker "image"),
    .variant (.gpu {}), .accelerator ⟨"gpu-a3-highgpu-8g", 2⟩]
    ++ vars.map fun v => .envVar v.1 v.2)

/-- A job that sets a variable of its own lists each once. -/
theorem variable_names_nodup_iff_setting :
    ∃ c, (settingDraft "train" [("SEED", "7")]).build (fun _ => none) = .ok c
    ∧ c.variant = some (.gpu {})
    ∧ ∃ job doc main sidecars own, JobSetJob.ofConfig c = .ok job ∧ job.compile = .ok doc
      ∧ doc.containers? = some (main :: sidecars) ∧ main.textAt? "name" = some "train"
      ∧ main.field? "env" = some (.arr (own ++ [Pod.envVar "SEED" "7"]))
      ∧ own.map (Json.textAt? "name")
        = [some "DISTRIBUTED_COORDINATOR", some "NUM_PROCESSES", some "PROCESS_ID"]
      ∧ ((own ++ [Pod.envVar "SEED" "7"]).map (Json.textAt? "name")).Nodup
      ∧ valuesOf "SEED" (own ++ [Pod.envVar "SEED" "7"]) = [some "7"] := by
  have hbuild : (settingDraft "train" [("SEED", "7")]).build (fun _ => none)
      = .ok ((settingDraft "train" [("SEED", "7")]).fill (fun _ => none) "mine" "there") := rfl
  obtain ⟨job, doc, main, sidecars, own, hjob, hdoc, hcontainers, hname, henv, hnames, hnodup,
    hentries⟩ := variable_names_nodup_iff hbuild rfl
  obtain ⟨hlength, -, hvalues⟩ := hentries "SEED"
  have hown : valuesOf "SEED" own = [] := by
    rw [valuesOf, List.map_eq_nil_iff, ← List.length_eq_zero_iff, hlength]
    rfl
  rw [hown] at hvalues
  exact ⟨_, hbuild, rfl, job, doc, main, sidecars, own, hjob, hdoc, hcontainers, hname, henv, hnames,
    hnodup.mpr (by decide), hvalues⟩

/-- The number of the pod is there, and after it the one that the job says. -/
theorem process_set_twice :
    ∃ c, (settingDraft "train" [("PROCESS_ID", "0")]).build (fun _ => none) = .ok c
    ∧ ∃ job doc main sidecars env, JobSetJob.ofConfig c = .ok job ∧ job.compile = .ok doc
      ∧ doc.containers? = some (main :: sidecars) ∧ main.field? "env" = some (.arr env)
      ∧ entriesOf "PROCESS_ID" env
        = [Pod.indexVar "PROCESS_ID", Pod.envVar "PROCESS_ID" "0"]
      ∧ valuesOf "PROCESS_ID" env = [none, some "0"]
      ∧ ¬(env.map (Json.textAt? "name")).Nodup := by
  have hbuild : (settingDraft "train" [("PROCESS_ID", "0")]).build (fun _ => none)
      = .ok ((settingDraft "train" [("PROCESS_ID", "0")]).fill (fun _ => none) "mine" "there") := rfl
  obtain ⟨job, doc, a, ctx, replicas, pods, shape, hjob, hdoc, -, hcontainers, harranged, hshares⟩ :=
    exists_containers hbuild rfl
  refine ⟨_, hbuild, job, doc, _, _, _, hjob, hdoc, hcontainers,
    field?_env_main hshares shape.main, ?entries, ?values, ?names⟩
  case entries =>
    rw [entriesOf_append, entriesOf_entriesFor]
    cases harranged
    rfl
  case values =>
    rw [valuesOf_append, valuesOf_entriesFor]
    cases harranged
    rfl
  case names =>
    rw [List.map_append, map_name_env harranged, map_name_entriesFor]
    decide

/-! ## The address of the first pod -/

/-- What follows the name of the job in the host of the first pod. -/
def hostEnding : String := "-job-0-0"

theorem utf8ByteSize_hostEnding : hostEnding.utf8ByteSize = 8 := by decide +kernel

/-- The host of the coordinator is the name of the job with an ending. -/
theorem coordinatorHost_eq (name : String) :
    Gpu.ReplicatedJob.coordinatorHost name = name ++ hostEnding := by
  rw [Gpu.ReplicatedJob.coordinatorHost, String.append_assoc, String.append_assoc]
  rfl

/-- Its address is the host within the service, and the port. -/
theorem coordinatorAddress_eq (name : String) : Gpu.ReplicatedJob.coordinatorAddress name
    = Gpu.ReplicatedJob.coordinatorHost name ++ "." ++ name ++ ":8080" := by
  have hport : ":" ++ toString Gpu.coordinatorPort = ":8080" := by decide +kernel
  rw [Gpu.ReplicatedJob.coordinatorAddress, String.append_assoc, hport]

/-- The ending leaves room for a name of 55 bytes. -/
theorem isLabel_coordinatorHost_iff {name : String} (h : Kube.Label.IsLabel name) :
    Kube.Label.IsLabel (name ++ hostEnding) ↔ name.utf8ByteSize ≤ 55 := by
  have hinner : hostEnding.toList.all Kube.Label.isInner = true := by decide
  rw [Kube.Label.isLabel_append_iff h (List.all_eq_true.mp hinner) (by decide),
    utf8ByteSize_hostEnding, Kube.Label.maxLength]
  omega

/-- The check of the host fails for its length, or not at all. -/
theorem check_coordinatorHost {name : String} (h : Kube.Label.IsLabel name) (what : String) :
    Kube.Label.check what (name ++ hostEnding)
      = if name.utf8ByteSize ≤ 55 then .ok ()
        else .error (what ++ " must be at most 63 characters: " ++ (name ++ hostEnding)) := by
  split
  next hroom => exact Kube.Label.check_eq_ok_iff.mpr ((isLabel_coordinatorHost_iff h).mpr hroom)
  next hroom =>
    have hlong : Kube.Label.maxLength < (name ++ hostEnding).utf8ByteSize := by
      rw [String.utf8ByteSize_append, utf8ByteSize_hostEnding, Kube.Label.maxLength]
      omega
    exact Kube.Label.check_of_tooLong hlong what

/-- The variant of a GPU job lists the address of the coordinator once. -/
theorem entriesOf_coordinator {o : Gpu.Options} (h : Arranged a ctx (.gpu o) replicas pods shape) :
    entriesOf "DISTRIBUTED_COORDINATOR" shape.main.env
      = [Pod.envVar "DISTRIBUTED_COORDINATOR"
          (Gpu.ReplicatedJob.coordinatorHost ctx.name ++ "." ++ ctx.name ++ ":8080")] := by
  rw [← coordinatorAddress_eq]
  cases h
  rfl

/-- The container lists it, and after it what the job sets instead. -/
theorem entriesOf_coordinator_main {o : Gpu.Options}
    (h : Arranged a ctx (.gpu o) replicas pods shape) (hshares : ctx.Shares c) :
    entriesOf "DISTRIBUTED_COORDINATOR" (shape.main.env ++ entriesFor c.envVars)
      = Pod.envVar "DISTRIBUTED_COORDINATOR" (c.name ++ hostEnding ++ "." ++ c.name ++ ":8080")
        :: ((c.envVars.get? "DISTRIBUTED_COORDINATOR").map
          (Pod.envVar "DISTRIBUTED_COORDINATOR")).toList := by
  rw [entriesOf_append, entriesOf_entriesFor, entriesOf_coordinator h, coordinatorHost_eq,
    hshares.name]
  rfl

/-- The values are the host within the service with the port, and what the job sets. -/
theorem valuesOf_coordinator_main {o : Gpu.Options}
    (h : Arranged a ctx (.gpu o) replicas pods shape) (hshares : ctx.Shares c) :
    valuesOf "DISTRIBUTED_COORDINATOR" (shape.main.env ++ entriesFor c.envVars)
      = some (c.name ++ hostEnding ++ "." ++ c.name ++ ":8080")
        :: ((c.envVars.get? "DISTRIBUTED_COORDINATOR").map some).toList := by
  rw [valuesOf_append, valuesOf_entriesFor, valuesOf, entriesOf_coordinator h, coordinatorHost_eq,
    hshares.name]
  rfl

/-- The pods of a GPU job are told the address of the first of them, unless the job goes on to tell
them another. It is a host, a dot, the name of the document and a port. The name is a label. The
host is the name with 8 more bytes, and a label exactly if the name has at most 55 of the 63 bytes
that it may have; otherwise it is too long. -/
theorem coordinator_host_check {o : Gpu.Options} (hbuild : d.build settings = .ok c)
    (hv : c.variant = some (.gpu o)) :
    ∃ job doc main sidecars env host, JobSetJob.ofConfig c = .ok job ∧ job.compile = .ok doc
      ∧ doc.containers? = some (main :: sidecars) ∧ main.field? "env" = some (.arr env)
      ∧ entriesOf "DISTRIBUTED_COORDINATOR" env
        = Pod.envVar "DISTRIBUTED_COORDINATOR" (host ++ "." ++ doc.name ++ ":8080")
          :: ((c.envVars.get? "DISTRIBUTED_COORDINATOR").map
            (Pod.envVar "DISTRIBUTED_COORDINATOR")).toList
      ∧ valuesOf "DISTRIBUTED_COORDINATOR" env
        = some (host ++ "." ++ doc.name ++ ":8080")
          :: ((c.envVars.get? "DISTRIBUTED_COORDINATOR").map some).toList
      ∧ doc.name = c.name ∧ host = c.name ++ "-job-0-0"
      ∧ (∀ what, Kube.Label.check what doc.name = .ok ())
      ∧ ∀ what, Kube.Label.check what host
        = if c.name.utf8ByteSize ≤ 55 then .ok ()
          else .error (what ++ " must be at most 63 characters: " ++ host) := by
  obtain ⟨job, doc, a, ctx, replicas, pods, shape, hjob, hdoc, hname, hcontainers, harranged,
    hshares⟩ := exists_containers hbuild hv
  -- the name has been checked when the job was built; the host is never checked
  have hlabel : Kube.Label.IsLabel c.name := isLabel_name (Draft.valid_of_build hbuild) hv
  refine ⟨job, doc, _, _, _, _, hjob, hdoc, hcontainers, field?_env_main hshares shape.main, ?entries,
    ?values, hname, rfl, fun what => ?name, check_coordinatorHost hlabel⟩
  case entries =>
    rw [hname]
    exact entriesOf_coordinator_main harranged hshares
  case values =>
    rw [hname]
    exact valuesOf_coordinator_main harranged hshares
  case name =>
    rw [hname]
    exact Kube.Label.check_eq_ok_iff.mpr hlabel

/-- A name of so many bytes. -/
def longName (n : Nat) : String := String.ofList (List.replicate n 'a')

/-- With a name of 55 bytes the host is a label. -/
theorem coordinator_host_check_room :
    ∃ c, (settingDraft (longName 55) []).build (fun _ => none) = .ok c
    ∧ c.variant = some (.gpu {})
    ∧ ∃ job doc main sidecars env host, JobSetJob.ofConfig c = .ok job ∧ job.compile = .ok doc
      ∧ doc.containers? = some (main :: sidecars) ∧ main.field? "env" = some (.arr env)
      ∧ entriesOf "DISTRIBUTED_COORDINATOR" env
        = [Pod.envVar "DISTRIBUTED_COORDINATOR" (host ++ "." ++ doc.name ++ ":8080")]
      ∧ valuesOf "DISTRIBUTED_COORDINATOR" env = [some (host ++ "." ++ doc.name ++ ":8080")]
      ∧ doc.name = longName 55 ∧ host = longName 55 ++ "-job-0-0"
      ∧ Kube.Label.check "host" host = .ok () := by
  have hbuild : (settingDraft (longName 55) []).build (fun _ => none)
      = .ok ((settingDraft (longName 55) []).fill (fun _ => none) "mine" "there") := rfl
  obtain ⟨job, doc, main, sidecars, env, host, hjob, hdoc, hcontainers, henv, hentries, hvalues,
    hname, hhost, -, hcheck⟩ := coordinator_host_check hbuild rfl
  refine ⟨_, hbuild, rfl, job, doc, main, sidecars, env, host, hjob, hdoc, hcontainers, henv,
    hentries, hvalues, hname, hhost, ?_⟩
  rw [hcheck]
  exact if_pos (by decide +kernel)

/-- With one byte more the job is still accepted, and the host is no label any more. -/
theorem coordinator_host_too_long :
    ∃ c, (settingDraft (longName 56) []).build (fun _ => none) = .ok c
    ∧ ∃ job doc main sidecars env host, JobSetJob.ofConfig c = .ok job ∧ job.compile = .ok doc
      ∧ doc.containers? = some (main :: sidecars) ∧ main.field? "env" = some (.arr env)
      ∧ entriesOf "DISTRIBUTED_COORDINATOR" env
        = [Pod.envVar "DISTRIBUTED_COORDINATOR" (host ++ "." ++ doc.name ++ ":8080")]
      ∧ valuesOf "DISTRIBUTED_COORDINATOR" env = [some (host ++ "." ++ doc.name ++ ":8080")]
      ∧ host = longName 56 ++ "-job-0-0"
      ∧ Kube.Label.check "host" host
        = .error ("host must be at most 63 characters: " ++ host) := by
  have hbuild : (settingDraft (longName 56) []).build (fun _ => none)
      = .ok ((settingDraft (longName 56) []).fill (fun _ => none) "mine" "there") := rfl
  obtain ⟨job, doc, a, ctx, replicas, pods, shape, hjob, hdoc, hname, hcontainers, harranged,
    hshares⟩ := exists_containers hbuild rfl
  have hlabel : Kube.Label.IsLabel (longName 56) := isLabel_name (Draft.valid_of_build hbuild) rfl
  refine ⟨_, hbuild, job, doc, _, _, _, _, hjob, hdoc, hcontainers,
    field?_env_main hshares shape.main, ?entries, ?values, rfl, ?check⟩
  case entries =>
    rw [hname]
    exact entriesOf_coordinator_main harranged hshares
  case values =>
    rw [hname]
    exact valuesOf_coordinator_main harranged hshares
  case check =>
    exact (check_coordinatorHost hlabel "host").trans (if_neg (by decide +kernel))

end Job
end JobLauncher
