import JobLauncher.Control.Call
import JobLauncher.Job.Replicated

/-!
# Jobs in a cluster

Submitting a job to the cluster and having it deleted. Each is one pass through the calls it needs,
none of them twice: what the cluster refuses is reported and not tried again, and neither waits for
what the cluster does afterwards.
-/

namespace JobLauncher

/-- A job for the cluster. -/
structure JobSetJob where
  config : Job.Config
  replicated : Job.Replicated

namespace JobSetJob

/-- The job of a configuration, with the replicated jobs of its variant. -/
def ofConfig (c : Job.Config) : Except Job.Error JobSetJob :=
  (Job.Replicated.ofConfig c).map fun r => ⟨c, r⟩

/-- The document of the job. -/
def compile (j : JobSetJob) : Except Job.Error JobSet.Document := j.config.compile j.replicated

/-- Submits the job and gives the object as the cluster has it. The document is made before anything
is asked, and gets the version under which the cluster serves JobSets. What is sent is an object of
any kind, read from the document. -/
def execute (j : JobSetJob) : Control (Except Job.Error Json) :=
  match j.compile with
  | .error e => .done (.error e)
  | .ok document =>
    .ask (.credentials j.config.impersonateAccount j.config.impersonateScopes) fun
    | .error e => .done (.error (.ofError e))
    | .ok credentials =>
      .ask (.resolve credentials) fun
      | .error source => .done (.error (.submission j.config.name source))
      | .ok none => .done (.error (.crdMissing j.config.name))
      | .ok (some resource) =>
        match Kube.decodeObjectOfAnyKind (document.submit resource.apiVersion).toJson with
        | .error e => .done (.error (.serialization e.message))
        | .ok object =>
          .ask (.create credentials j.config.ns resource object) fun
          | .error source => .done (.error (.submission j.config.name source))
          | .ok created => .done (.ok created)

end JobSetJob

/-- A JobSet in the cluster, and the identity to use towards it. -/
structure JobSetRef where
  name : String
  ns : String
  impersonateAccount : Option String
  impersonateScopes : List String
  deriving DecidableEq, Repr

/-- What comes of asking for a JobSet to be deleted. -/
inductive Deletion where
  /-- The cluster will delete it. -/
  | requested
  /-- There is nothing to delete. -/
  | notFound
  deriving DecidableEq, Repr

namespace JobSetRef

/-- The JobSet of a job. -/
def ofConfig (c : Job.Config) : JobSetRef :=
  ⟨c.name, c.ns, c.impersonateAccount, c.impersonateScopes⟩

/-- Asks for the JobSet to be deleted. Where the cluster has no such JobSet, or no JobSets at all,
there is nothing to delete. -/
def delete (t : JobSetRef) : Control (Except Job.Error Deletion) :=
  .ask (.credentials t.impersonateAccount t.impersonateScopes) fun
  | .error e => .done (.error (.ofError e))
  | .ok credentials =>
    .ask (.resolve credentials) fun
    | .error source => .done (.error (.deletion t.name source))
    | .ok none => .done (.ok .notFound)
    | .ok (some resource) =>
      .ask (.delete credentials t.ns resource t.name) fun
      | .ok () => .done (.ok .requested)
      | .error source =>
        -- it may have gone since
        if source.isNotFound then .done (.ok .notFound)
        else .done (.error (.deletion t.name source))

end JobSetRef

/-- Asks for the JobSet of the job to be deleted. -/
def JobSetJob.delete (j : JobSetJob) : Control (Except Job.Error Deletion) :=
  (JobSetRef.ofConfig j.config).delete

end JobLauncher
