import JobLauncher.Json.Basic
import JobLauncher.Kube.Resource

/-!
# JobSet documents

What a JobSet says, apart from the version of the interface under which it is submitted. A
replicated job is a JSON value that nothing here looks into, except for its name.
-/

namespace JobLauncher.JobSet

/-- The body of a JobSet. -/
structure Document where
  name : String
  annotations : Dict String
  /-- How often the whole set is started again after a failure. -/
  maxRestarts : UInt32
  replicatedJobs : List Json

/-- A document as it is submitted. -/
structure Submitted where
  apiVersion : String
  kind : String
  document : Document

/-- The name of a replicated job, if it is an object whose name is a text. -/
def replicatedJobName? (job : Json) : Option String := (job.field? "name").bind Json.text?

namespace Document

/-- The document as a JobSet of an interface version. -/
def submit (d : Document) (apiVersion : String) : Submitted := ⟨apiVersion, Kube.jobSetKind, d⟩

/-- The value of an annotation. -/
def annotation? (d : Document) (key : String) : Option String := d.annotations.get? key

/-- The metadata of a document as JSON. -/
def metadataJson (d : Document) : Json :=
  .obj [("annotations", Json.ofTexts d.annotations), ("name", .str d.name)]

/-- The specification of a document as JSON. -/
def specJson (d : Document) : Json :=
  .obj [
    ("failurePolicy", .obj [("maxRestarts", Json.nat d.maxRestarts.toNat)]),
    ("replicatedJobs", .arr d.replicatedJobs)]

/-- The document as JSON. -/
def toJson (d : Document) : Json := .obj [("metadata", d.metadataJson), ("spec", d.specJson)]

end Document

/-- A submitted document as JSON: the fields of the document beside the version and the kind. -/
def Submitted.toJson (s : Submitted) : Json :=
  .obj [
    ("apiVersion", .str s.apiVersion),
    ("kind", .str s.kind),
    ("metadata", s.document.metadataJson),
    ("spec", s.document.specJson)]

end JobLauncher.JobSet
