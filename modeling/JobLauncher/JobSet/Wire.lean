import JobLauncher.JobSet.Document
import JobLauncher.Json.Decode

/-!
# Reading JobSets from JSON

A record is read from an object, unknown fields left aside, or from a list of its fields in order.
Of an object every known field is read, in key order, before a missing one is reported.
-/

namespace JobLauncher.JobSet

open Json

/-- A record of `count` fields, for messages about lists that are too short. -/
def recordOf (name : String) (count : Nat) : String :=
  "struct " ++ name ++ " with " ++ toString count ++ (if count = 1 then " element" else " elements")

/-- Whether a document is read on its own or out of the record around it. -/
inductive Setting where
  | alone
  | enclosed

/-- Refuses a list that goes on after the last field. Which number of items would have been right is
known only where the record is enclosed. -/
def Setting.checkLength (s : Setting) (items : List Json) (count : Nat) : Except DecodeError Unit :=
  if items.length ≤ count then .ok ()
  else .error (.wrongLength items.length (match s with
    | .alone => "fewer elements in array"
    | .enclosed =>
      toString count ++ (if count = 1 then " element" else " elements") ++ " in sequence"))

/-- The name and the annotations; without annotations there are none. -/
def decodeMetadata (s : Setting) : Decoder (String × Dict String)
  | .obj fields => do
    let annotations ← decodeField? fields "annotations" decodeTexts
    let name ← decodeField? fields "name" decodeText
    return (← require "name" name, annotations.getD Dict.empty)
  | .arr items => do
    let name ← decodeItem items 0 (recordOf "JobSetMetadata" 2) decodeText
    let annotations ← match items[1]? with
      | none => pure Dict.empty
      | some v => decodeTexts v
    s.checkLength items 2
    return (name, annotations)
  | v => .error (.wrongType v "struct JobSetMetadata")

/-- The number of restarts. -/
def decodeFailurePolicy (s : Setting) : Decoder UInt32
  | .obj fields => do
    require "maxRestarts" (← decodeField? fields "maxRestarts" decodeUInt32)
  | .arr items => do
    let maxRestarts ← decodeItem items 0 (recordOf "FailurePolicy" 1) decodeUInt32
    s.checkLength items 1
    return maxRestarts
  | v => .error (.wrongType v "struct FailurePolicy")

/-- The number of restarts and the replicated jobs. -/
def decodeSpec (s : Setting) : Decoder (UInt32 × List Json)
  | .obj fields => do
    let maxRestarts ← decodeField? fields "failurePolicy" (decodeFailurePolicy s)
    let jobs ← decodeField? fields "replicatedJobs" (decodeList decodeAny)
    return (← require "failurePolicy" maxRestarts, ← require "replicatedJobs" jobs)
  | .arr items => do
    let maxRestarts ← decodeItem items 0 (recordOf "JobSetSpec" 2) (decodeFailurePolicy s)
    let jobs ← decodeItem items 1 (recordOf "JobSetSpec" 2) (decodeList decodeAny)
    s.checkLength items 2
    return (maxRestarts, jobs)
  | v => .error (.wrongType v "struct JobSetSpec")

/-- The document of the fields of an object. -/
def decodeFields (s : Setting) (fields : List (String × Json)) : Except DecodeError Document := do
  let metadata ← decodeField? fields "metadata" (decodeMetadata s)
  let spec ← decodeField? fields "spec" (decodeSpec s)
  let (name, annotations) ← require "metadata" metadata
  let (maxRestarts, replicatedJobs) ← require "spec" spec
  return ⟨name, annotations, maxRestarts, replicatedJobs⟩

/-- Reads a document. -/
def Document.ofJson : Decoder Document
  | .obj fields => decodeFields .alone fields
  | .arr items => do
    let (name, annotations) ←
      decodeItem items 0 (recordOf "JobSetDocument" 2) (decodeMetadata .alone)
    let (maxRestarts, replicatedJobs) ←
      decodeItem items 1 (recordOf "JobSetDocument" 2) (decodeSpec .alone)
    Setting.alone.checkLength items 2
    return ⟨name, annotations, maxRestarts, replicatedJobs⟩
  | v => .error (.wrongType v "struct JobSetDocument")

/-- Reads a submitted document. The version and the kind come first; only then is the rest read as a
document. -/
def Submitted.ofJson : Decoder Submitted
  | .obj fields => do
    let apiVersion ← decodeField? fields "apiVersion" decodeText
    let kind ← decodeField? fields "kind" decodeText
    let apiVersion ← require "apiVersion" apiVersion
    let kind ← require "kind" kind
    return ⟨apiVersion, kind, ← decodeFields .enclosed fields⟩
  | v => .error (.wrongType v "struct SubmittedJobSet")

end JobLauncher.JobSet
