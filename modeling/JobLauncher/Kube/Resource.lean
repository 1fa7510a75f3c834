import JobLauncher.Text.Cut
import JobLauncher.Text.Lowercase

/-!
# Kinds of resources

A kind of cluster object, the version of the interface under which it is served, and the plural that
stands for it in paths.
-/

namespace JobLauncher.Kube

/-- A resource kind as it is served. -/
structure Resource where
  group : String
  version : String
  /-- Group and version in one, as an object states them. -/
  apiVersion : String
  kind : String
  plural : String
  deriving DecidableEq, Repr

namespace Resource

/-- The group and the version of an interface version. The core group has no name and no slash. -/
def parseApiVersion (s : String) : String × String := (Text.cut? '/' s).getD ("", s)

/-- The plural of a kind: lower case, with the ending that English spelling asks for. -/
def pluralize (kind : String) : String :=
  let lower := Text.lowercase kind
  if Text.endsWith "s" lower || Text.endsWith "ch" lower || Text.endsWith "sh" lower then
    lower ++ "es"
  else if Text.endsWith "y" lower && !Text.endsWith "ay" lower && !Text.endsWith "ey" lower then
    String.ofList lower.toList.dropLast ++ "ies"
  else lower ++ "s"

/-- The resource of a kind in an interface version, with the regular plural. -/
def of (apiVersion kind : String) : Resource where
  group := (parseApiVersion apiVersion).1
  version := (parseApiVersion apiVersion).2
  apiVersion
  kind
  plural := pluralize kind

end Resource

/-- The group of the JobSet resource. -/
def jobSetGroup : String := "jobset.x-k8s.io"

def jobSetKind : String := "JobSet"

/-- The version of JobSet to assume where the cluster does not say. -/
def fallbackApiVersion : String := "jobset.x-k8s.io/v1alpha2"

/-- The JobSet resource after a discovery: what it found, or the fallback where it failed. A
discovery that succeeds without finding the resource means that the cluster does not have it. -/
def jobSetResource (discovered : Except ε (Option Resource)) : Option Resource :=
  match discovered with
  | .ok found => found
  | .error _ => some (Resource.of fallbackApiVersion jobSetKind)

/-- The namespace of whatever names none. -/
def defaultNamespace : String := "default"

/-- The service account of pods for which none is named. -/
def defaultServiceAccount : String := "default"

end JobLauncher.Kube
