import JobLauncher.Kube.Client
import JobLauncher.Kube.Version

/-!
# Discovery

Which resources the cluster serves, and under which version the JobSet resource is best addressed.
Where the cluster does not say, a version that is known to have existed is assumed.
-/

namespace JobLauncher.Kube

/-- A version of a group, as the list of groups names it. -/
structure GroupVersion where
  groupVersion : String
  version : String

/-- A group of resources. -/
structure Group where
  name : String
  versions : List GroupVersion

/-- A resource as the list of its version names it. -/
structure Served where
  name : String
  kind : String
  group : Option String
  version : Option String

/-- An object, each field read by what `read` does with its name. -/
def decodeObject (what : String) (read : List (String × Json) → Except Json.DecodeError α) :
    Json.Decoder α
  | .obj fields => read fields
  | v => .error (.wrongType v what)

/-- A text that counts as empty when it is not there. -/
def decodeTextOrEmpty (fields : List (String × Json)) (name : String) :
    Except Json.DecodeError String :=
  return (← decodeNullable? fields name Json.decodeText).getD ""

def GroupVersion.ofJson : Json.Decoder GroupVersion :=
  decodeObject "GroupVersionForDiscovery" fun fields =>
    return ⟨← decodeTextOrEmpty fields "groupVersion", ← decodeTextOrEmpty fields "version"⟩

def Group.ofJson : Json.Decoder Group :=
  decodeObject "APIGroup" fun fields => do
    let name ← decodeTextOrEmpty fields "name"
    let versions ← decodeNullable? fields "versions" (Json.decodeList GroupVersion.ofJson)
    return ⟨name, versions.getD []⟩

def Served.ofJson : Json.Decoder Served :=
  decodeObject "APIResource" fun fields => do
    let group ← decodeNullable? fields "group" Json.decodeText
    let kind ← decodeTextOrEmpty fields "kind"
    let name ← decodeTextOrEmpty fields "name"
    let version ← decodeNullable? fields "version" Json.decodeText
    return ⟨name, kind, group, version⟩

/-- The groups of a cluster. -/
def decodeGroups : Json.Decoder (List Group) :=
  decodeObject "APIGroupList" fun fields =>
    return (← decodeNullable? fields "groups" (Json.decodeList Group.ofJson)).getD []

/-- The resources of a version, and the version as the list itself states it. -/
def decodeServed : Json.Decoder (String × List Served) :=
  decodeObject "APIResourceList" fun fields => do
    let groupVersion ← decodeTextOrEmpty fields "groupVersion"
    let resources ← decodeNullable? fields "resources" (Json.decodeList Served.ofJson)
    return (groupVersion, resources.getD [])

/-- The group and version that a list states: one part or two. -/
def splitGroupVersion? (s : String) : Option (String × String) :=
  match Text.split '/' s with
  | [version] => some ("", version)
  | [group, version] => some (group, version)
  | _ => none

/-- The resources that a list names. Those with a slash in their name belong to others. -/
def resourcesOf (groupVersion : String) (served : List Served) : Except Failure (List Resource) :=
  (served.filter fun s => !Text.has '/' s.name).mapM fun s =>
    match splitGroupVersion? groupVersion with
    | none => .error (.service ("invalid group version: " ++ groupVersion))
    | some (group, version) => .ok {
        group := s.group.getD group
        version := s.version.getD version
        apiVersion := groupVersion
        kind := s.kind
        plural := s.name }

/-- The resources of one version after another, each with the version that lists it. -/
def discoverVersions (c : ClientConfig) :
    List GroupVersion → Attempt (List (String × List Resource))
  | [] => .done (.ok [])
  | v :: rest =>
    (c.request .get ("/apis/" ++ v.groupVersion) none).bind fun text =>
      match text >>= decodeReply decodeServed >>= fun p => resourcesOf p.1 p.2 with
      | .error f => .done (.error f)
      | .ok resources => (discoverVersions c rest).bind fun more =>
          .done (more.map fun more => (v.version, resources) :: more)

/-- The versions in order of preference, equals as they were. -/
def sortVersions (l : List (String × List Resource)) : List (String × List Resource) :=
  l.mergeSort fun a b => !(Version.parse b.1).before (Version.parse a.1)

/-- The resource of a kind that is served in the best version. -/
def bestResource (kind : String) (l : List (String × List Resource)) : Option Resource :=
  Version.best? (fun r => Version.parse r.version)
    ((sortVersions l).flatMap fun v => v.2.filter fun r => r.kind == kind)

/-- Looks for the JobSet resource in its group; the last group of that name counts. A group without
a version cannot be asked. -/
def discoverGroups (c : ClientConfig) (found : Option Resource) :
    List Group → Attempt (Option Resource)
  | [] => .done (.ok found)
  | g :: rest =>
    -- a group of the same name takes the place of what was found before
    if g.name ≠ jobSetGroup then discoverGroups c found rest
    else if g.versions.isEmpty then .done (.error (.service ("group has no version: " ++ g.name)))
    else (discoverVersions c g.versions).bind fun
      | .error f => .done (.error f)
      | .ok versions => discoverGroups c (bestResource jobSetKind versions) rest

/-- Looks for the JobSet resource in the cluster. -/
def discover (c : ClientConfig) : Attempt (Option Resource) :=
  (c.request .get "/apis" none).bind fun text =>
    match text >>= decodeReply decodeGroups with
    | .error f => .done (.error f)
    | .ok groups => discoverGroups c none groups

end JobLauncher.Kube
