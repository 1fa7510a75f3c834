import JobLauncher.Kube.Discovery

/-!
# JobSets in the cluster

The three things that are done with JobSets in a cluster: finding out how they are addressed,
creating one, and asking for one to be deleted with all that belongs to it.
-/

namespace JobLauncher.Kube

/-- The path of the objects of a kind in a namespace. -/
def Resource.path (r : Resource) (ns : String) : String :=
  (if r.group = "" then "/api/" else "/apis/") ++ r.apiVersion ++ "/namespaces/" ++ ns ++ "/"
    ++ r.plural

/-- The body of a request to delete an object after all that belongs to it. -/
def foregroundDeletion : Json := .obj [("propagationPolicy", .str "Foreground")]

/-- Checks what the metadata of an object says of its name and its annotations. -/
def checkMetadata (fields : List (String × Json)) : Except Json.DecodeError Unit := do
  let _ ← decodeNullable? fields "annotations" Json.decodeTexts
  let _ ← decodeNullable? fields "name" Json.decodeText

/-- An object of the cluster, with metadata and whatever else. -/
def decodeObjectOfAnyKind : Json.Decoder Json
  | .obj fields =>
    match fields.lookup "metadata" with
    | none => .error (.missingField "metadata")
    | some (.obj metadata) => (checkMetadata metadata).map fun _ => .obj fields
    | some v => .error (.wrongType v "ObjectMeta")
  | v => .error (.wrongType v "DynamicObject")

namespace Credentials

/-- Goes on with credentials that can be sent. -/
def attempt (c : Credentials) (act : ClientConfig → Attempt α) : Attempt α :=
  if c.config.isUsable then act c.config else .done (.error .header)

/-- The JobSet resource as the cluster serves it; none if it does not. -/
def resolve (c : Credentials) : Attempt (Option Resource) :=
  c.attempt fun config => (discover config).bind fun found => .done (.ok (jobSetResource found))

/-- Creates an object and gives it as the cluster has it. -/
def create (c : Credentials) (ns : String) (r : Resource) (body : Json) : Attempt Json :=
  c.attempt fun config =>
    (config.request .post (r.path ns) (some body)).bind fun text =>
      .done (text >>= decodeReply decodeObjectOfAnyKind)

/-- Asks for an object to be deleted. -/
def delete (c : Credentials) (ns : String) (r : Resource) (name : String) : Attempt Unit :=
  c.attempt fun config =>
    if name = "" then .done (.error (.request "a non-empty name is required"))
    else
      (config.request .delete (r.path ns ++ "/" ++ name) (some foregroundDeletion)).bind fun text =>
        .done (text >>= decodeReply fun _ => .ok ())

end Credentials

end JobLauncher.Kube
