import JobLauncher.Kube.Http
import JobLauncher.Kube.ServiceAccount

/-!
# Acting under an identity

A `ClientConfig` says under which identity requests are made. `getCredentials` changes it to a
service account, but only after the cluster has said, to the identity at hand, that it may act as
that account.
-/

namespace JobLauncher.Kube

/-- How to speak to the cluster. -/
structure ClientConfig where
  defaultNamespace : String := Kube.defaultNamespace
  /-- The user to act as, and the groups to act with. -/
  impersonate : Option String := none
  groups : Option (List String) := none
  deriving DecidableEq, Repr

namespace ClientConfig

/-- The same configuration for another user. Groups come from the scopes alone; without scopes there
are none. -/
def actAs (c : ClientConfig) (username : String) (scopes : List String) : ClientConfig :=
  { c with impersonate := some username, groups := if scopes = [] then none else some scopes }

/-- Names that cannot be sent make a configuration useless. -/
def isUsable (c : ClientConfig) : Bool :=
  c.impersonate.toList.all Http.isHeaderText && (c.groups.getD []).all Http.isHeaderText

/-- Sends a request under the identity of the configuration. -/
def request (c : ClientConfig) (method : Http.Method) (path : String) (body : Option Json) :
    Attempt String :=
  match Http.target? path with
  | none => .done (.error (.request "invalid uri character"))
  | some path =>
    .ask { method, path, user := c.impersonate, groups := c.groups.getD [], body } fun
      | .error text => .done (.error (.service text))
      | .ok reply => .done reply.text

end ClientConfig

/-- An identity for one operation. -/
structure Credentials where
  config : ClientConfig
  /-- The user acted as; none for the ambient identity. -/
  identity : Option String
  scopes : List String
  deriving DecidableEq, Repr

/-- The identity that was there before. -/
def Credentials.ambient (c : ClientConfig) : Credentials := ⟨c, none, []⟩

/-! ## Access reviews -/

def reviewVersion : String := "authorization.k8s.io/v1"
def reviewKind : String := "SelfSubjectAccessReview"

/-- The question whether one may act as a service account. -/
def reviewJson (a : ServiceAccount) : Json :=
  .obj [
    ("apiVersion", .str reviewVersion),
    ("kind", .str reviewKind),
    ("metadata", .obj []),
    ("spec", .obj [("resourceAttributes", .obj [
      ("name", .str a.name),
      ("namespace", .str a.ns),
      ("resource", .str "serviceaccounts"),
      ("verb", .str "impersonate")])])]

/-- The answer to a review: whether it is allowed and, if a reason is given, why. -/
structure Verdict where
  allowed : Bool
  reason : Option String
  deriving DecidableEq, Repr

/-- Reads a field that may be null. -/
def decodeNullable? (fields : List (String × Json)) (name : String) (read : Json.Decoder α) :
    Except Json.DecodeError (Option α) :=
  match fields.lookup name with
  | none | some .null => .ok none
  | some v => (read v).map some

def decodeBool : Json.Decoder Bool
  | .bool b => .ok b
  | v => .error (.wrongType v "a boolean")

/-- A text that has to be `s`. -/
def decodeExactly (s : String) : Json.Decoder Unit
  | .str t => if t = s then .ok () else .error (.wrongType (.str t) s)
  | v => .error (.wrongType v s)

def Verdict.ofJson : Json.Decoder Verdict
  | .obj fields => do
    let allowed ← decodeNullable? fields "allowed" decodeBool
    let reason ← decodeNullable? fields "reason" Json.decodeText
    return ⟨allowed.getD false, reason⟩
  | v => .error (.wrongType v "SubjectAccessReviewStatus")

/-- The answer in a review, if it is there. -/
def decodeReview : Json.Decoder (Option Verdict)
  | .obj fields => do
    let _ ← Json.decodeField? fields "apiVersion" (decodeExactly reviewVersion)
    let _ ← Json.decodeField? fields "kind" (decodeExactly reviewKind)
    decodeNullable? fields "status" Verdict.ofJson
  | v => .error (.wrongType v reviewKind)

/-- Asks the cluster whether the ambient identity may act as an account. -/
def review (c : ClientConfig) (a : ServiceAccount) : Attempt (Option Verdict) :=
  (c.request .post ("/apis/" ++ reviewVersion ++ "/selfsubjectaccessreviews")
    (some (reviewJson a))).bind fun text => .done (text >>= decodeReply decodeReview)

/-- What an answer to a review means for the account `account`. -/
def checkVerdict (account : String) : Except Failure (Option Verdict) → Except Error Unit
  | .error f => .error (.auth account ("access review failed: " ++ f.message))
  | .ok none => .error (.auth account "access review response missing status")
  | .ok (some v) =>
    if v.allowed then .ok ()
    else .error (.auth account
      ("not permitted to impersonate: " ++ v.reason.getD "no reason given"))

/-- Credentials for a service account, or the ambient ones if none is asked for. -/
def getCredentials (ambient : Except String ClientConfig) (account : Option String)
    (scopes : List String) : Exchange (Except Error Credentials) :=
  match ambient with
  | .error text => .done (.error (Error.authFor account ("no ambient credentials: " ++ text)))
  | .ok config =>
    match account with
    | none => .done (.ok (Credentials.ambient config))
    | some account =>
      match ServiceAccount.parse account with
      | .error e => .done (.error e)
      | .ok a =>
        if !config.isUsable then
          .done (.error (.auth account ("failed to build client: " ++ Failure.header.message)))
        else (review config a).bind fun verdict =>
          .done ((checkVerdict account verdict).map fun _ =>
            ⟨config.actAs a.username scopes, some a.username, scopes⟩)

end JobLauncher.Kube
