import JobLauncher.Kube.JobSets
import JobLauncher.Proofs.Control.Course
import JobLauncher.Proofs.Kube.ServiceAccount

/-!
# Credentials and reviews

Credentials for a service account are given after one request, the review (`Reviews`), and only for
a reply that grants it (`Grants`). `obtains_of_course` says what is sent for credentials and what
they are. Whatever is done with credentials is done as the user that they name and with their groups
(`ActsAs`).
-/

namespace JobLauncher

open Program (Round Course)

namespace Kube

/-! ## The review -/

/-- The question whether one may act as an account. What is to be done, with things of what kind, in
which namespace and with which of them is read in it field by field. -/
structure AsksFor (a : ServiceAccount) (body : Json) : Prop where
  version : body.textAt? "apiVersion" = some "authorization.k8s.io/v1"
  kind : body.textAt? "kind" = some "SelfSubjectAccessReview"
  verb : body.at? ["spec", "resourceAttributes", "verb"] = some (.str "impersonate")
  resource : body.at? ["spec", "resourceAttributes", "resource"] = some (.str "serviceaccounts")
  ns : body.at? ["spec", "resourceAttributes", "namespace"] = some (.str a.ns)
  name : body.at? ["spec", "resourceAttributes", "name"] = some (.str a.name)
  /-- There is nothing else to the question, which would make it another one. -/
  only : ∃ attributes, body.field? "spec" = some (.obj [("resourceAttributes", .obj attributes)])
    ∧ attributes.map (·.1) = ["name", "namespace", "resource", "verb"]

/-- The request asks, under the identity of a configuration, whether that identity may act as an
account. -/
structure Reviews (c : ClientConfig) (a : ServiceAccount) (request : Http.Request) : Prop where
  method : request.method = .post
  path : request.path = "/apis/authorization.k8s.io/v1/selfsubjectaccessreviews"
  user : request.user = c.impersonate
  groups : request.groups = c.groups.getD []
  body : ∃ body, request.body = some body ∧ AsksFor a body

/-- The request for a review, under an identity that is there already. -/
def reviewRequest (c : ClientConfig) (a : ServiceAccount) : Http.Request where
  method := .post
  path := "/apis/authorization.k8s.io/v1/selfsubjectaccessreviews"
  user := c.impersonate
  groups := c.groups.getD []
  body := some (reviewJson a)

/-- What is sent is a review, field by field. -/
theorem reviews_reviewRequest (c : ClientConfig) (a : ServiceAccount) :
    Reviews c a (reviewRequest c a) :=
  ⟨rfl, rfl, rfl, rfl, _, rfl, rfl, rfl, rfl, rfl, rfl, rfl, _, rfl, rfl⟩

/-- What the answer to the request says of the review. -/
def verdictOf : Except String Http.Reply → Except Failure (Option Verdict)
  | .error text => .error (.service text)
  | .ok reply => reply.text >>= decodeReply decodeReview

/-- A review is one request, and its verdict is read from the answer. -/
theorem review_eq (c : ClientConfig) (a : ServiceAccount) :
    review c a = .ask (reviewRequest c a) fun answer => .done (verdictOf answer) := by
  have htarget : Http.target? ("/apis/" ++ reviewVersion ++ "/selfsubjectaccessreviews")
      = some "/apis/authorization.k8s.io/v1/selfsubjectaccessreviews" := by decide +kernel
  rw [review, ClientConfig.request, htarget]
  show Program.ask (reviewRequest c a) _ = _
  refine congrArg _ (funext fun answer => ?_)
  cases answer with
  | error text => rfl
  | ok reply => rfl

/-- A reply that grants a review: it is one, with a status in which the review is allowed. -/
inductive Grants : Except String Http.Reply → Prop where
  | mk {reply : Http.Reply} {fields status : List (String × Json)}
      (hstatus : ¬(400 ≤ reply.status ∧ reply.status < 600))
      (hbody : Json.parse? reply.body = some (.obj fields))
      (hversion : ∀ v, fields.lookup "apiVersion" = some v → v = .str reviewVersion)
      (hkind : ∀ v, fields.lookup "kind" = some v → v = .str reviewKind)
      (hverdict : fields.lookup "status" = some (.obj status))
      (hallowed : status.lookup "allowed" = some (.bool true))
      (hreason : ∀ v, status.lookup "reason" = some v → v = .null ∨ ∃ s, v = .str s) :
      Grants (.ok reply)

/-! ## Reading the answer -/

/-- The text of a reply is its body, unless its status says that it failed. -/
theorem text_eq_ok_iff {reply : Http.Reply} {text : String} :
    reply.text = .ok text ↔ ¬(400 ≤ reply.status ∧ reply.status < 600) ∧ text = reply.body := by
  unfold Http.Reply.text
  split
  next h => simp [h]
  next h => simp [h, eq_comm]

/-- A reply is understood if its text is JSON of the expected form. -/
theorem decodeReply_eq_ok_iff {α : Type} {decode : Json.Decoder α} {text : String} {a : α} :
    decodeReply decode text = .ok a ↔ ∃ v, Json.parse? text = some v ∧ decode v = .ok a := by
  unfold decodeReply
  cases Json.parse? text with
  | none => simp
  | some v => simp [Except.mapError_eq_ok]

section

variable {α : Type} {fields : List (String × Json)} {name : String}

/-- A field may be missing or null; otherwise it has the expected form. -/
theorem decodeNullable?_eq_some_iff {read : Json.Decoder α} {a : α} :
    decodeNullable? fields name read = .ok (some a)
      ↔ ∃ v, fields.lookup name = some v ∧ v ≠ .null ∧ read v = .ok a := by
  unfold decodeNullable?
  cases fields.lookup name with
  | none => simp
  | some v =>
    by_cases hnull : v = .null
    · simp [hnull]
    · simp [hnull, Except.map_eq_ok]

/-- A text may be null or left out. -/
theorem exists_decodeNullable?_text : (∃ s, decodeNullable? fields name Json.decodeText = .ok s)
    ↔ ∀ v, fields.lookup name = some v → v = .null ∨ ∃ s, v = .str s := by
  unfold decodeNullable?
  cases fields.lookup name with
  | none => simp
  | some v => cases v <;> simp [Json.decodeText, Except.map]

/-- A text that has to be `s` may be left out. -/
theorem exists_decodeField?_exactly {s : String} :
    (∃ u, Json.decodeField? fields name (decodeExactly s) = .ok u)
      ↔ ∀ v, fields.lookup name = some v → v = .str s := by
  unfold Json.decodeField?
  cases fields.lookup name with
  | none => simp
  | some v =>
    cases v with
    | str t => by_cases h : t = s <;> simp [decodeExactly, Except.map, h]
    | _ => simp [decodeExactly, Except.map]

end

/-- A status that allows what was asked. -/
theorem ofJson_allowed_iff {j : Json} : (∃ v, Verdict.ofJson j = .ok v ∧ v.allowed = true)
    ↔ ∃ status, j = .obj status ∧ status.lookup "allowed" = some (.bool true)
      ∧ ∀ v, status.lookup "reason" = some v → v = .null ∨ ∃ s, v = .str s := by
  cases j with
  | obj status =>
    simp only [Verdict.ofJson, Except.bind_eq_ok, Json.obj.injEq, exists_eq_left',
      ← exists_decodeNullable?_text]
    constructor
    · rintro ⟨v, ⟨allowed, hallowed, reason, hreason, heq⟩, htrue⟩
      cases heq
      -- a status that says nothing does not allow anything
      cases allowed with
      | none => cases htrue
      | some b =>
        cases (show b = true from htrue)
        obtain ⟨w, hw, -, hread⟩ := decodeNullable?_eq_some_iff.mp hallowed
        cases w with
        | bool b =>
          cases hread
          exact ⟨hw, reason, hreason⟩
        | _ => cases hread
    · rintro ⟨hallowed, reason, hreason⟩
      have hread : decodeNullable? status "allowed" decodeBool = .ok (some true) :=
        decodeNullable?_eq_some_iff.mpr ⟨_, hallowed, Json.noConfusion, rfl⟩
      exact ⟨⟨true, reason⟩, ⟨some true, hread, reason, hreason, rfl⟩, rfl⟩
  | _ => simp [Verdict.ofJson]

/-- A review that has a verdict is an object of the right version and kind whose status is one. -/
theorem decodeReview_eq_some_iff {j : Json} {v : Verdict} : decodeReview j = .ok (some v)
    ↔ ∃ fields, j = .obj fields
      ∧ (∀ w, fields.lookup "apiVersion" = some w → w = .str reviewVersion)
      ∧ (∀ w, fields.lookup "kind" = some w → w = .str reviewKind)
      ∧ ∃ w, fields.lookup "status" = some w ∧ w ≠ .null ∧ Verdict.ofJson w = .ok v := by
  cases j with
  | obj fields =>
    simp only [decodeReview, Except.bind_eq_ok, Json.obj.injEq, exists_eq_left',
      ← exists_decodeField?_exactly, decodeNullable?_eq_some_iff]
    constructor
    · rintro ⟨u, hversion, u', hkind, hstatus⟩
      exact ⟨⟨u, hversion⟩, ⟨u', hkind⟩, hstatus⟩
    · rintro ⟨⟨u, hversion⟩, ⟨u', hkind⟩, hstatus⟩
      exact ⟨u, hversion, u', hkind, hstatus⟩
  | _ => simp [decodeReview]

/-- The verdict allows what was asked exactly if the reply grants it. -/
theorem grants_iff {answer : Except String Http.Reply} :
    Grants answer ↔ ∃ v, verdictOf answer = .ok (some v) ∧ v.allowed = true := by
  constructor
  · rintro ⟨hstatus, hbody, hversion, hkind, hverdict, hallowed, hreason⟩
    obtain ⟨v, hread, hv⟩ := ofJson_allowed_iff.mpr ⟨_, rfl, hallowed, hreason⟩
    have hreview := decodeReview_eq_some_iff.mpr
      ⟨_, rfl, hversion, hkind, _, hverdict, Json.noConfusion, hread⟩
    exact ⟨v, Except.bind_eq_ok.mpr ⟨_, text_eq_ok_iff.mpr ⟨hstatus, rfl⟩,
      decodeReply_eq_ok_iff.mpr ⟨_, hbody, hreview⟩⟩, hv⟩
  · rintro ⟨v, hverdict, hv⟩
    cases answer with
    | error text => cases hverdict
    | ok reply =>
      obtain ⟨text, htext, hreply⟩ := Except.bind_eq_ok.mp hverdict
      obtain ⟨hstatus, rfl⟩ := text_eq_ok_iff.mp htext
      obtain ⟨j, hbody, hreview⟩ := decodeReply_eq_ok_iff.mp hreply
      obtain ⟨fields, rfl, hversion, hkind, w, hw, -, hread⟩ := decodeReview_eq_some_iff.mp hreview
      obtain ⟨status, rfl, hallowed, hreason⟩ := ofJson_allowed_iff.mp ⟨v, hread, hv⟩
      exact .mk hstatus hbody hversion hkind hw hallowed hreason

/-! ## Credentials -/

/-- Nothing but a verdict that allows is good enough. -/
theorem checkVerdict_eq_ok_iff {account : String} {answer : Except Failure (Option Verdict)} :
    checkVerdict account answer = .ok () ↔ ∃ v, answer = .ok (some v) ∧ v.allowed = true := by
  rcases answer with f | _ | v
  · simp [checkVerdict]
  · simp [checkVerdict]
  · by_cases h : v.allowed = true <;> simp [checkVerdict, h]

/-- Whatever else comes is reported for the account. -/
theorem checkVerdict_eq_error {account : String} {answer : Except Failure (Option Verdict)}
    {e : Error} (h : checkVerdict account answer = .error e) :
    ∃ message, e = .auth account message := by
  rcases answer with f | _ | v
  · cases h
    exact ⟨_, rfl⟩
  · cases h
    exact ⟨_, rfl⟩
  · by_cases hallowed : v.allowed = true
    · rw [checkVerdict_eq_ok_iff.mpr ⟨v, rfl, hallowed⟩] at h
      cases h
    · simp only [checkVerdict, hallowed] at h
      cases h
      exact ⟨_, rfl⟩

/-- The requests that asking for credentials can take, with what it comes to. -/
inductive Obtains (ambient : Except String ClientConfig) (scopes : List String) :
    Option String → List (Round Http.Request Http.Answer) → Except Error Credentials → Prop where
  | homeless {text : String} (h : ambient = .error text) (account : Option String) :
      Obtains ambient scopes account []
        (.error (.authFor account ("no ambient credentials: " ++ text)))
  | ambient {config : ClientConfig} (h : ambient = .ok config) :
      Obtains ambient scopes none [] (.ok ⟨config, none, []⟩)
  /-- There is no account to ask for, or no way to ask under the identity at hand. -/
  | unreviewed {account : String} (message : String)
      (hhindered : ∀ config a, ambient = .ok config → ServiceAccount.parse account = .ok a →
        config.isUsable = false) :
      Obtains ambient scopes (some account) [] (.error (.auth account message))
  | refused {config : ClientConfig} {account : String} {a : ServiceAccount}
      {request : Http.Request} {answer : Except String Http.Reply} (hambient : ambient = .ok config)
      (hparse : ServiceAccount.parse account = .ok a) (hreviews : Reviews config a request)
      (hgrants : ¬Grants answer) (message : String) :
      Obtains ambient scopes (some account) [⟨request, answer⟩] (.error (.auth account message))
  | granted {config : ClientConfig} {account : String} {a : ServiceAccount}
      {request : Http.Request} {answer : Except String Http.Reply} (hambient : ambient = .ok config)
      (hparse : ServiceAccount.parse account = .ok a) (hreviews : Reviews config a request)
      (hgrants : Grants answer) :
      Obtains ambient scopes (some account) [⟨request, answer⟩]
        (.ok ⟨config.actAs a.username scopes, some a.username, scopes⟩)

/-- Credentials are obtained in these ways and no others. -/
theorem obtains_of_course {ambient : Except String ClientConfig} {account : Option String}
    {scopes : List String} {rs : List (Round Http.Request Http.Answer)}
    {result : Except Error Credentials}
    (h : Course (getCredentials ambient account scopes) rs result) :
    Obtains ambient scopes account rs result := by
  cases hambient : ambient with
  | error text =>
    rw [hambient] at h
    obtain ⟨rfl, rfl⟩ := Program.course_done.mp h
    exact .homeless rfl account
  | ok config =>
    rw [hambient] at h
    cases account with
    | none =>
      obtain ⟨rfl, rfl⟩ := Program.course_done.mp h
      exact .ambient rfl
    | some account =>
      unfold getCredentials at h
      dsimp only at h
      cases hparse : ServiceAccount.parse account with
      | error e =>
        rw [hparse] at h
        obtain ⟨rfl, rfl⟩ := Program.course_done.mp h
        rw [ServiceAccount.parse_eq_error hparse]
        refine .unreviewed _ fun config' a _ hparse' => ?_
        -- an account that cannot be read is no account to review
        cases hparse.symm.trans hparse'
      | ok a =>
        rw [hparse] at h
        dsimp only at h
        by_cases husable : config.isUsable = true
        · rw [husable, review_eq] at h
          obtain ⟨answer, rest, rfl, hend⟩ := Program.course_ask.mp h
          obtain ⟨rfl, rfl⟩ := Program.course_done.mp hend
          -- the request has been sent; the verdict alone decides between the two ways that are left
          cases hcheck : checkVerdict account (verdictOf answer) with
          | error e =>
            obtain ⟨message, rfl⟩ := checkVerdict_eq_error hcheck
            refine .refused rfl hparse (reviews_reviewRequest config a) (fun hgrants => ?_) message
            rw [checkVerdict_eq_ok_iff.mpr (grants_iff.mp hgrants)] at hcheck
            cases hcheck
          | ok u =>
            exact .granted rfl hparse (reviews_reviewRequest config a)
              (grants_iff.mpr (checkVerdict_eq_ok_iff.mp hcheck))
        · simp only [husable, Bool.not_false, if_true] at h
          obtain ⟨rfl, rfl⟩ := Program.course_done.mp h
          refine .unreviewed _ fun config' a' hambient' _ => ?_
          obtain rfl := Except.ok.inj hambient'
          exact Bool.eq_false_iff.mpr husable

/-! ## Acting under an identity -/

/-- A request is made as the user of a configuration and with its groups. -/
def ActsAs (c : ClientConfig) (request : Http.Request) : Prop :=
  request.user = c.impersonate ∧ request.groups = c.groups.getD []

variable {c : ClientConfig}

/-- A request carries the identity of the configuration. -/
theorem every_request (method : Http.Method) (path : String) (body : Option Json) :
    (c.request method path body).Every (ActsAs c) := by
  unfold ClientConfig.request
  split
  · exact trivial
  · refine ⟨⟨rfl, rfl⟩, fun answer => ?_⟩
    cases answer <;> exact trivial

theorem every_discoverVersions (versions : List GroupVersion) :
    (discoverVersions c versions).Every (ActsAs c) := by
  induction versions with
  | nil => exact trivial
  | cons v rest ih =>
    refine (every_request _ _ _).bind fun text => ?_
    split
    · exact trivial
    · exact ih.bind fun more => trivial

theorem every_discoverGroups (found : Option Resource) (groups : List Group) :
    (discoverGroups c found groups).Every (ActsAs c) := by
  induction groups generalizing found with
  | nil => exact trivial
  | cons g rest ih =>
    unfold discoverGroups
    split
    · exact ih found
    · split
      · exact trivial
      · refine (every_discoverVersions _).bind fun versions => ?_
        cases versions with
        | error f => exact trivial
        | ok versions => exact ih _

theorem every_discover : (discover c).Every (ActsAs c) := by
  refine (every_request _ _ _).bind fun text => ?_
  split
  · exact trivial
  · exact every_discoverGroups none _

namespace Credentials

variable {α : Type} (k : Credentials)

/-- An attempt acts as whoever has the credentials, or not at all. -/
theorem every_attempt {act : ClientConfig → Attempt α}
    (h : (act k.config).Every (ActsAs k.config)) :
    (k.attempt act).Every (ActsAs k.config) := by
  unfold attempt
  split
  · exact h
  · exact trivial

/-- The resource is looked up under the identity of the credentials. -/
theorem every_resolve : k.resolve.Every (ActsAs k.config) :=
  k.every_attempt (every_discover.bind fun _ => trivial)

theorem every_create (ns : String) (r : Resource) (body : Json) :
    (k.create ns r body).Every (ActsAs k.config) :=
  k.every_attempt ((every_request _ _ _).bind fun _ => trivial)

theorem every_delete (ns : String) (r : Resource) (name : String) :
    (k.delete ns r name).Every (ActsAs k.config) := by
  refine k.every_attempt ?_
  split
  · exact trivial
  · exact (every_request _ _ _).bind fun _ => trivial

end Credentials

end Kube

end JobLauncher
