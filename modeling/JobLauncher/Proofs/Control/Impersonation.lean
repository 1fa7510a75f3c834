import JobLauncher.Control.Host
import JobLauncher.Proofs.Control.Protocol
import JobLauncher.Proofs.Kube.Credentials

/-!
# Acting as a service account

On a machine, all that job control does with the cluster is to send requests. Credentials for an
account take one request, a review under the ambient identity (`Reviewed`), and an operation sends
nothing after it that the review does not cover (`Gated`).

> `impersonation_needs_grant`: nothing is sent as a service account unless the cluster has granted
> it before, whatever the ambient identity is, whatever account and scopes are asked for and
> whatever is answered.
-/

namespace JobLauncher

open Program (Round Course Refined)

variable {ambient : Except String Kube.ClientConfig} {account : Option String}
  {scopes : List String} {deeds : List (Round Deed Deed.Answer)}

/-! ## Requests of a machine -/

/-- The round of a machine in which a request is sent. -/
def sendRound (r : Round Kube.Http.Request Kube.Http.Answer) : Round Deed Deed.Answer :=
  ⟨.send r.1, r.2⟩

theorem course_onMachine {α : Type} {p : Kube.Exchange α} {a : α}
    (h : Course (Kube.onMachine p) deeds a) : ∃ rs, Course p rs a ∧ deeds = rs.map sendRound := by
  obtain ⟨rs, hp, hrefined⟩ := Program.course_refine.mp h
  exact ⟨rs, hp, hrefined.eq_map fun request answer rs' hrs' => Program.course_question.mp hrs'⟩

/-- A request is sent under the identity of a configuration. -/
def SendsAs (c : Kube.ClientConfig) (deed : Deed) : Prop :=
  ∃ request, deed = .send request ∧ Kube.ActsAs c request

theorem every_onMachine {α : Type} {p : Kube.Exchange α} {c : Kube.ClientConfig}
    (h : p.Every (Kube.ActsAs c)) : (Kube.onMachine p).Every (SendsAs c) :=
  h.refine fun request hacts => ⟨⟨request, rfl, hacts⟩, fun _ => trivial⟩

/-! ## Credentials -/

/-- What comes of asking for the credentials of an account. -/
structure Reviewed (ambient : Except String Kube.ClientConfig) (account : String)
    (scopes : List String) (deeds : List (Round Deed Deed.Answer))
    (result : Except Error Kube.Credentials) : Prop where
  /-- Credentials are given exactly if all that was done is a review of the account, under the
  ambient identity, and the reply grants it. They are for the account that was reviewed. -/
  granted : ∀ k, result = .ok k ↔ ∃ config a request reply, ambient = .ok config
    ∧ Kube.ServiceAccount.parse account = .ok a ∧ Kube.Reviews config a request
    ∧ deeds = [⟨.send request, reply⟩] ∧ Kube.Grants reply
    ∧ k.config = { config with
        impersonate := some ("system:serviceaccount:" ++ a.ns ++ ":" ++ a.name)
        groups := if scopes = [] then none else some scopes }
    ∧ k.identity = some ("system:serviceaccount:" ++ a.ns ++ ":" ++ a.name) ∧ k.scopes = scopes
  /-- Any other outcome is an error about the account. -/
  refused : ∀ e, result = .error e → ∃ message, e = .auth account message
  /-- Nothing but a review is done in any case. -/
  alone : deeds = [] ∨ ∃ config a request reply, ambient = .ok config
    ∧ Kube.ServiceAccount.parse account = .ok a ∧ Kube.Reviews config a request
    ∧ deeds = [⟨.send request, reply⟩]
  /-- It is done wherever it can be. -/
  asked : ∀ config a, ambient = .ok config → Kube.ServiceAccount.parse account = .ok a →
    config.isUsable = true → deeds ≠ []
  /-- The user that is acted as is the account. -/
  identity : ∀ a, Kube.ServiceAccount.parse account = .ok a
    → Kube.ServiceAccount.parse a.username = .ok a

/-- Credentials for another account come from a review that allows them, and from nothing else. -/
theorem reviewed_of_course {account : String} {result : Except Error Kube.Credentials}
    (h : Course ((Call.credentials (some account) scopes).onMachine ambient) deeds result) :
    Reviewed ambient account scopes deeds result := by
  obtain ⟨rs, hcourse, rfl⟩ := course_onMachine h
  have hobtains := Kube.obtains_of_course hcourse
  refine ⟨fun k => ⟨?given, ?sound⟩, ?refused, ?alone,
    fun config a hambient hparse husable => ?asked, fun a => Kube.ServiceAccount.parse_username⟩
  case given =>
    rintro rfl
    cases hobtains with
    | granted hambient hparse hreviews hgrants =>
      exact ⟨_, _, _, _, hambient, hparse, hreviews, rfl, hgrants, rfl, rfl, rfl⟩
  -- the other ways to obtain credentials send nothing, or were refused by the verdict
  case sound =>
    rintro ⟨config, a, request, reply, hambient, hparse, -, hdeeds, hgrants, hconfig, hidentity,
      hscopes⟩
    cases hobtains with
    | homeless h => cases hdeeds
    | unreviewed message hhindered => cases hdeeds
    | @refused config' _ a' request' reply' hambient' hparse' hreviews' hrefused message =>
      cases hdeeds
      exact absurd hgrants hrefused
    | @granted config' _ a' request' reply' hambient' hparse' hreviews' hgrants' =>
      cases hambient.symm.trans hambient'
      cases hparse.symm.trans hparse'
      obtain ⟨config'', identity, scopes''⟩ := k
      dsimp only at hconfig hidentity hscopes
      subst hconfig hidentity hscopes
      rfl
  case refused =>
    rintro e rfl
    cases hobtains with
    | homeless h => exact ⟨_, rfl⟩
    | unreviewed message hhindered => exact ⟨message, rfl⟩
    | refused hambient hparse hreviews hrefused message => exact ⟨message, rfl⟩
  case alone =>
    cases hobtains with
    | homeless h => exact .inl rfl
    | unreviewed message hhindered => exact .inl rfl
    | refused hambient hparse hreviews hrefused message =>
      exact .inr ⟨_, _, _, _, hambient, hparse, hreviews, rfl⟩
    | granted hambient hparse hreviews hgrants =>
      exact .inr ⟨_, _, _, _, hambient, hparse, hreviews, rfl⟩
  case asked =>
    cases hobtains with
    | homeless hhomeless => cases hambient.symm.trans hhomeless
    | unreviewed message hhindered =>
      rw [hhindered config a hambient hparse] at husable
      cases husable
    | refused hambient' hparse' hreviews hrefused message => exact List.cons_ne_nil _ _
    | granted hambient' hparse' hreviews hgrants => exact List.cons_ne_nil _ _

/-! ## Operations -/

/-- What an operation of job control does with the cluster, and what it comes to. -/
inductive Gated {α : Type} (ambient : Except String Kube.ClientConfig) (scopes : List String) :
    Option String → List (Round Deed Deed.Answer) → Except Job.Error α → Prop where
  /-- There is no identity to begin with. -/
  | homeless {text : String} (h : ambient = .error text) (account : Option String) :
      Gated ambient scopes account []
        (.error (.auth (account.getD "ambient") ("no ambient credentials: " ++ text)))
  /-- No account is asked for, and all is done under the ambient identity. -/
  | ambient {config : Kube.ClientConfig} (h : ambient = .ok config)
      {deeds : List (Round Deed Deed.Answer)} (hsends : ∀ d ∈ deeds, SendsAs config d.1)
      (result : Except Job.Error α) : Gated ambient scopes none deeds result
  /-- It does not come to a review, and nothing is sent. -/
  | unreviewed {account : String} (message : String)
      (hhindered : ∀ config a, ambient = .ok config → Kube.ServiceAccount.parse account = .ok a →
        config.isUsable = false) :
      Gated ambient scopes (some account) [] (.error (.auth account message))
  /-- The review is not granted, and nothing else is sent. -/
  | refused {config : Kube.ClientConfig} {account : String} {a : Kube.ServiceAccount}
      {request : Kube.Http.Request} {reply : Except String Kube.Http.Reply}
      (hambient : ambient = .ok config) (hparse : Kube.ServiceAccount.parse account = .ok a)
      (hreviews : Kube.Reviews config a request) (hgrants : ¬Kube.Grants reply)
      (message : String) :
      Gated ambient scopes (some account) [⟨.send request, reply⟩] (.error (.auth account message))
  /-- The review is granted, and all that is sent then is sent as the account. -/
  | granted {config : Kube.ClientConfig} {account : String} {a : Kube.ServiceAccount}
      {request : Kube.Http.Request} {reply : Except String Kube.Http.Reply}
      (hambient : ambient = .ok config) (hparse : Kube.ServiceAccount.parse account = .ok a)
      (hreviews : Kube.Reviews config a request) (hgrants : Kube.Grants reply)
      {deeds : List (Round Deed Deed.Answer)}
      (hsends : ∀ d ∈ deeds, ∃ request, d.1 = .send request
        ∧ request.user = some ("system:serviceaccount:" ++ a.ns ++ ":" ++ a.name)
        ∧ request.groups = scopes)
      (result : Except Job.Error α) :
      Gated ambient scopes (some account) (⟨.send request, reply⟩ :: deeds) result

/-- Without credentials an operation ends, and with them it makes the rest of its calls. -/
theorem Approach.split {last : Kube.Credentials → Kube.Resource → Call}
    {rs : List (Round Call Call.Answer)} (h : Approach account scopes last rs) :
    (∃ e, rs = [⟨.credentials account scopes, .error e⟩])
      ∨ ∃ k rest, rs = ⟨.credentials account scopes, .ok k⟩ :: rest
        ∧ ∀ r ∈ rest, r.1 = .resolve k ∨ ∃ resource, r.1 = last k resource := by
  cases h with
  | unauthorized e => exact .inl ⟨e, rfl⟩
  | unresolved k source => exact .inr ⟨k, _, rfl, by simp⟩
  | unserved k => exact .inr ⟨k, _, rfl, by simp⟩
  | answered k r answer =>
    refine .inr ⟨k, _, rfl, fun round hround => ?_⟩
    rcases List.mem_cons.mp hround with rfl | hround
    · exact .inl rfl
    · rw [List.mem_singleton.mp hround]
      exact .inr ⟨r, rfl⟩

/-- The groups of credentials are the scopes that were asked for. -/
theorem groups_actAs (config : Kube.ClientConfig) (user : String) (scopes : List String) :
    (config.actAs user scopes).groups.getD [] = scopes := by
  by_cases h : scopes = [] <;> simp [Kube.ClientConfig.actAs, h]

/-- So all that comes after them is behind the review. -/
theorem gated_of_approach {α : Type} {last : Kube.Credentials → Kube.Resource → Call}
    {rs : List (Round Call Call.Answer)} {result : Except Job.Error α}
    (happroach : Approach account scopes last rs)
    (hlast : ∀ k r, ((last k r).onMachine ambient).Every (SendsAs k.config))
    (hunauthorized : ∀ e, ⟨.credentials account scopes, .error e⟩ ∈ rs →
      result = .error (.ofError e))
    (hrefined : Refined (Call.onMachine ambient) rs deeds) :
    Gated ambient scopes account deeds result := by
  rcases happroach.split with ⟨e, rfl⟩ | ⟨k, rest, rfl, hcalls⟩
  -- without credentials the one call is all there was
  · obtain rfl := hunauthorized e List.mem_cons_self
    cases hrefined with
    | cons hfirst hrest =>
      cases hrest
      obtain ⟨requests, hcourse, rfl⟩ := course_onMachine hfirst
      have hobtains := Kube.obtains_of_course hcourse
      cases hobtains with
      | homeless h => exact .homeless h account
      | unreviewed message hhindered => exact .unreviewed message hhindered
      | refused hambient hparse hreviews hrefused message =>
        exact .refused hambient hparse hreviews hrefused message
  · cases hrefined with
    | cons hfirst hrest =>
      obtain ⟨requests, hcourse, rfl⟩ := course_onMachine hfirst
      -- with credentials, every later call is made under the configuration that came with them
      have hevery : ∀ r ∈ rest, (Call.onMachine ambient r.1).Every (SendsAs k.config) := by
        intro r hr
        rcases hcalls r hr with heq | ⟨resource, heq⟩
        · rw [heq]
          exact every_onMachine k.every_resolve
        · rw [heq]
          exact hlast k resource
      have hafter := hrest.every hevery
      have hobtains := Kube.obtains_of_course hcourse
      cases hobtains with
      | ambient h => exact .ambient h hafter result
      | granted hambient hparse hreviews hgrants =>
        refine .granted hambient hparse hreviews hgrants (fun d hd => ?_) result
        obtain ⟨request, hsend, huser, hgroups⟩ := hafter d hd
        exact ⟨request, hsend, huser, hgroups.trans (groups_actAs _ _ scopes)⟩

/-- A submission on behalf of an account is behind the review of that account. -/
theorem gated_of_submits {j : JobSetJob} {rs : List (Round Call Call.Answer)}
    {result : Except Job.Error Json} (hsubmits : j.Submits rs result)
    {document : JobSet.Document} (hcompile : j.compile = .ok document)
    (hrefined : Refined (Call.onMachine ambient) rs deeds) :
    Gated ambient j.config.impersonateScopes j.config.impersonateAccount deeds result :=
  gated_of_approach (hsubmits.approach hcompile)
    (fun k _ => every_onMachine (k.every_create _ _ _))
    (fun _ he => (hsubmits.failed _).mpr (.credentials he)) hrefined

theorem gated_of_deletes {t : JobSetRef} {rs : List (Round Call Call.Answer)}
    {result : Except Job.Error Deletion} (hdeletes : t.Deletes rs result)
    (hrefined : Refined (Call.onMachine ambient) rs deeds) :
    Gated ambient t.impersonateScopes t.impersonateAccount deeds result :=
  gated_of_approach hdeletes.approach (fun k _ => every_onMachine (k.every_delete _ _ _))
    (fun _ he => (hdeletes.failed _).mpr (.credentials he)) hrefined

/-- Nothing is sent as a service account that the cluster has not granted before. Credentials for an
account take a review that is granted, and without an account they are the ambient ones whatever the
scopes. A job that is submitted and a JobSet that is deleted keep to the review, and a job that does
not compile sends nothing. For the deletion of a job its own account and scopes count. -/
theorem impersonation_needs_grant (ambient : Except String Kube.ClientConfig)
    (scopes : List String) {σ : Type} (answer : (deed : Deed) → σ → deed.Answer × σ) (s : σ) :
    (∀ account, Reviewed ambient account scopes
        (((Call.credentials (some account) scopes).onMachine ambient).rounds answer s)
        (((Call.credentials (some account) scopes).onMachine ambient).run answer s).1)
    ∧ ((((Call.credentials none scopes).onMachine ambient).rounds answer s) = []
      ∧ (((Call.credentials none scopes).onMachine ambient).run answer s).1
        = match ambient with
          | .error text => .error (.auth "ambient" ("no ambient credentials: " ++ text))
          | .ok config => .ok ⟨config, none, []⟩)
    ∧ (∀ j : JobSetJob, Gated ambient j.config.impersonateScopes j.config.impersonateAccount
          ((Control.onMachine ambient j.execute).rounds answer s)
          ((Control.onMachine ambient j.execute).run answer s).1
        ∨ ∃ e, j.compile = .error e ∧ (Control.onMachine ambient j.execute).rounds answer s = [])
    ∧ (∀ t : JobSetRef, Gated ambient t.impersonateScopes t.impersonateAccount
        ((Control.onMachine ambient t.delete).rounds answer s)
        ((Control.onMachine ambient t.delete).run answer s).1)
    ∧ ∀ j : JobSetJob, Gated ambient j.config.impersonateScopes j.config.impersonateAccount
        ((Control.onMachine ambient j.delete).rounds answer s)
        ((Control.onMachine ambient j.delete).run answer s).1 := by
  -- the job's own deletion is the one of the reference that is made of its configuration
  have hdelete (t : JobSetRef) : Gated ambient t.impersonateScopes t.impersonateAccount
      ((Control.onMachine ambient t.delete).rounds answer s)
      ((Control.onMachine ambient t.delete).run answer s).1 := by
    obtain ⟨rs, hcourse, hrefined⟩ :=
      Program.course_refine.mp (Program.course_run answer (Control.onMachine ambient t.delete) s)
    exact gated_of_deletes (JobSetRef.deletes_of_course hcourse) hrefined
  refine ⟨fun account => ?reviewed, ?ambient, fun j => ?submit, hdelete,
    fun j => hdelete (.ofConfig j.config)⟩
  case reviewed => exact reviewed_of_course (Program.course_run answer _ s)
  case ambient =>
    cases ambient <;> exact ⟨rfl, rfl⟩
  case submit =>
    obtain ⟨rs, hcourse, hrefined⟩ :=
      Program.course_refine.mp (Program.course_run answer (Control.onMachine ambient j.execute) s)
    have hsubmits := JobSetJob.submits_of_course hcourse
    cases hcompile : j.compile with
    | ok document => exact .inl (gated_of_submits hsubmits hcompile hrefined)
    | error e =>
      -- a job that does not compile makes no call, so the machine sends nothing
      obtain rfl := hsubmits.keepsProtocol.uncompiled e hcompile
      exact .inr ⟨e, rfl, hrefined.eq_nil⟩

/-- A machine that acts as somebody already. -/
def deputy : Kube.ClientConfig where
  impersonate := some "admin"
  groups := some ["root"]

/-- A cluster that has the same verdict on whatever is posted and knows of nothing else. -/
def judging (allowed : Bool) : (deed : Deed) → Unit → deed.Answer × Unit
  | .read _, s => (.missing "no files", s)
  | .send request, s =>
    let verdict := "\x7b\"status\": \x7b\"allowed\": " ++ (if allowed then "true" else "false")
      ++ "\x7d\x7d"
    (.ok (if request.method = .post then ⟨201, verdict⟩ else ⟨404, ""⟩), s)
  | .runLine _, s => (.error "no shell", s)

/-- A JobSet to be deleted as a service account. -/
def trainersJobSet : JobSetRef where
  name := "train"
  ns := "ml"
  impersonateAccount := some "team:trainer"
  impersonateScopes := ["dev"]

/-- A deputy asks as itself for the trainer, and is the trainer then, without the groups that it had.
To delete a JobSet it asks first, too, and goes no further if that is refused. -/
theorem impersonation_needs_grant_deputy :
    (∃ request reply body,
      ((Call.credentials (some "team:trainer") ["dev"]).onMachine (.ok deputy)).rounds
        (judging true) () = [⟨.send request, reply⟩]
      ∧ request.method = .post ∧ request.user = some "admin" ∧ request.groups = ["root"]
      ∧ request.path = "/apis/authorization.k8s.io/v1/selfsubjectaccessreviews"
      ∧ request.body = some body
      ∧ body.at? ["spec", "resourceAttributes", "verb"] = some (.str "impersonate")
      ∧ body.at? ["spec", "resourceAttributes", "resource"] = some (.str "serviceaccounts")
      ∧ body.at? ["spec", "resourceAttributes", "namespace"] = some (.str "team")
      ∧ body.at? ["spec", "resourceAttributes", "name"] = some (.str "trainer")
      ∧ (((Call.credentials (some "team:trainer") ["dev"]).onMachine (.ok deputy)).run
          (judging true) ()).1
        = .ok ⟨{ impersonate := some "system:serviceaccount:team:trainer", groups := some ["dev"] },
            some "system:serviceaccount:team:trainer", ["dev"]⟩)
    ∧ (∃ review deeds, (Control.onMachine (.ok deputy) trainersJobSet.delete).rounds
          (judging true) () = review :: deeds
      ∧ deeds.length = 2 ∧ ∀ d ∈ deeds, ∃ request, d.1 = .send request
        ∧ request.user = some "system:serviceaccount:team:trainer" ∧ request.groups = ["dev"])
    ∧ (∃ review, (Control.onMachine (.ok deputy) trainersJobSet.delete).rounds
          (judging false) () = [review])
    ∧ ((Control.onMachine (.ok deputy) trainersJobSet.delete).run (judging false) ()).1
      = .error (.auth "team:trainer" "not permitted to impersonate: no reason given") := by
  have hparse : Kube.ServiceAccount.parse "team:trainer" = .ok ⟨"team", "trainer"⟩ := rfl
  have husable : deputy.isUsable = true := by decide
  refine ⟨?credentials, ?granted, ?refused⟩
  case credentials =>
    have hresult : (((Call.credentials (some "team:trainer") ["dev"]).onMachine (.ok deputy)).run
          (judging true) ()).1
        = .ok ⟨{ impersonate := some "system:serviceaccount:team:trainer", groups := some ["dev"] },
            some "system:serviceaccount:team:trainer", ["dev"]⟩ :=
      Except.toOption_eq_some_iff.mp (by decide +kernel)
    obtain ⟨hreviewed, -⟩ := impersonation_needs_grant (.ok deputy) ["dev"] (judging true) ()
    obtain ⟨config, a, request, reply, hconfig, ha, hreviews, hrounds, -⟩ :=
      ((hreviewed "team:trainer").granted _).mp hresult
    cases hconfig
    cases hparse.symm.trans ha
    obtain ⟨body, hbody, hasks⟩ := hreviews.body
    exact ⟨request, reply, body, hrounds, hreviews.method, hreviews.user, hreviews.groups,
      hreviews.path, hbody, hasks.verb, hasks.resource, hasks.ns, hasks.name, hresult⟩
  case granted =>
    have hresult : ((Control.onMachine (.ok deputy) trainersJobSet.delete).run (judging true) ()).1
        = .ok .notFound := Except.toOption_eq_some_iff.mp (by decide +kernel)
    have hlength : ((Control.onMachine (.ok deputy) trainersJobSet.delete).rounds
        (judging true) ()).length = 3 := by decide +kernel
    obtain ⟨-, -, -, hdelete, -⟩ :=
      impersonation_needs_grant (.ok deputy) ["dev"] (judging true) ()
    have hgated := hdelete trainersJobSet
    rw [hresult] at hgated
    generalize (Control.onMachine (.ok deputy) trainersJobSet.delete).rounds (judging true) ()
      = rs at hgated hlength ⊢
    cases hgated with
    | granted hambient hparse' hreviews hgrants hsends =>
      cases hparse.symm.trans hparse'
      exact ⟨_, _, rfl, Nat.succ.inj hlength, hsends⟩
  case refused =>
    have hresult : ((Control.onMachine (.ok deputy) trainersJobSet.delete).run
          (judging false) ()).1
        = .error (.auth "team:trainer" "not permitted to impersonate: no reason given") :=
      Except.error?_eq_some_iff.mp (by decide +kernel)
    have hlength : ((Control.onMachine (.ok deputy) trainersJobSet.delete).rounds
        (judging false) ()).length = 1 := by decide +kernel
    exact ⟨List.length_eq_one_iff.mp hlength, hresult⟩

end JobLauncher
