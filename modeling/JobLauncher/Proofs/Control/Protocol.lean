import JobLauncher.Control.JobSet
import JobLauncher.Proofs.Control.Course
import JobLauncher.Proofs.JobSet.Compile
import JobLauncher.Proofs.JobSet.Wire

/-!
# The calls of an operation

Submitting a job and having a JobSet deleted both make at most three calls, one after another: for
credentials, for the way to address JobSets, and the one that does it. Each is made only if the one
before it gave what it takes (`InOrder`). What an operation comes to is what the last of its calls
said, and the error tells how far it came.

`JobSetJob.Submits` and `JobSetRef.Deletes` list the courses that the two operations can take;
everything else is read off these.

> `calls_keep_protocol`: which calls are made, in which order, and what becomes of their answers,
> for every job and every JobSet, whatever the answers.
-/

namespace JobLauncher

open Program (Round Course)

/-! ## Errors of the shared parts -/

namespace Job.Error

/-- None of them is an error of submitting, -/
theorem isSubmission_ofError (e : JobLauncher.Error) : (ofError e).isSubmission = false := by
  cases e <;> rfl

/-- and none of them is about writing a document. -/
theorem ofError_ne_serialization (e : JobLauncher.Error) (text : String) :
    ofError e ≠ .serialization text := by
  cases e <;> exact Job.Error.noConfusion

end Job.Error

/-! ## Three calls in a row -/

/-- The rounds of an operation that asks for credentials and for the way to address JobSets before
it makes the call `last`, as far as it comes. -/
inductive Approach (account : Option String) (scopes : List String)
    (last : Kube.Credentials → Kube.Resource → Call) : List (Round Call Call.Answer) → Prop where
  | unauthorized (e : Error) :
      Approach account scopes last [⟨.credentials account scopes, .error e⟩]
  | unresolved (c : Kube.Credentials) (source : Kube.Failure) :
      Approach account scopes last
        [⟨.credentials account scopes, .ok c⟩, ⟨.resolve c, .error source⟩]
  | unserved (c : Kube.Credentials) :
      Approach account scopes last [⟨.credentials account scopes, .ok c⟩, ⟨.resolve c, .ok none⟩]
  | answered (c : Kube.Credentials) (r : Kube.Resource) (answer : (last c r).Answer) :
      Approach account scopes last
        [⟨.credentials account scopes, .ok c⟩, ⟨.resolve c, .ok (some r)⟩, ⟨last c r, answer⟩]

/-- A call that changes a JobSet, with the credentials and the resource that it was given. -/
def Call.change? : Call → Option (Kube.Credentials × Kube.Resource)
  | .create c _ r _ | .delete c _ r _ => some (c, r)
  | _ => none

/-- The calls for credentials, for the way to address JobSets and `last` come in this order, each at
most once and each exactly if the one before it gave what it takes. -/
structure InOrder (account : Option String) (scopes : List String)
    (last : Kube.Credentials → Kube.Resource → Call) (rs : List (Round Call Call.Answer)) :
    Prop where
  begins : .credentials account scopes ∈ rs.map (·.1)
  order : ∃ c r, rs.map (·.1) <+: [.credentials account scopes, .resolve c, last c r]
  once : (rs.map (·.1)).Nodup
  resolves : ∀ c, .resolve c ∈ rs.map (·.1) ↔ ⟨.credentials account scopes, .ok c⟩ ∈ rs
  makes : ∀ c r, last c r ∈ rs.map (·.1) ↔ ⟨.resolve c, .ok (some r)⟩ ∈ rs

/-- Whichever call the approach ends with, the calls are made in order, each once at most. -/
theorem Approach.inOrder {account : Option String} {scopes : List String}
    {last : Kube.Credentials → Kube.Resource → Call} {rs : List (Round Call Call.Answer)}
    (h : Approach account scopes last rs) (hlast : ∀ c r, (last c r).change? = some (c, r)) :
    InOrder account scopes last rs := by
  -- the last call is a change, and so it is neither of the two before it
  have hcredentials (c r) : last c r ≠ .credentials account scopes := by
    intro he
    have hchange := hlast c r
    rw [he] at hchange
    cases hchange
  have hresolve (c r c') : last c r ≠ .resolve c' := by
    intro he
    have hchange := hlast c r
    rw [he] at hchange
    cases hchange
  have hinj (c r c' r') : last c r = last c' r' ↔ c = c' ∧ r = r' := by
    constructor
    · intro he
      have hchange := hlast c r
      rw [he, hlast c' r'] at hchange
      cases hchange
      exact ⟨rfl, rfl⟩
    · rintro ⟨rfl, rfl⟩
      rfl
  -- how far the approach came says which calls there are; each claim is then about a short list
  cases h with
  | unauthorized e =>
    exact ⟨by simp, ⟨⟨{}, none, []⟩, .of "" "", ⟨_, rfl⟩⟩, by simp, by simp, by simp [hcredentials]⟩
  | unresolved c source =>
    exact ⟨by simp, ⟨c, .of "" "", ⟨_, rfl⟩⟩, by simp, by simp [eq_comm],
      by simp [hcredentials, hresolve]⟩
  | unserved c =>
    exact ⟨by simp, ⟨c, .of "" "", ⟨_, rfl⟩⟩, by simp, by simp [eq_comm],
      by simp [hcredentials, hresolve]⟩
  | answered c r answer =>
    have hresolve' (c') : Call.resolve c' ≠ last c r := (hresolve c r c').symm
    refine ⟨by simp, ⟨c, r, ⟨[], rfl⟩⟩, ?_, ?_, ?_⟩
    · simp [(hcredentials c r).symm, hresolve']
    · simp [hcredentials, hresolve', eq_comm]
    · intro c' r'
      simp [hcredentials, hresolve, hresolve', hinj]

/-- There are no other calls. -/
theorem InOrder.cases {account : Option String} {scopes : List String}
    {last : Kube.Credentials → Kube.Resource → Call} {rs : List (Round Call Call.Answer)}
    (h : InOrder account scopes last rs) {call : Call} (hcall : call ∈ rs.map (·.1)) :
    call = .credentials account scopes ∨ (∃ c, call = .resolve c) ∨ ∃ c r, call = last c r := by
  obtain ⟨c, r, hprefix⟩ := h.order
  have hmem := hprefix.subset hcall
  simp only [List.mem_cons, List.not_mem_nil, or_false] at hmem
  exact hmem.imp id (Or.imp (fun hr => ⟨c, hr⟩) fun hl => ⟨c, r, hl⟩)

/-! ## Submitting a job -/

namespace JobSetJob

variable {j : JobSetJob} {rs : List (Round Call Call.Answer)} {result : Except Job.Error Json}

/-- The call that creates the document of a job. -/
def createCall (j : JobSetJob) (document : JobSet.Document) (c : Kube.Credentials)
    (r : Kube.Resource) : Call :=
  .create c j.config.ns r (document.submit r.apiVersion).toJson

/-- The courses that submitting a job can take. -/
inductive Submits (j : JobSetJob) :
    List (Round Call Call.Answer) → Except Job.Error Json → Prop where
  | uncompiled {e : Job.Error} (h : j.compile = .error e) : Submits j [] (.error e)
  | unauthorized {document : JobSet.Document} (h : j.compile = .ok document) (e : Error) : Submits j
      [⟨.credentials j.config.impersonateAccount j.config.impersonateScopes, .error e⟩]
      (.error (.ofError e))
  | unresolved {document : JobSet.Document} (h : j.compile = .ok document) (c : Kube.Credentials)
      (source : Kube.Failure) : Submits j
      [⟨.credentials j.config.impersonateAccount j.config.impersonateScopes, .ok c⟩,
        ⟨.resolve c, .error source⟩]
      (.error (.submission j.config.name source))
  | unserved {document : JobSet.Document} (h : j.compile = .ok document) (c : Kube.Credentials) :
      Submits j
      [⟨.credentials j.config.impersonateAccount j.config.impersonateScopes, .ok c⟩,
        ⟨.resolve c, .ok none⟩]
      (.error (.crdMissing j.config.name))
  | rejected {document : JobSet.Document} (h : j.compile = .ok document) (c : Kube.Credentials)
      (r : Kube.Resource) (source : Kube.Failure) : Submits j
      [⟨.credentials j.config.impersonateAccount j.config.impersonateScopes, .ok c⟩,
        ⟨.resolve c, .ok (some r)⟩, ⟨j.createCall document c r, .error source⟩]
      (.error (.submission j.config.name source))
  | accepted {document : JobSet.Document} (h : j.compile = .ok document) (c : Kube.Credentials)
      (r : Kube.Resource) (object : Json) : Submits j
      [⟨.credentials j.config.impersonateAccount j.config.impersonateScopes, .ok c⟩,
        ⟨.resolve c, .ok (some r)⟩, ⟨j.createCall document c r, .ok object⟩]
      (.ok object)

/-- Submitting takes one of these courses, whatever the answers. The document is always an object,
so reading it as one does not fail. -/
theorem submits_of_course (h : Course j.execute rs result) : j.Submits rs result := by
  unfold execute at h
  cases hcompile : j.compile with
  | error e =>
    rw [hcompile] at h
    obtain ⟨rfl, rfl⟩ := Program.course_done.mp h
    exact .uncompiled hcompile
  | ok document =>
    simp only [hcompile, JobSet.decodeObjectOfAnyKind_toJson] at h
    obtain ⟨e | c, rest, rfl, hresolve⟩ := Program.course_ask.mp h
    · obtain ⟨rfl, rfl⟩ := Program.course_done.mp hresolve
      exact .unauthorized hcompile e
    obtain ⟨source | _ | r, rest, rfl, hcreate⟩ := Program.course_ask.mp hresolve
    · obtain ⟨rfl, rfl⟩ := Program.course_done.mp hcreate
      exact .unresolved hcompile c source
    · obtain ⟨rfl, rfl⟩ := Program.course_done.mp hcreate
      exact .unserved hcompile c
    obtain ⟨source | object, rest, rfl, hend⟩ := Program.course_ask.mp hcreate
    · obtain ⟨rfl, rfl⟩ := Program.course_done.mp hend
      exact .rejected hcompile c r source
    · obtain ⟨rfl, rfl⟩ := Program.course_done.mp hend
      exact .accepted hcompile c r object

/-- Why a job is not submitted, as the rounds tell it. -/
inductive Fails (j : JobSetJob) (rs : List (Round Call Call.Answer)) : Job.Error → Prop where
  | compile {e : JobSet.CompileError}
      (h : JobSet.compile (j.config.plan j.replicated.annotations) j.replicated.jobs = .error e) :
      Fails j rs (.config j.config.name e.message)
  | credentials {account : Option String} {scopes : List String} {e : Error}
      (h : ⟨.credentials account scopes, .error e⟩ ∈ rs) : Fails j rs (.ofError e)
  | resolve {c : Kube.Credentials} {source : Kube.Failure} (h : ⟨.resolve c, .error source⟩ ∈ rs) :
      Fails j rs (.submission j.config.name source)
  | crd {c : Kube.Credentials} (h : ⟨.resolve c, .ok none⟩ ∈ rs) :
      Fails j rs (.crdMissing j.config.name)
  | create {c : Kube.Credentials} {ns : String} {r : Kube.Resource} {body : Json}
      {source : Kube.Failure} (h : ⟨.create c ns r body, .error source⟩ ∈ rs) :
      Fails j rs (.submission j.config.name source)

/-- A job that does not compile is one that is not allowed, and the error names it. -/
theorem compile_eq_error_iff {e : Job.Error} : j.compile = .error e
    ↔ ∃ f, JobSet.compile (j.config.plan j.replicated.annotations) j.replicated.jobs = .error f
        ∧ e = .config j.config.name f.message := by
  have hofCompile {f : JobSet.CompileError}
      (hf : JobSet.compile (j.config.plan j.replicated.annotations) j.replicated.jobs = .error f) :
      Job.Error.ofCompile f = .config j.config.name f.message :=
    congrArg (Job.Error.config · f.message) (JobSet.job_of_compile hf)
  unfold compile Job.Config.compile
  rw [Except.mapError_eq_error]
  constructor
  · rintro ⟨f, hf, rfl⟩
    exact ⟨f, hf, hofCompile hf⟩
  · rintro ⟨f, hf, rfl⟩
    exact ⟨f, hf, hofCompile hf⟩

/-- What submitting a job calls and what it comes to. -/
structure KeepsProtocol (j : JobSetJob) (rs : List (Round Call Call.Answer))
    (result : Except Job.Error Json) : Prop where
  /-- Nothing is called for a job that does not compile. -/
  uncompiled : ∀ e, j.compile = .error e → rs = []
  calls : ∀ document, j.compile = .ok document →
    InOrder j.config.impersonateAccount j.config.impersonateScopes (j.createCall document) rs
  /-- What is created is under the version of the resource, and it is the one thing created. -/
  body : ∀ c ns r body, .create c ns r body ∈ rs.map (·.1) →
    ns = j.config.ns ∧ body.field? "apiVersion" = some (.str r.apiVersion)
  created : ∀ object, result = .ok object
    ↔ ∃ c ns r body, ⟨.create c ns r body, .ok object⟩ ∈ rs
  failed : ∀ e, result = .error e ↔ j.Fails rs e
  /-- The errors of submitting are those after credentials were there. -/
  submission : ∀ e, result = .error e → (e.isSubmission = true
    ↔ ∃ account scopes c, ⟨.credentials account scopes, .ok c⟩ ∈ rs)
  written : ∀ text, result ≠ .error (.serialization text)

namespace Submits

/-- A job that compiles is submitted by an approach that ends with its creation. -/
theorem approach (h : j.Submits rs result) {document : JobSet.Document}
    (hcompile : j.compile = .ok document) :
    Approach j.config.impersonateAccount j.config.impersonateScopes (j.createCall document) rs := by
  cases h with
  | uncompiled h =>
    rw [h] at hcompile
    cases hcompile
  | unauthorized h e => exact .unauthorized e
  | unresolved h c source => exact .unresolved c source
  | unserved h c => exact .unserved c
  | rejected h c r source =>
    rw [h] at hcompile
    cases hcompile
    exact @Approach.answered _ _ (j.createCall _) c r (.error source)
  | accepted h c r object =>
    rw [h] at hcompile
    cases hcompile
    exact @Approach.answered _ _ (j.createCall _) c r (.ok object)

/-- An object is the result exactly if it was the answer to a creation. -/
theorem created (h : j.Submits rs result) (object : Json) :
    result = .ok object ↔ ∃ c ns r body, ⟨.create c ns r body, .ok object⟩ ∈ rs := by
  cases h with
  | _ => simp [createCall, eq_comm]

/-- There is an error exactly if one of the calls or the compilation came to it. -/
theorem failed (h : j.Submits rs result) (e : Job.Error) : result = .error e ↔ j.Fails rs e := by
  constructor
  · rintro rfl
    cases h with
    | uncompiled h =>
      obtain ⟨f, hf, rfl⟩ := compile_eq_error_iff.mp h
      exact .compile hf
    | unauthorized h e => exact .credentials (.head _)
    | unresolved h c source => exact .resolve (.tail _ (.head _))
    | unserved h c => exact .crd (.tail _ (.head _))
    | rejected h c r source => exact .create (.tail _ (.tail _ (.head _)))
  · intro hfails
    -- a failure of each kind is told by a round of one course only
    cases hfails with
    | compile hf =>
      have hcompile := compile_eq_error_iff.mpr ⟨_, hf, rfl⟩
      cases h with
      | uncompiled h =>
        rw [h] at hcompile
        cases hcompile
        rfl
      | _ h => rw [h] at hcompile; cases hcompile
    | credentials hm =>
      cases h with
      | unauthorized h e =>
        cases List.mem_singleton.mp hm
        rfl
      | _ => simp [createCall] at hm
    | @resolve c' source' hm =>
      cases h with
      | unresolved h c source =>
        obtain ⟨-, rfl⟩ : c' = c ∧ source' = source := by simpa using hm
        rfl
      | _ => simp [createCall] at hm
    | crd hm =>
      cases h with
      | unserved h c => rfl
      | _ => simp [createCall] at hm
    | @create _ _ _ _ source' hm =>
      cases h with
      | rejected h c r source =>
        obtain ⟨-, rfl⟩ : _ ∧ source' = source := by simpa [createCall] using hm
        rfl
      | _ => simp [createCall] at hm

/-- Errors of the submission itself come after credentials have been obtained. -/
theorem submission (h : j.Submits rs result) (e : Job.Error) (he : result = .error e) :
    e.isSubmission = true ↔ ∃ account scopes c, ⟨.credentials account scopes, .ok c⟩ ∈ rs := by
  cases h with
  | uncompiled h =>
    cases he
    obtain ⟨f, -, rfl⟩ := compile_eq_error_iff.mp h
    simp [Job.Error.isSubmission]
  | unauthorized h e =>
    cases he
    simp [Job.Error.isSubmission_ofError]
  | accepted h c r object => cases he
  | unresolved h c source | unserved h c | rejected h c r source =>
    cases he
    exact ⟨fun _ => ⟨_, _, c, .head _⟩, fun _ => rfl⟩

/-- The document can always be written. -/
theorem written (h : j.Submits rs result) (text : String) :
    result ≠ .error (.serialization text) := by
  intro hresult
  have hfails := (h.failed _).mp hresult
  generalize he : Job.Error.serialization text = e at hfails
  cases hfails with
  | credentials hm => exact Job.Error.ofError_ne_serialization _ text he.symm
  | _ => cases he

/-- What is created lies in the namespace of the job and has the version of the resource. -/
theorem body {c : Kube.Credentials} {ns : String} {r : Kube.Resource} {body : Json}
    (h : j.Submits rs result) (hm : .create c ns r body ∈ rs.map (·.1)) :
    ns = j.config.ns ∧ body.field? "apiVersion" = some (.str r.apiVersion) := by
  cases h with
  | rejected h c' r' source | accepted h c' r' object =>
    obtain ⟨rfl, rfl, rfl, rfl⟩ : c = c' ∧ ns = j.config.ns ∧ r = r' ∧ body = _ := by
      simpa [createCall] using hm
    exact ⟨rfl, rfl⟩
  | _ => simp at hm

/-- So the protocol is kept by a submission. -/
theorem keepsProtocol (h : j.Submits rs result) : j.KeepsProtocol rs result where
  uncompiled e hcompile := by
    cases h with
    | uncompiled h => rfl
    | _ h => rw [h] at hcompile; cases hcompile
  calls document hcompile := (h.approach hcompile).inOrder fun _ _ => rfl
  body _ _ _ _ hm := h.body hm
  created := h.created
  failed := h.failed
  submission := h.submission
  written := h.written

end Submits

end JobSetJob

/-! ## Having a JobSet deleted -/

namespace JobSetRef

variable {t : JobSetRef} {rs : List (Round Call Call.Answer)} {result : Except Job.Error Deletion}

/-- The call that has a JobSet deleted. -/
def deleteCall (t : JobSetRef) (c : Kube.Credentials) (r : Kube.Resource) : Call :=
  .delete c t.ns r t.name

/-- The courses that having a JobSet deleted can take. -/
inductive Deletes (t : JobSetRef) :
    List (Round Call Call.Answer) → Except Job.Error Deletion → Prop where
  | unauthorized (e : Error) : Deletes t
      [⟨.credentials t.impersonateAccount t.impersonateScopes, .error e⟩] (.error (.ofError e))
  | unresolved (c : Kube.Credentials) (source : Kube.Failure) : Deletes t
      [⟨.credentials t.impersonateAccount t.impersonateScopes, .ok c⟩,
        ⟨.resolve c, .error source⟩]
      (.error (.deletion t.name source))
  | unserved (c : Kube.Credentials) : Deletes t
      [⟨.credentials t.impersonateAccount t.impersonateScopes, .ok c⟩, ⟨.resolve c, .ok none⟩]
      (.ok .notFound)
  | accepted (c : Kube.Credentials) (r : Kube.Resource) : Deletes t
      [⟨.credentials t.impersonateAccount t.impersonateScopes, .ok c⟩,
        ⟨.resolve c, .ok (some r)⟩, ⟨t.deleteCall c r, .ok ()⟩]
      (.ok .requested)
  | gone (c : Kube.Credentials) (r : Kube.Resource) {source : Kube.Failure}
      (h : source.code? = some 404) : Deletes t
      [⟨.credentials t.impersonateAccount t.impersonateScopes, .ok c⟩,
        ⟨.resolve c, .ok (some r)⟩, ⟨t.deleteCall c r, .error source⟩]
      (.ok .notFound)
  | rejected (c : Kube.Credentials) (r : Kube.Resource) {source : Kube.Failure}
      (h : source.code? ≠ some 404) : Deletes t
      [⟨.credentials t.impersonateAccount t.impersonateScopes, .ok c⟩,
        ⟨.resolve c, .ok (some r)⟩, ⟨t.deleteCall c r, .error source⟩]
      (.error (.deletion t.name source))

/-- Having a JobSet deleted takes one of these courses, whatever the answers. -/
theorem deletes_of_course (h : Course t.delete rs result) : t.Deletes rs result := by
  unfold delete at h
  obtain ⟨e | c, rest, rfl, hresolve⟩ := Program.course_ask.mp h
  · obtain ⟨rfl, rfl⟩ := Program.course_done.mp hresolve
    exact .unauthorized e
  obtain ⟨source | _ | r, rest, rfl, hdelete⟩ := Program.course_ask.mp hresolve
  · obtain ⟨rfl, rfl⟩ := Program.course_done.mp hdelete
    exact .unresolved c source
  · obtain ⟨rfl, rfl⟩ := Program.course_done.mp hdelete
    exact .unserved c
  obtain ⟨source | ⟨⟩, rest, rfl, hend⟩ := Program.course_ask.mp hdelete
  · by_cases hgone : source.code? = some 404
    · simp only [Kube.Failure.isNotFound, hgone, beq_self_eq_true, if_true] at hend
      obtain ⟨rfl, rfl⟩ := Program.course_done.mp hend
      exact .gone c r hgone
    · simp only [Kube.Failure.isNotFound, beq_iff_eq, hgone, if_false] at hend
      obtain ⟨rfl, rfl⟩ := Program.course_done.mp hend
      exact .rejected c r hgone
  · obtain ⟨rfl, rfl⟩ := Program.course_done.mp hend
    exact .accepted c r

/-- Why a JobSet is not deleted, as the rounds tell it. -/
inductive Fails (t : JobSetRef) (rs : List (Round Call Call.Answer)) : Job.Error → Prop where
  | credentials {account : Option String} {scopes : List String} {e : Error}
      (h : ⟨.credentials account scopes, .error e⟩ ∈ rs) : Fails t rs (.ofError e)
  | resolve {c : Kube.Credentials} {source : Kube.Failure} (h : ⟨.resolve c, .error source⟩ ∈ rs) :
      Fails t rs (.deletion t.name source)
  | delete {c : Kube.Credentials} {ns name : String} {r : Kube.Resource} {source : Kube.Failure}
      (h : ⟨.delete c ns r name, .error source⟩ ∈ rs) (hcode : source.code? ≠ some 404) :
      Fails t rs (.deletion t.name source)

/-- What having a JobSet deleted calls and what it comes to. -/
structure KeepsProtocol (t : JobSetRef) (rs : List (Round Call Call.Answer))
    (result : Except Job.Error Deletion) : Prop where
  calls : InOrder t.impersonateAccount t.impersonateScopes t.deleteCall rs
  /-- It is the one JobSet that is deleted. -/
  target : ∀ c ns r name, .delete c ns r name ∈ rs.map (·.1) → ns = t.ns ∧ name = t.name
  requested : result = .ok .requested ↔ ∃ c ns r name, ⟨.delete c ns r name, .ok ()⟩ ∈ rs
  /-- There is nothing to delete where there are no JobSets or not this one. -/
  notFound : result = .ok .notFound ↔ (∃ c, ⟨.resolve c, .ok none⟩ ∈ rs)
    ∨ ∃ c ns r name source, ⟨.delete c ns r name, .error source⟩ ∈ rs ∧ source.code? = some 404
  failed : ∀ e, result = .error e ↔ t.Fails rs e

namespace Deletes

/-- A JobSet is deleted by an approach that ends with the call for that. -/
theorem approach (h : t.Deletes rs result) :
    Approach t.impersonateAccount t.impersonateScopes t.deleteCall rs := by
  cases h with
  | unauthorized e => exact .unauthorized e
  | unresolved c source => exact .unresolved c source
  | unserved c => exact .unserved c
  | accepted c r => exact @Approach.answered _ _ t.deleteCall c r (.ok ())
  | gone c r h => exact @Approach.answered _ _ t.deleteCall c r (.error _)
  | rejected c r h => exact @Approach.answered _ _ t.deleteCall c r (.error _)

/-- A deletion is under way exactly if the call for it was accepted. -/
theorem requested (h : t.Deletes rs result) :
    result = .ok .requested ↔ ∃ c ns r name, ⟨.delete c ns r name, .ok ()⟩ ∈ rs := by
  cases h with
  | _ => simp [deleteCall]

/-- A JobSet is not found where the cluster does not have the resource, or not this one of it. -/
theorem notFound (h : t.Deletes rs result) :
    result = .ok .notFound ↔ (∃ c, ⟨.resolve c, .ok none⟩ ∈ rs)
      ∨ ∃ c ns r name source, ⟨.delete c ns r name, .error source⟩ ∈ rs
        ∧ source.code? = some 404 := by
  cases h with
  | gone c r h =>
    exact ⟨fun _ => .inr ⟨c, _, r, _, _, .tail _ (.tail _ (.head _)), h⟩, fun _ => rfl⟩
  | rejected c r h =>
    refine ⟨fun he => absurd he (by simp), ?_⟩
    rintro (⟨c', hm⟩ | ⟨c', ns, r', name, source', hm, hcode⟩)
    · simp [deleteCall] at hm
    · simp only [deleteCall, List.mem_cons, Sigma.mk.injEq, reduceCtorEq, false_and, false_or,
        List.not_mem_nil, or_false, heq_eq_eq, Except.error.injEq] at hm
      exact absurd (hm.2 ▸ hcode) h
  | _ => simp [deleteCall]

/-- Every other answer is an error. -/
theorem failed (h : t.Deletes rs result) (e : Job.Error) : result = .error e ↔ t.Fails rs e := by
  constructor
  · rintro rfl
    cases h with
    | unauthorized e => exact .credentials (.head _)
    | unresolved c source => exact .resolve (.tail _ (.head _))
    | rejected c r h => exact .delete (.tail _ (.tail _ (.head _))) h
  · intro hfails
    cases hfails with
    | credentials hm =>
      cases h with
      | unauthorized e =>
        cases List.mem_singleton.mp hm
        rfl
      | _ => simp [deleteCall] at hm
    | @resolve c' source' hm =>
      cases h with
      | unresolved c source =>
        obtain ⟨-, rfl⟩ : c' = c ∧ source' = source := by simpa using hm
        rfl
      | _ => simp [deleteCall] at hm
    | @delete _ _ _ _ source' hm hcode =>
      cases h with
      | @gone c r source h =>
        obtain ⟨-, rfl⟩ : _ ∧ source' = source := by simpa [deleteCall] using hm
        exact absurd h hcode
      | @rejected c r source h =>
        obtain ⟨-, rfl⟩ : _ ∧ source' = source := by simpa [deleteCall] using hm
        rfl
      | _ => simp [deleteCall] at hm

/-- What is deleted is the JobSet that the request names. -/
theorem target {c : Kube.Credentials} {ns name : String} {r : Kube.Resource}
    (h : t.Deletes rs result) (hm : .delete c ns r name ∈ rs.map (·.1)) :
    ns = t.ns ∧ name = t.name := by
  cases h with
  | accepted c' r' | gone c' r' h | rejected c' r' h =>
    obtain ⟨-, hns, -, hname⟩ : c = c' ∧ ns = t.ns ∧ r = r' ∧ name = t.name := by
      simpa [deleteCall] using hm
    exact ⟨hns, hname⟩
  | _ => simp at hm

/-- So the protocol is kept by a deletion. -/
theorem keepsProtocol (h : t.Deletes rs result) : t.KeepsProtocol rs result where
  calls := h.approach.inOrder fun _ _ => rfl
  target _ _ _ _ hm := h.target hm
  requested := h.requested
  notFound := h.notFound
  failed := h.failed

end Deletes

end JobSetRef

end JobLauncher
