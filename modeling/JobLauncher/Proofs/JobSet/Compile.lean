import JobLauncher.JobSet.Compile
import JobLauncher.Proofs.Except

/-!
# Compiled JobSets

What the compiler accepts and what it makes of it: `compile_eq_ok_iff` for the document as a whole
and `get?_compileAnnotations` for its annotations, key by key.
-/

namespace JobLauncher.JobSet

variable {plan : Plan} {jobs : List Json} {doc : Document}

/-- A plan compiles if there is a first try and the names are good. -/
theorem compile_eq_ok_iff : compile plan jobs = .ok doc ↔
    plan.maxTries ≠ 0 ∧ checkNames plan.name 0 [] jobs = .ok ()
      ∧ doc = ⟨plan.name, compileAnnotations plan, plan.maxTries - 1, jobs⟩ := by
  unfold compile
  split
  next hzero => simp [hzero]
  next hpos =>
    rw [Except.bind_eq_ok]
    constructor
    · rintro ⟨u, hnames, hdoc⟩
      cases hdoc
      exact ⟨hpos, hnames, rfl⟩
    · rintro ⟨-, hnames, rfl⟩
      exact ⟨(), hnames, rfl⟩

/-- Errors about names name the job. -/
theorem job_of_checkNames {job : String} {seen : List String} {e : CompileError} :
    ∀ {index : Nat}, checkNames job index seen jobs = .error e → e.job = job := by
  induction jobs generalizing seen with
  | nil =>
    intro index h
    cases h
  | cons r rest ih =>
    intro index h
    rw [checkNames] at h
    split at h
    · cases h
      rfl
    · split at h
      · cases h
        rfl
      · exact ih h

/-- The error of a plan that does not compile names its job. -/
theorem job_of_compile {e : CompileError} (h : compile plan jobs = .error e) :
    e.job = plan.name := by
  unfold compile at h
  split at h
  · cases h
    rfl
  · cases hnames : checkNames plan.name 0 [] jobs with
    | error f =>
      rw [hnames] at h
      cases h
      exact job_of_checkNames hnames
    | ok u =>
      rw [hnames] at h
      cases h

/-- The queue comes first; every other entry is one that the accelerator asks for. -/
theorem get?_compileAnnotations (plan : Plan) (key : String) :
    (compileAnnotations plan).get? key
      = (if key = queueAnnotation then plan.queue else none).or (plan.annotations.get? key) := by
  unfold compileAnnotations
  rw [Dict.get?_foldl_insertNew]
  congr 1
  cases plan.queue with
  | none => rw [ite_self]; rfl
  | some queue => rw [Dict.get?_insert]; rfl

/-- An annotation of a compiled document. -/
theorem annotation?_of_compile (h : compile plan jobs = .ok doc) (key : String) :
    doc.annotation? key
      = (if key = queueAnnotation then plan.queue else none).or (plan.annotations.get? key) := by
  obtain ⟨-, -, rfl⟩ := compile_eq_ok_iff.mp h
  exact get?_compileAnnotations plan key

/-- The queue annotation of a document is the queue of the plan or, where there is none, whatever
the accelerator asks for under that key. So the annotation is the queue exactly if the accelerator
leaves the key alone where there is no queue. -/
theorem queue_of_compile (h : compile plan jobs = .ok doc) :
    doc.annotation? queueAnnotation = plan.queue.or (plan.annotations.get? queueAnnotation)
    ∧ (doc.annotation? queueAnnotation = plan.queue
        ↔ (plan.queue = none → plan.annotations.get? queueAnnotation = none)) := by
  have heq : doc.annotation? queueAnnotation
      = plan.queue.or (plan.annotations.get? queueAnnotation) := by
    rw [annotation?_of_compile h, if_pos rfl]
  refine ⟨heq, ?_⟩
  rw [heq]
  cases plan.queue with
  | none => simp
  | some queue => simp

/-- A plan without a queue, for an accelerator that asks for one. -/
def queuedPlan : Plan where
  name := "job"
  maxTries := 1
  queue := none
  annotations := Dict.empty.insert queueAnnotation "only"

/-- Its replicated jobs. -/
def queuedJobs : List Json := [.obj [("name", .str "job")]]

/-- An annotation of the accelerator comes through where no queue is set. -/
theorem queue_of_compile_from_accelerator : ∃ doc, compile queuedPlan queuedJobs = .ok doc
    ∧ doc.annotation? queueAnnotation = queuedPlan.queue.or (some "only") := by
  have h : compile queuedPlan queuedJobs
      = .ok ⟨"job", compileAnnotations queuedPlan, 0, queuedJobs⟩ := rfl
  exact ⟨_, h, (queue_of_compile h).1⟩

/-- So a document may have a queue where none was asked for. -/
theorem queue_of_compile_without_queue :
    ¬∀ (plan : Plan) (jobs : List Json) (doc : Document), compile plan jobs = .ok doc →
      doc.annotation? queueAnnotation = plan.queue := by
  intro h
  have hnone := h queuedPlan queuedJobs _ rfl
  revert hnone
  decide

end JobLauncher.JobSet
