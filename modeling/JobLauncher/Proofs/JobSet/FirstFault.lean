import JobLauncher.Proofs.JobSet.Compile

/-!
# The first fault of a plan

The compiler looks at the tries first and then at one replicated job after another, and remembers
the names it has seen. It stops at the first job that is at fault, one without a name or one whose
name has been seen. What it has seen is the names of the jobs before (`Scanned`), so a job at fault
is one that a look at the whole list shows to be at fault, and a list it goes through to the end has
names throughout, no two the same.

> `compile_or_first_fault`: which plans compile, what their documents say, and which error every
> other plan gets.
-/

namespace JobLauncher.JobSet

variable {plan : Plan} {job : String} {jobs before rest : List Json} {seen : List String}
  {doc : Document} {e : CompileError}

/-! ## Names -/

/-- The value is an object whose name is this text. -/
def HasName (r : Json) (name : String) : Prop :=
  ∃ fields, r = .obj fields ∧ fields.lookup "name" = some (.str name)

/-- A job has the name that is found in it. -/
theorem replicatedJobName?_eq_some_iff {r : Json} {name : String} :
    replicatedJobName? r = some name ↔ HasName r name := by
  unfold replicatedJobName? HasName
  constructor
  · intro h
    obtain ⟨v, hv, hname⟩ := Option.bind_eq_some_iff.mp h
    cases r with
    | obj fields =>
      cases v with
      | str s =>
        cases hname
        exact ⟨fields, rfl, hv⟩
      | _ => cases hname
    | _ => cases hv
  · rintro ⟨fields, rfl, hname⟩
    exact Option.bind_eq_some_iff.mpr ⟨.str name, hname, rfl⟩

theorem replicatedJobName?_eq_none_iff {r : Json} :
    replicatedJobName? r = none ↔ ∀ name, ¬HasName r name := by
  simp only [← replicatedJobName?_eq_some_iff, Option.eq_none_iff_forall_ne_some]

theorem HasName.unique {r : Json} {name name' : String} (h : HasName r name)
    (h' : HasName r name') : name = name' := by
  rw [← replicatedJobName?_eq_some_iff] at h h'
  exact Option.some.inj (h.symm.trans h')

/-- Every one of the replicated jobs has a name, and no two have the same. -/
structure WellNamed (jobs : List Json) : Prop where
  named : ∀ r ∈ jobs, ∃ name, HasName r name
  distinct : jobs.Pairwise fun r r' => ∀ name, HasName r name → ¬HasName r' name

/-! ## Faults -/

/-- The replicated job at index `i` is at fault: it has no name, or the name of one before it. The
error says so of the job `job`. -/
inductive FaultAt (job : String) (jobs : List Json) (i : Nat) : CompileError → Prop where
  | unnamed {r : Json} (hr : jobs[i]? = some r) (hnone : ∀ name, ¬HasName r name) :
      FaultAt job jobs i (.unnamedReplicatedJob job i)
  | repeated {r r' : Json} {name : String} {j : Nat} (hr : jobs[i]? = some r)
      (hname : HasName r name) (hj : j < i) (hr' : jobs[j]? = some r') (hname' : HasName r' name) :
      FaultAt job jobs i (.duplicateReplicatedJob job name)

/-- An index is at fault in one way only. -/
theorem FaultAt.unique {i : Nat} {f : CompileError} (h : FaultAt job jobs i e)
    (h' : FaultAt job jobs i f) : e = f := by
  cases h with
  | unnamed hr hnone =>
    cases h' with
    | unnamed => rfl
    | repeated hr' hname =>
      cases hr.symm.trans hr'
      exact absurd hname (hnone _)
  | repeated hr hname =>
    cases h' with
    | unnamed hr' hnone =>
      cases hr.symm.trans hr'
      exact absurd hname (hnone _)
    | repeated hr' hname' =>
      cases hr.symm.trans hr'
      rw [hname.unique hname']

/-- A list has no job at fault exactly if its jobs have names, no two the same. -/
theorem wellNamed_iff (job : String) : WellNamed jobs ↔ ∀ i e, ¬FaultAt job jobs i e := by
  constructor
  · rintro ⟨hnamed, hdistinct⟩ i e hfault
    cases hfault with
    | unnamed hr hnone =>
      obtain ⟨name, hname⟩ := hnamed _ (List.mem_of_getElem? hr)
      exact hnone name hname
    | repeated hr hname hj hr' hname' =>
      obtain ⟨hi, rfl⟩ := List.getElem?_eq_some_iff.mp hr
      obtain ⟨hj', rfl⟩ := List.getElem?_eq_some_iff.mp hr'
      exact List.pairwise_iff_getElem.mp hdistinct _ _ hj' hi hj _ hname' hname
  · intro hnone
    refine ⟨fun r hr => ?_, List.pairwise_iff_getElem.mpr fun j i hj hi hlt name hname' hname => ?_⟩
    · cases hname : replicatedJobName? r with
      | some name => exact ⟨name, replicatedJobName?_eq_some_iff.mp hname⟩
      | none =>
        obtain ⟨i, hi⟩ := List.getElem?_of_mem hr
        exact absurd (.unnamed hi (replicatedJobName?_eq_none_iff.mp hname)) (hnone i _)
    · exact hnone i _ (.repeated (List.getElem?_eq_getElem hi) hname hlt
        (List.getElem?_eq_getElem hj) hname')

/-- The first fault of a plan. That no try is allowed comes before everything else. -/
inductive FirstFault (plan : Plan) (jobs : List Json) : CompileError → Prop where
  | tries (h : plan.maxTries = 0) : FirstFault plan jobs (.invalidMaxTries plan.name)
  | names {i : Nat} {e : CompileError} (htries : plan.maxTries ≠ 0)
      (hfault : FaultAt plan.name jobs i e) (hleast : ∀ j < i, ∀ f, ¬FaultAt plan.name jobs j f) :
      FirstFault plan jobs e

/-- There is one first fault at most. -/
theorem FirstFault.unique {f : CompileError} (h : FirstFault plan jobs e)
    (h' : FirstFault plan jobs f) : e = f := by
  cases h with
  | tries hzero =>
    cases h' with
    | tries => rfl
    | names htries => exact absurd hzero htries
  | @names i _ htries hfault hleast =>
    cases h' with
    | tries hzero => exact absurd hzero htries
    | @names j _ _ hfault' hleast' =>
      obtain rfl : i = j := by
        rcases Nat.lt_trichotomy i j with hlt | heq | hgt
        · exact absurd hfault (hleast' i hlt e)
        · exact heq
        · exact absurd hfault' (hleast j hgt f)
      exact hfault.unique hfault'

/-! ## The scan -/

/-- The scan has passed `before` and has `rest` still to go: it has seen the names of what it has
passed, and nothing of that is at fault. -/
structure Scanned (job : String) (before rest : List Json) (seen : List String) : Prop where
  seen : ∀ name, name ∈ seen ↔ ∃ r ∈ before, HasName r name
  passed : ∀ i < before.length, ∀ e, ¬FaultAt job (before ++ rest) i e

/-- Before the first job nothing has been seen. -/
theorem Scanned.start (job : String) (jobs : List Json) : Scanned job [] jobs [] where
  seen := by simp
  passed i hi := absurd hi (Nat.not_lt_zero i)

/-- The next job is at fault if it has no name, -/
theorem faultAt_of_unnamed {r : Json} (hnone : ∀ name, ¬HasName r name) :
    FaultAt job (before ++ r :: rest) before.length (.unnamedReplicatedJob job before.length) :=
  .unnamed (by simp) hnone

/-- or if its name has been seen. -/
theorem Scanned.faultAt_of_seen {r : Json} (h : Scanned job before (r :: rest) seen)
    {name : String} (hname : HasName r name) (hseen : name ∈ seen) :
    FaultAt job (before ++ r :: rest) before.length (.duplicateReplicatedJob job name) := by
  obtain ⟨r', hr', hname'⟩ := (h.seen name).mp hseen
  obtain ⟨j, hj⟩ := List.getElem?_of_mem hr'
  have hlt : j < before.length := (List.getElem?_eq_some_iff.mp hj).1
  have hat : (before ++ r :: rest)[j]? = some r' := by rw [List.getElem?_append_left hlt, hj]
  exact .repeated (by simp) hname hlt hat hname'

/-- Otherwise the scan goes on behind it. -/
theorem Scanned.next {r : Json} (h : Scanned job before (r :: rest) seen) {name : String}
    (hname : HasName r name) (hnew : name ∉ seen) :
    Scanned job (before ++ [r]) rest (name :: seen) where
  seen name' := by
    rw [List.mem_cons, h.seen name']
    constructor
    · rintro (rfl | ⟨r', hr', hname'⟩)
      · exact ⟨r, List.mem_concat_self, hname⟩
      · exact ⟨r', List.mem_append_left _ hr', hname'⟩
    · rintro ⟨r', hr', hname'⟩
      rcases List.mem_append.mp hr' with hr' | hr'
      · exact .inr ⟨r', hr', hname'⟩
      · cases List.mem_singleton.mp hr'
        exact .inl (hname'.unique hname)
  passed i hi f hfault := by
    rw [List.append_assoc, List.singleton_append] at hfault
    rw [List.length_append, List.length_singleton] at hi
    -- the places before are known to be good; only the new one has to be looked at
    rcases Nat.lt_or_eq_of_le (Nat.le_of_lt_succ hi) with hlt | rfl
    · exact h.passed i hlt f hfault
    have hat : (before ++ r :: rest)[before.length]? = some r := by simp
    cases hfault with
    | unnamed hr hnone =>
      cases hat.symm.trans hr
      exact hnone name hname
    | repeated hr hname' hj hr' hearlier =>
      cases hat.symm.trans hr
      cases hname'.unique hname
      rw [List.getElem?_append_left hj] at hr'
      exact hnew ((h.seen _).mpr ⟨_, List.mem_of_getElem? hr', hearlier⟩)

/-- A scan that gets to the end has found nothing at fault; one that stops has found the first. -/
theorem Scanned.run (h : Scanned job before rest seen) :
    (checkNames job before.length seen rest = .ok () → WellNamed (before ++ rest))
    ∧ ∀ e, checkNames job before.length seen rest = .error e → ∃ i,
        FaultAt job (before ++ rest) i e ∧ ∀ j < i, ∀ f, ¬FaultAt job (before ++ rest) j f := by
  induction rest generalizing before seen with
  | nil =>
    constructor
    · refine fun _ => (wellNamed_iff job).mpr fun i e hfault => ?_
      have hi : i < before.length := by
        cases hfault with
        | unnamed hr | repeated hr => simpa using (List.getElem?_eq_some_iff.mp hr).1
      exact h.passed i hi e hfault
    · intro e he
      cases he
  | cons r rest ih =>
    have hsplit : before ++ r :: rest = (before ++ [r]) ++ rest := by
      rw [List.append_assoc, List.singleton_append]
    have hlength : before.length + 1 = (before ++ [r]).length := by
      rw [List.length_append, List.length_singleton]
    -- a job that is not at fault goes over to those passed, and the rest is scanned from there
    rw [checkNames]
    cases hr : replicatedJobName? r with
    | none =>
      constructor
      · intro hok
        cases hok
      · intro e he
        cases he
        exact ⟨_, faultAt_of_unnamed (replicatedJobName?_eq_none_iff.mp hr), h.passed⟩
    | some name =>
      have hname := replicatedJobName?_eq_some_iff.mp hr
      by_cases hseen : name ∈ seen
      · simp only [if_pos hseen]
        constructor
        · intro hok
          cases hok
        · intro e he
          cases he
          exact ⟨_, h.faultAt_of_seen hname hseen, h.passed⟩
      · simp only [if_neg hseen]
        rw [hlength, hsplit]
        exact ih (h.next hname hseen)

/-! ## The verdict -/

/-- Good names pass. -/
theorem checkNames_of_wellNamed (h : WellNamed jobs) : checkNames job 0 [] jobs = .ok () := by
  cases hcheck : checkNames job 0 [] jobs with
  | ok u => rfl
  | error e =>
    obtain ⟨i, hfault, -⟩ := (Scanned.start job jobs).run.2 e hcheck
    exact absurd hfault ((wellNamed_iff job).mp h i e)

/-- An error is about the first fault. -/
theorem compile_eq_error : compile plan jobs = .error e → FirstFault plan jobs e := by
  intro h
  unfold compile at h
  split at h
  next hzero =>
    cases h
    exact .tries hzero
  next hpos =>
    cases hcheck : checkNames plan.name 0 [] jobs with
    | ok u =>
      rw [hcheck] at h
      cases h
    | error f =>
      rw [hcheck] at h
      cases h
      obtain ⟨i, hfault, hleast⟩ := (Scanned.start plan.name jobs).run.2 _ hcheck
      exact .names hpos hfault hleast

/-- What a document carries of a plan and its replicated jobs. -/
structure Carries (plan : Plan) (jobs : List Json) (doc : Document) : Prop where
  name : doc.name = plan.name
  /-- The first try is not a restart. -/
  restarts : doc.maxRestarts.toNat + 1 = plan.maxTries.toNat
  jobs : doc.replicatedJobs = jobs
  /-- The keys are those of the accelerator and, for a queue, that of the queue. -/
  keys : ∀ key, (∃ value, doc.annotation? key = some value)
    ↔ (∃ value, plan.annotations.get? key = some value)
      ∨ key = queueAnnotation ∧ ∃ queue, plan.queue = some queue
  queue : ∀ queue, plan.queue = some queue → doc.annotation? queueAnnotation = some queue
  others : ∀ key, (key = queueAnnotation → plan.queue = none) →
    doc.annotation? key = plan.annotations.get? key

/-- A document that has been compiled carries what is in its plan. -/
theorem carries_of_compile (h : compile plan jobs = .ok doc) : Carries plan jobs doc := by
  have hget := annotation?_of_compile h
  obtain ⟨htries, -, rfl⟩ := compile_eq_ok_iff.mp h
  refine ⟨rfl, ?restarts, rfl, fun key => ?keys, fun queue hqueue => ?queue,
    fun key hkey => ?others⟩
  case restarts =>
    have hpos : 1 ≤ plan.maxTries.toNat :=
      Nat.pos_of_ne_zero fun hzero => htries (UInt32.toNat_inj.mp hzero)
    have hone : (plan.maxTries - 1).toNat = plan.maxTries.toNat - 1 :=
      UInt32.toNat_sub_of_le plan.maxTries 1 hpos
    show (plan.maxTries - 1).toNat + 1 = plan.maxTries.toNat
    omega
  case keys =>
    rw [hget]
    by_cases hkey : key = queueAnnotation
    · cases hqueue : plan.queue <;> simp [hkey]
    · simp [hkey]
  case queue => rw [hget, if_pos rfl, hqueue, Option.some_or]
  case others =>
    rw [hget]
    by_cases h : key = queueAnnotation
    · rw [if_pos h, hkey h, Option.none_or]
    · rw [if_neg h, Option.none_or]

/-- A plan compiles exactly if it allows a try and its replicated jobs have names, no two the same;
the document then carries the plan and the jobs as they are. Every other plan gets the error of its
first fault, and no plan gets another error. -/
theorem compile_or_first_fault (plan : Plan) (jobs : List Json) :
    ((∃ doc, compile plan jobs = .ok doc) ↔ 1 ≤ plan.maxTries.toNat ∧ WellNamed jobs)
    ∧ (∀ doc, compile plan jobs = .ok doc → Carries plan jobs doc)
    ∧ ∀ e, compile plan jobs = .error e ↔ FirstFault plan jobs e := by
  refine ⟨?accepts, fun doc => carries_of_compile, fun e => ⟨compile_eq_error, fun h => ?refuses⟩⟩
  case accepts =>
    constructor
    · rintro ⟨doc, hdoc⟩
      obtain ⟨htries, hnames, -⟩ := compile_eq_ok_iff.mp hdoc
      exact ⟨Nat.pos_of_ne_zero fun hzero => htries (UInt32.toNat_inj.mp hzero),
        (Scanned.start plan.name jobs).run.1 hnames⟩
    · rintro ⟨hpos, hnamed⟩
      have htries : plan.maxTries ≠ 0 := by
        intro hzero
        rw [hzero] at hpos
        exact absurd hpos (by decide)
      exact ⟨_, compile_eq_ok_iff.mpr ⟨htries, checkNames_of_wellNamed hnamed, rfl⟩⟩
  case refuses =>
    cases hcompile : compile plan jobs with
    | error f => rw [(compile_eq_error hcompile).unique h]
    | ok doc =>
      obtain ⟨htries, hnames, -⟩ := compile_eq_ok_iff.mp hcompile
      cases h with
      | tries hzero => exact absurd hzero htries
      | @names i _ _ hfault =>
        exact absurd hfault ((wellNamed_iff _).mp ((Scanned.start plan.name jobs).run.1 hnames) i e)

example : compile ⟨"job", 1, none, Dict.empty⟩
    [.obj [("name", .str "a")], .obj [("name", .num (.int 7))], .obj [("name", .str "a")]]
    = .error (.unnamedReplicatedJob "job" 1) := rfl

end JobLauncher.JobSet
