import JobLauncher.Job.Config
import JobLauncher.Proofs.Except

/-!
# Valid configurations

What the checks of a draft come to. They are made once, when a configuration is built, and what they
establish is a property of the configuration alone (`Config.Valid`), whatever changes led to the
draft and whatever the settings were. Everything that is made of a configuration later on rests on
it.
-/

namespace JobLauncher.Job

/-- A job fits where it runs: on a machine without an accelerator, or in the cluster with a name
that can be part of a host name, with an image and with an accelerator that its variant can use. -/
inductive Placed (name : String) (bundler : Option Bundler) (accelerator : Option Accelerator) :
    Option Variant → Prop where
  | machine (hnone : accelerator = none) : Placed name bundler accelerator none
  | cluster {v : Variant} {image : String} {a : Accelerator}
      (hlabel : Kube.Label.fault? name = none)
      (hbundler : bundler = some (.docker image)) (himage : image ≠ "")
      (haccelerator : accelerator = some a) (hcount : a.count ≠ 0) (hcheck : v.check a = .ok ()) :
      Placed name bundler accelerator (some v)

/-- What holds of every configuration that has been built. -/
structure Config.Valid (c : Config) : Prop where
  name : c.name ≠ ""
  tries : c.maxTries ≠ 0
  place : Placed c.name c.bundler c.accelerator c.variant

namespace Draft

variable {d : Draft} {settings : Settings.Source} {c : Config}

/-- An image with a name passes, and nothing else. -/
theorem checkBundler_eq_ok_iff {b : Option Bundler} :
    checkBundler b = .ok () ↔ ∃ image, b = some (.docker image) ∧ image ≠ "" := by
  rcases b with _ | image | uri
  · simp [checkBundler]
  · by_cases himage : image = "" <;> simp [checkBundler, himage]
  · simp [checkBundler]

theorem checkAccelerator_eq_ok_iff {v : Variant} {a? : Option Accelerator} :
    checkAccelerator v a? = .ok () ↔ ∃ a, a? = some a ∧ a.count ≠ 0 ∧ v.check a = .ok () := by
  cases a? with
  | none => simp [checkAccelerator]
  | some a =>
    by_cases hcount : a.count = 0
    · simp [checkAccelerator, hcount]
    · simp [checkAccelerator, hcount, Except.mapError_eq_ok]

/-- A job fits the place where it runs. -/
theorem checkPlace_eq_ok_iff :
    d.checkPlace = .ok () ↔ Placed d.name d.bundler d.accelerator d.variant := by
  unfold checkPlace
  cases hv : d.variant with
  | none =>
    constructor
    · intro h
      refine .machine ?_
      cases ha : d.accelerator with
      | none => rfl
      | some a => simp [ha] at h
    · rintro ⟨hnone⟩
      simp [hnone]
  | some v =>
    constructor
    · intro h
      cases hlabel : Kube.Label.fault? d.name with
      | some f => simp [hlabel, Except.bind_eq_ok] at h
      | none =>
        simp only [hlabel, Except.bind_eq_ok] at h
        obtain ⟨u, hbundler, haccelerator⟩ := h
        obtain ⟨image, hbundler, himage⟩ := checkBundler_eq_ok_iff.mp hbundler
        obtain ⟨a, haccelerator, hcount, hcheck⟩ := checkAccelerator_eq_ok_iff.mp haccelerator
        exact .cluster hlabel hbundler himage haccelerator hcount hcheck
    · intro h
      cases h with
      | cluster hlabel hbundler himage haccelerator hcount hcheck =>
        simp only [hlabel, Except.bind_eq_ok]
        exact ⟨(), checkBundler_eq_ok_iff.mpr ⟨_, hbundler, himage⟩,
          checkAccelerator_eq_ok_iff.mpr ⟨_, haccelerator, hcount, hcheck⟩⟩

/-- A draft that passes is filled in from the settings. -/
theorem check_eq_ok_iff : d.check settings = .ok c ↔
    d.name ≠ "" ∧ d.maxTries ≠ 0
      ∧ ∃ project zone, d.project.or (settings .project) = some project
        ∧ d.zone.or (settings .zone) = some zone ∧ d.checkPlace = .ok ()
        ∧ c = d.fill settings project zone := by
  unfold check
  by_cases hname : d.name = ""
  · simp [hname, Except.bind_eq_ok, Except.throw_ne_ok]
  by_cases htries : d.maxTries = 0
  · simp [hname, htries, Except.bind_eq_ok, Except.throw_ne_ok]
  cases hproject : d.project.or (settings .project) with
  | none => simp [hname, htries, Except.throw_ne_ok]
  | some project =>
    cases hzone : d.zone.or (settings .zone) with
    | none => simp [hname, htries, Except.throw_ne_ok]
    | some zone =>
      cases hplace : d.checkPlace with
      | error f => simp [hname, htries, Functor.map, Except.map]
      | ok u => simp [hname, htries, Functor.map, Except.map, eq_comm]

theorem build_eq_ok_iff : d.build settings = .ok c ↔ d.check settings = .ok c :=
  Except.mapError_eq_ok

/-- What is built is the draft with its gaps filled. -/
theorem exists_fill_of_build (h : d.build settings = .ok c) :
    ∃ project zone, c = d.fill settings project zone := by
  obtain ⟨-, -, project, zone, -, -, -, hfill⟩ := check_eq_ok_iff.mp (build_eq_ok_iff.mp h)
  exact ⟨project, zone, hfill⟩

/-- The checks of a draft are those of the configuration that it becomes. -/
theorem valid_of_build (h : d.build settings = .ok c) : c.Valid := by
  obtain ⟨hname, htries, project, zone, -, -, hplace, rfl⟩ :=
    check_eq_ok_iff.mp (build_eq_ok_iff.mp h)
  exact ⟨hname, htries, checkPlace_eq_ok_iff.mp hplace⟩

end Draft

end JobLauncher.Job
