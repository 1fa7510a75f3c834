import JobLauncher.Proofs.Job.Compile

/-!
# Deriving a configuration from itself

A configuration can be made a draft again and built under other settings, which may say something of
everything that a draft can leave open. Building has settled all of that but the environment: the
project, the zone and the namespace are part of the configuration itself, and a job in the cluster
has an account for its pods (`Config.Settled`). A job on a machine may have none, and building does
not look for one there.

> `rederivation_stable`: what is built from the draft of a configuration is that configuration, with
> the environment of the settings if it had none. To do so again changes nothing.
-/

namespace JobLauncher.Job

variable {c : Config} {settings : Settings.Source}

/-! ## What building settles -/

/-- A configuration leaves nothing to the settings but, perhaps, its environment. -/
structure Config.Settled (c : Config) : Prop where
  valid : c.Valid
  account : c.variant ≠ none → c.serviceAccount ≠ none

theorem Draft.podAccount_ne_none {d : Draft} (h : d.variant ≠ none) :
    d.podAccount settings ≠ none := by
  unfold podAccount
  cases hv : d.variant with
  | none => exact absurd hv h
  | some v => exact Option.some_ne_none _

/-- What has been built is settled. -/
theorem Draft.settled_of_build {d : Draft} (h : d.build settings = .ok c) : c.Settled := by
  have hvalid : c.Valid := valid_of_build h
  obtain ⟨project, zone, rfl⟩ := exists_fill_of_build h
  exact ⟨hvalid, podAccount_ne_none⟩

theorem Config.Reachable.settled (h : c.Reachable) : c.Settled := by
  obtain ⟨d, settings, -, hbuild⟩ := h
  exact Draft.settled_of_build hbuild

/-! ## Building again -/

/-- The configuration in the environment of the settings, unless it has one. -/
def Config.inEnv (c : Config) (settings : Settings.Source) : Config :=
  { c with envId := c.envId.or (settings .envId) }

namespace Config

/-- A configuration stays as it is unless the settings have an environment and it has none. -/
theorem inEnv_eq_self_iff : c.inEnv settings = c ↔ c.envId ≠ none ∨ settings .envId = none := by
  have hfields : c.inEnv settings = c ↔ c.envId.or (settings .envId) = c.envId := by
    constructor
    · exact congrArg Config.envId
    · intro h
      unfold inEnv
      rw [h]
  rw [hfields]
  cases c.envId with
  | none => simp
  | some env => simp

/-- Once it has its environment it keeps it. -/
theorem inEnv_inEnv : (c.inEnv settings).inEnv settings = c.inEnv settings := by
  have hor (env : Option String) :
      (env.or (settings .envId)).or (settings .envId) = env.or (settings .envId) := by
    rw [Option.or_assoc, Option.or_self]
  unfold inEnv
  rw [hor]

namespace Settled

theorem inEnv (h : c.Settled) : (c.inEnv settings).Settled :=
  ⟨⟨h.valid.name, h.valid.tries, h.valid.place⟩, h.account⟩

/-- The account of the pods is not looked up again, and that of a machine still is not. -/
theorem podAccount_toDraft (h : c.Settled) :
    c.toDraft.podAccount settings = c.serviceAccount := by
  unfold Draft.podAccount toDraft
  dsimp only
  cases hv : c.variant with
  | none => rfl
  | some v =>
    have hvariant : c.variant ≠ none := by rw [hv]; exact Option.some_ne_none v
    obtain ⟨account, haccount⟩ := Option.ne_none_iff_exists'.mp (h.account hvariant)
    rw [haccount]
    rfl

/-- The draft of a configuration is filled in to the same configuration, in its environment. -/
theorem fill_toDraft (h : c.Settled) :
    c.toDraft.fill settings c.project c.zone = c.inEnv settings := by
  have haccount := @podAccount_toDraft c settings h
  unfold Draft.fill
  rw [haccount]
  rfl

/-- What has been checked is not rejected when it is checked again. -/
theorem build_toDraft (h : c.Settled) : c.toDraft.build settings = .ok (c.inEnv settings) := by
  have hplace : c.toDraft.checkPlace = .ok () := Draft.checkPlace_eq_ok_iff.mpr h.valid.place
  rw [Draft.build_eq_ok_iff, Draft.check_eq_ok_iff]
  exact ⟨h.valid.name, h.valid.tries, c.project, c.zone, rfl, rfl, hplace, h.fill_toDraft.symm⟩

end Settled

end Config

/-- What is built from the draft of a configuration differs from it in the environment at most,
which comes from the settings if the configuration has none. Under the same settings, it stays as it
is from then on. -/
theorem rederivation_stable (h : c.Reachable) (settings : Settings.Source) :
    c.toDraft.build settings = .ok { c with envId := c.envId.or (settings .envId) }
    ∧ (c.toDraft.build settings = .ok c ↔ c.envId ≠ none ∨ settings .envId = none)
    ∧ ∀ c', c.toDraft.build settings = .ok c' → c'.toDraft.build settings = .ok c' := by
  have hbuild : c.toDraft.build settings = .ok (c.inEnv settings) := h.settled.build_toDraft
  refine ⟨hbuild, ?same, fun c' hc' => ?again⟩
  case same => rw [hbuild, Except.ok.injEq, Config.inEnv_eq_self_iff]
  case again =>
    rw [hbuild, Except.ok.injEq] at hc'
    subst hc'
    rw [h.settled.inEnv.build_toDraft, Config.inEnv_inEnv]

/-- A job on a machine, without an account and without an environment. -/
def machineDraft : Draft := ({ name := "notebook" } : Draft).applyAll [
  .command "jupyter lab", .project "mine", .zone "there", .envVar "PORT" "8888"]

/-- Settings name everything. The job takes its environment from them, keeps its project, and still
has no account. -/
theorem rederivation_stable_machine : ∃ c c' : Config,
    c.Reachable ∧ c.envId = none ∧ c.toDraft.build (fun _ => some "here") = .ok c' ∧ c' ≠ c
      ∧ c'.envId = some "here" ∧ c'.project = "mine" ∧ c'.serviceAccount = none
      ∧ c'.toDraft.build (fun _ => some "here") = .ok c' := by
  have hdraft : machineDraft.Reachable := (Draft.Reachable.named "notebook").applyAll _
  have hbuild : machineDraft.build (fun _ => none)
      = .ok (machineDraft.fill (fun _ => none) "mine" "there") := rfl
  have hreachable : (machineDraft.fill (fun _ => none) "mine" "there").Reachable :=
    ⟨machineDraft, _, hdraft, hbuild⟩
  obtain ⟨hagain, hsame, hstays⟩ := rederivation_stable hreachable fun _ => some "here"
  refine ⟨_, _, hreachable, rfl, hagain, fun heq => ?_, rfl, rfl, rfl, hstays _ hagain⟩
  rw [heq] at hagain
  rcases hsame.mp hagain with henv | hsettings
  · exact henv rfl
  · exact Option.some_ne_none _ hsettings

end JobLauncher.Job
