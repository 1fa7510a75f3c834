import JobLauncher.Cli.Action
import JobLauncher.Proofs.Except
import JobLauncher.Proofs.Last
import JobLauncher.Proofs.Shell.Container

/-!
# Volumes of a container

A volume on the command line is a path of the host, a colon and a path of the container. The flag
may be given as often as one likes. But the volumes are kept by their host paths, and a dictionary
has one entry for each of them. So a volume is forgotten if another one with the same host path is
given after it.

> `volumes_mounted`: the volumes that are mounted are the last ones for their host paths, each as it
> was given, and they are all that were given exactly if no host path was given twice.
-/

namespace JobLauncher.Cli

open Shell

/-! ## Reading volumes -/

/-- A volume as it is written. -/
def joined (v : String × String) : String := v.1 ++ ":" ++ v.2

/-- What stands before the first colon. -/
def hostPath (volume : String) : String := String.ofList (volume.toList.takeWhile (· ≠ ':'))

theorem toList_joined (v : String × String) :
    (joined v).toList = v.1.toList ++ ':' :: v.2.toList := by
  simp [joined]

/-- The path of the host is what stands before the first colon. -/
theorem hostPath_joined {v : String × String} (h : ':' ∉ v.1.toList) :
    hostPath (joined v) = v.1 := by
  have hbefore : ∀ c ∈ v.1.toList, decide (c ≠ ':') = true := by
    intro c hc
    refine decide_eq_true ?_
    rintro rfl
    exact h hc
  rw [hostPath, toList_joined, List.takeWhile_append_of_pos hbefore]
  simp

/-- A volume is read from two paths that are not empty, the first one without a colon. -/
theorem parseVolume_eq_ok_iff {volume : String} {v : String × String} : parseVolume volume = .ok v ↔
    volume = joined v ∧ (':' ∉ v.1.toList ∧ v.1 ≠ "" ∧ v.2 ≠ "") := by
  -- the first colon separates, so the path of the host has none and the other one may have some
  have hcut : Text.cut? ':' volume = some v ↔ volume = joined v ∧ ':' ∉ v.1.toList := by
    rw [Text.cut?_eq_some_iff, ← toList_joined, String.toList_inj]
  rw [← and_assoc, ← hcut]
  unfold parseVolume
  cases Text.cut? ':' volume with
  | none => simp
  | some p =>
    obtain ⟨source, target⟩ := p
    show (if source = "" ∨ target = "" then .error ⟨"SRC:DST", volume⟩ else .ok (source, target) :
      Except Malformed (String × String)) = .ok v ↔ _
    split
    next hempty =>
      constructor
      · intro h
        cases h
      · rintro ⟨h, hsource, htarget⟩
        cases h
        exact (hempty.elim hsource htarget).elim
    next hempty =>
      obtain ⟨hsource, htarget⟩ := not_or.mp hempty
      constructor
      · intro h
        cases h
        exact ⟨rfl, hsource, htarget⟩
      · rintro ⟨h, -, -⟩
        cases h
        rfl

/-! ## Keeping volumes by their host paths -/

/-- No later volume has the host path. -/
def IsLast (volumes : List String) (volume : String) : Prop :=
  ∃ before after, volumes = before ++ volume :: after ∧ ∀ u ∈ after, hostPath u ≠ hostPath volume

theorem isLast_iff {volumes : List String} {volume : String} :
    IsLast volumes volume ↔ IsLastFor hostPath volume volumes := Iff.rfl

/-- The volumes of a dictionary, as they are written. -/
def mounts (volumes : Dict String) : List String := volumes.toList.map joined

section Pairs

variable {pairs : List (String × String)} (hpairs : ∀ v ∈ pairs, ':' ∉ v.1.toList)
include hpairs

/-- Of volumes with one path of the host the last one is mounted. -/
theorem mem_mounts_iff {volume : String} :
    volume ∈ mounts (Dict.ofList pairs) ↔ IsLast (pairs.map joined) volume := by
  have hpaths : ∀ u ∈ pairs, ∀ v ∈ pairs,
      (hostPath (joined u) = hostPath (joined v) ↔ u.1 = v.1) := by
    intro u hu v hv
    rw [hostPath_joined (hpairs u hu), hostPath_joined (hpairs v hv)]
  have hlast (v : String × String) :
      v ∈ (Dict.ofList pairs).toList ↔ IsLastFor (fun v => hostPath (joined v)) v pairs := by
    rw [IsLastFor.congr_key hpaths]
    exact Dict.mem_toList_iff.trans Dict.get?_ofList_eq_some_iff
  simp only [isLast_iff, IsLastFor.map_iff, mounts, List.mem_map, hlast, and_comm]

/-- So each path of the host is mounted once, in their order. -/
theorem map_hostPath_mounts :
    (mounts (Dict.ofList pairs)).map hostPath = (Dict.ofList pairs).keys := by
  rw [mounts, List.map_map, Dict.keys]
  refine List.map_congr_left fun v hv => ?_
  obtain ⟨before, after, hsplit, -⟩ :=
    Dict.get?_ofList_eq_some_iff.mp (Dict.mem_toList_iff.mp hv)
  exact hostPath_joined (hpairs v (hsplit ▸ List.mem_append_right before List.mem_cons_self))

/-- All volumes are kept exactly if no host path is given twice. -/
theorem mounts_perm_iff : (mounts (Dict.ofList pairs)).Perm (pairs.map joined) ↔
    ((pairs.map joined).map hostPath).Nodup := by
  have hnodup : ((mounts (Dict.ofList pairs)).map hostPath).Nodup := by
    rw [map_hostPath_mounts hpairs]
    exact Dict.nodup_keys _
  constructor
  · intro h
    exact (h.map hostPath).nodup_iff.mp hnodup
  · intro h
    refine (List.perm_ext_iff_of_nodup (hnodup.of_map hostPath) (h.of_map hostPath)).mpr ?_
    intro volume
    rw [mem_mounts_iff hpairs]
    exact ⟨IsLastFor.mem, IsLastFor.of_nodup h⟩

end Pairs

/-! ## The line for the container -/

/-- Of the volumes that are given, the last one for each host path is mounted, as it was given, in
the order of the bytes of the host paths, and that is all of them exactly if no host path is given
twice. Whatever flags are given, what is read from the line begins with the words that mount these.
If the flags are words, it is these words, the flags, and the command in the container. -/
theorem volumes_mounted {volumes : List String} {args : ContainerArgs}
    (hread : volumes.mapM parseVolume = .ok args.volumes) :
    ∃ mounted : List String, (∀ volume, volume ∈ mounted ↔ IsLast volumes volume)
      ∧ (mounted.map fun volume => Text.utf8 (hostPath volume)).Pairwise (· < ·)
      ∧ (mounted.Perm volumes ↔ (volumes.map hostPath).Nodup)
      ∧ ∃ lead : List String, lead = ["docker", "run", "--rm", "--privileged", "-u", "root",
            "--network=host"]
          ++ (match args.session with
            | none => []
            | some s => ["-d", "--name=" ++ s])
          ++ args.env.flatMap (fun name => ["-e", name])
          ++ mounted.flatMap (fun volume => ["-v", volume])
        ∧ (∀ far argv, unescape? (Docker.runCommand args.command args.options).toList = some far →
          words? far = some argv → lead <+: argv)
        ∧ ((∀ flag ∈ args.flags, flag.toList ≠ [] ∧ flag.toList.all isSafe = true) →
          ∃ far : String,
            unescape? (Docker.runCommand args.command args.options).toList = some far.toList
            ∧ words? far.toList = some (lead ++ args.flags
              ++ [args.image, "/bin/bash", "-c", "pushd /root && " ++ args.command])) := by
  -- the volumes that were read are known to be two paths each, written with a colon
  obtain ⟨rfl, hpairs⟩ := (Except.mapM_eq_ok_iff parseVolume_eq_ok_iff).mp hread
  have hsources : ∀ v ∈ args.volumes, ':' ∉ v.1.toList := fun v hv => (hpairs v hv).1
  refine ⟨mounts (Dict.ofList args.volumes), fun volume => mem_mounts_iff hsources, ?sorted,
    mounts_perm_iff hsources, Docker.leadWords args.options, ?lead,
    fun far argv hfar hargv => ?front,
    fun hflags => ⟨Docker.farLine args.command args.options, ?near, ?far⟩⟩
  case sorted =>
    have hkeys : (Dict.ofList args.volumes).keys.Pairwise (· < ·) :=
      List.pairwise_map.mpr (Dict.ofList args.volumes).sorted
    rw [← map_hostPath_mounts hsources, List.pairwise_map] at hkeys
    exact List.pairwise_map.mpr (hkeys.imp Text.lt_iff_utf8_lt.mp)
  case lead =>
    rw [mounts, List.flatMap_map]
    rfl
  case front => exact Docker.isPrefix_of_runCommand hfar hargv
  case near => rw [Docker.runCommand_eq_escape hflags, toList_escape, unescape?_escapeChars]
  case far =>
    rw [Docker.words?_farLine hflags, Docker.map_snd_runGroups]
    rfl

/-- Two volumes in a container, the second one for reading only. -/
def mounting (volumes : List (String × String)) : ContainerArgs where
  command := "echo hi"
  image := "img"
  volumes

/-- Volumes with different paths are all mounted. -/
theorem volumes_mounted_apart :
    ["/data:/y:ro", "/code:/x"].mapM parseVolume
      = .ok (mounting [("/data", "/y:ro"), ("/code", "/x")]).volumes ∧
    ∃ far : String,
      unescape? (Docker.runCommand "echo hi"
        (mounting [("/data", "/y:ro"), ("/code", "/x")]).options).toList = some far.toList
      ∧ ∃ mounted : List String, mounted.Perm ["/data:/y:ro", "/code:/x"]
        ∧ words? far.toList = some (["docker", "run", "--rm", "--privileged", "-u", "root",
            "--network=host"] ++ mounted.flatMap (fun volume => ["-v", volume])
          ++ ["img", "/bin/bash", "-c", "pushd /root && echo hi"]) := by
  have hread : ["/data:/y:ro", "/code:/x"].mapM parseVolume
      = .ok (mounting [("/data", "/y:ro"), ("/code", "/x")]).volumes := by decide +kernel
  obtain ⟨mounted, -, -, hperm, lead, hlead, -, hwords⟩ := volumes_mounted hread
  obtain ⟨far, hfar, hwords⟩ := hwords (List.forall_mem_nil _)
  subst hlead
  refine ⟨hread, far, hfar, mounted, hperm.mpr (by decide +kernel), ?_⟩
  rw [hwords]
  simp [mounting]

/-- Of two volumes for one host path, the first is not mounted. -/
theorem volume_forgotten :
    ["/a:/x", "/a:/y"].mapM parseVolume = .ok (mounting [("/a", "/x"), ("/a", "/y")]).volumes ∧
    ∃ far : String,
      unescape? (Docker.runCommand "echo hi" (mounting [("/a", "/x"), ("/a", "/y")]).options).toList
        = some far.toList
      ∧ words? far.toList = some ["docker", "run", "--rm", "--privileged", "-u", "root",
          "--network=host", "-v", "/a:/y", "img", "/bin/bash", "-c", "pushd /root && echo hi"] := by
  refine ⟨by decide +kernel,
    Docker.farLine "echo hi" (mounting [("/a", "/x"), ("/a", "/y")]).options, ?_, ?_⟩
  · rw [Docker.runCommand_eq_escape (List.forall_mem_nil _), toList_escape, unescape?_escapeChars]
  · rw [Docker.words?_farLine (List.forall_mem_nil _), Docker.map_snd_runGroups]
    rfl

end JobLauncher.Cli
