import JobLauncher.Job.Pod
import JobLauncher.Proofs.Shell.Encoding
import JobLauncher.Proofs.Shell.Running

/-!
# The uploader copies to the directory of the job

The script of the uploader is the line of a plan (`ofText_uploaderScript`). The directory of the job
stands between apostrophes in it and stops being quoted where the name of the host begins, so a
shell finds one word there: the directory as it is, and the value of the variable after it
(`gives_target`). Slashes at the end of the directory are cut off before (`dropEndWhile_slashes`).

> `uploader_syncs`: whatever the directory is, a plain shell that knows the name of its host makes
> the directory of the host and copies it to the place of the same name under the directory of the
> job, for as long as the shell is left alone.
-/

namespace JobLauncher.Job.Pod

open Shell

/-! ## The script as a plan -/

/-- The variables that the script needs: the name of the host. -/
def hostNamed (host name : Bytes) : Option Bytes :=
  if name = bytes "HOSTNAME" then some host else none

/-- The directory of the host. -/
def hostDirectory (host : Bytes) : Bytes := bytes "/output/" ++ (host ++ ['/'])

/-- The directory of the host as the script writes it. -/
def source (host : Bytes) : Item := ⟨bytes "/output/$HOSTNAME/", hostDirectory host⟩

/-- The place that it is copied to. -/
def target (base : String) (host : Bytes) : Item where
  written := quoteChars (Bytes.ofText base) ++ bytes "/output/$HOSTNAME/"
  text := Bytes.ofText base ++ hostDirectory host

/-- What the script is to do. -/
def uploaderPlan (base : String) (host : Bytes) : Plan :=
  .seq (.run "mkdir" [.same "-p", source host])
    (.loop (.run "true" []) (.seq
      (.run "gsutil" [.same "-m", .same "rsync", .same "-r", source host, target base host])
      (.run "sleep" [.same "60"])))

/-- The script is the plan, written out. -/
theorem ofText_uploaderScript (dir : String) (host : Bytes) :
    Bytes.ofText (uploaderScript dir)
      = (uploaderPlan (Text.dropEndWhile (· == '/') dir) host).text := by
  have hinterval : toString syncInterval = "60" := by decide
  delta uploaderScript
  generalize Text.dropEndWhile (· == '/') dir = base
  simp only [hinterval, outputPath, ofText_append, ofText_quote, uploaderPlan, Plan.text, target,
    source, Item.same, List.flatMap_cons, List.flatMap_nil, List.append_assoc, List.cons_append,
    List.nil_append]
  simp (disch := decide) only [ofText_of_ascii]
  rfl

variable {host : Bytes}

theorem gives_same {w : String} (hne : bytes w ≠ []) (hsafe : (bytes w).all isSafe = true) :
    Gives (hostNamed host) (Item.same w).written (Item.same w).text :=
  (contributes_safe hne (List.all_eq_true.mp hsafe)).gives

/-- The directory of the host is found by its name. -/
theorem gives_source : Gives (hostNamed host) (source host).written (source host).text := by
  have hopening : Gives (hostNamed host) (bytes "/output/") (bytes "/output/") :=
    gives_same (w := "/output/") (by decide) (by decide)
  have hname : Gives (hostNamed host) ('$' :: bytes "HOSTNAME" ++ ['/']) (host ++ ['/']) :=
    gives_parameter (by decide) (if_pos rfl) (by decide) (by decide)
  exact hopening.append hname

theorem gives_target (base : String) :
    Gives (hostNamed host) (target base host).written (target base host).text :=
  (contributes_quoteChars (Bytes.ofText base)).gives.append gives_source

/-- So the plan is a sound one, whatever the directory and the host. -/
theorem isSound_uploaderPlan (base : String) (host : Bytes) :
    (uploaderPlan base host).IsSound (hostNamed host) := by
  have hmkdir : (Plan.run "mkdir" [.same "-p", source host]).IsSound (hostNamed host) := by
    refine ⟨by decide, ?_⟩
    simp only [List.forall_mem_cons]
    exact ⟨gives_same (by decide) (by decide), gives_source, List.forall_mem_nil _⟩
  have hsync : (Plan.run "gsutil" [.same "-m", .same "rsync", .same "-r", source host,
      target base host]).IsSound (hostNamed host) := by
    refine ⟨by decide, ?_⟩
    simp only [List.forall_mem_cons]
    exact ⟨gives_same (by decide) (by decide), gives_same (by decide) (by decide),
      gives_same (by decide) (by decide), gives_source, gives_target base, List.forall_mem_nil _⟩
  have hsleep : (Plan.run "sleep" [.same "60"]).IsSound (hostNamed host) := by
    refine ⟨by decide, ?_⟩
    simp only [List.forall_mem_cons]
    exact ⟨gives_same (by decide) (by decide), List.forall_mem_nil _⟩
  have htrue : (Plan.run "true" []).IsSound (hostNamed host) := ⟨by decide, List.forall_mem_nil _⟩
  exact ⟨trivial, hmkdir, htrue, trivial, hsync, hsleep⟩

/-! ## Slashes at the end -/

/-- So many slashes. -/
def slashes (n : Nat) : String := String.ofList (List.replicate n '/')

/-- A directory is what is left of it and the slashes that were at its end. -/
theorem exists_slashes (dir : String) :
    ∃ n, dir = Text.dropEndWhile (· == '/') dir ++ slashes n := by
  have hslashes : dir.toList.reverse.takeWhile (· == '/')
      = List.replicate (dir.toList.reverse.takeWhile (· == '/')).length '/' := by
    refine List.eq_replicate_of_mem fun c hc => ?_
    have hslash := List.mem_takeWhile_imp hc
    exact beq_iff_eq.mp hslash
  refine ⟨(dir.toList.reverse.takeWhile (· == '/')).length, String.toList_inj.mp ?_⟩
  rw [String.toList_append, Text.dropEndWhile, slashes, String.toList_ofList, String.toList_ofList,
    ← List.reverse_replicate, ← hslashes, ← List.reverse_append, List.takeWhile_append_dropWhile,
    List.reverse_reverse]

/-- No slash is left at the end. -/
theorem getLast?_dropEndWhile (dir : String) :
    (Text.dropEndWhile (· == '/') dir).toList.getLast? ≠ some '/' := by
  intro h
  rw [Text.dropEndWhile, String.toList_ofList, List.getLast?_reverse] at h
  have hhead := List.head?_dropWhile_not (· == '/') dir.toList.reverse
  rw [h] at hhead
  exact absurd hhead (by decide)

/-- Slashes at the end make no difference to what is left. -/
theorem dropEndWhile_slashes {base : String} (h : base.toList.getLast? ≠ some '/') (n : Nat) :
    Text.dropEndWhile (· == '/') (base ++ slashes n) = base := by
  have hbase : base.toList.reverse.dropWhile (· == '/') = base.toList.reverse := by
    cases hreverse : base.toList.reverse with
    | nil => rfl
    | cons c cs =>
      have hlast : base.toList.getLast? = some c := by
        rw [← List.head?_reverse, hreverse, List.head?_cons]
      have hc : (c == '/') = false := beq_false_of_ne fun hc => h (hc ▸ hlast)
      rw [List.dropWhile_cons, hc, if_neg Bool.false_ne_true]
  have hdrop : (List.replicate n '/' ++ base.toList.reverse).dropWhile (· == '/')
      = base.toList.reverse := by
    rw [List.dropWhile_append_of_pos fun c hc => ?_, hbase]
    rw [List.eq_of_mem_replicate hc]
    rfl
  rw [Text.dropEndWhile, slashes, String.toList_append, String.toList_ofList, List.reverse_append,
    List.reverse_replicate, hdrop, List.reverse_reverse, String.ofList_toList]

/-! ## What the shell does -/

/-- The words of the command that copies one place to another. -/
def syncWords (source target : Bytes) : List Bytes :=
  [bytes "gsutil", bytes "-m", bytes "rsync", bytes "-r", source, target]

/-- The words of the command that waits. -/
def pauseWords : List Bytes := [bytes "sleep", bytes "60"]

/-- A script makes a directory and then copies it to a target and waits, again and again: the loop
goes on for as long as the copying and the waiting come back, whether or not they succeed. -/
def IsSyncLoop (values : Bytes → Option Bytes) (source target : Bytes) (s : Script) : Prop :=
  ∃ mkdir condition sync pause : Simple,
    s = .seq (.simple mkdir)
      (.loop false (.simple condition) (.seq (.simple sync) (.simple pause)))
    ∧ RunsAs values mkdir [bytes "mkdir", bytes "-p", source]
    ∧ RunsAs values sync (syncWords source target)
    ∧ RunsAs values pause pauseWords
    ∧ ∀ P, IsStable values P →
      ∀ fuel, Keeps P (runCommand (perform fuel) (syncWords source target)) →
        Keeps P (runCommand (perform fuel) pauseWords) →
          IsEndless P (perform (fuel + 2) (.script (.simple condition)))
            (perform (fuel + 2) (.script (.seq (.simple sync) (.simple pause))))

/-- What is read of it is the loop that synchronises. -/
theorem isSyncLoop_of_plan {base : String} {host : Bytes} {s : Script}
    (hs : (uploaderPlan base host).Is (hostNamed host) s) :
    IsSyncLoop (hostNamed host) (hostDirectory host) (Bytes.ofText base ++ hostDirectory host)
      s := by
  obtain ⟨_, _, hmkdir, ⟨_, _, hcondition, ⟨_, _, hsync, hpause, rfl⟩, rfl⟩, rfl⟩ := hs
  obtain ⟨mkdir, rfl⟩ := exists_simple hmkdir
  obtain ⟨condition, rfl⟩ := exists_simple hcondition
  obtain ⟨sync, rfl⟩ := exists_simple hsync
  obtain ⟨pause, rfl⟩ := exists_simple hpause
  have hsource : (source host).text ≠ [] := List.append_ne_nil_of_left_ne_nil (by decide) _
  have htarget : (target base host).text ≠ [] := List.append_ne_nil_of_right_ne_nil _ hsource
  have hmkdir := runsAs_of_plan hmkdir (by decide) (by decide) (by
    simp only [List.forall_mem_cons]
    exact ⟨by decide, hsource, List.forall_mem_nil _⟩)
  have hsync := runsAs_of_plan hsync (by decide) (by decide) (by
    simp only [List.forall_mem_cons]
    exact ⟨by decide, by decide, by decide, hsource, htarget, List.forall_mem_nil _⟩)
  have hpause := runsAs_of_plan hpause (by decide) (by decide) (by
    simp only [List.forall_mem_cons]
    exact ⟨by decide, List.forall_mem_nil _⟩)
  refine ⟨mkdir, condition, sync, pause, rfl, hmkdir, hsync, hpause, ?_⟩
  intro P hP fuel hsyncs hpauses
  exact isEndless_true hP (fuel + 1) hcondition
    (keeps_seq hP (hsync.keeps hP hsyncs) (hpause.keeps hP hpauses))

/-- A plain shell that finds the name of its host in its environment is in order and knows it. -/
theorem isOrderly_host {host : Bytes} (hhost : host.all isSafe = true) {o : Machine}
    (ho : o.environment.lookup (bytes "HOSTNAME") = some host) (name : Bytes) (args : List Bytes) :
    IsOrderly (hostNamed host) (freshShell o .plain name args) := by
  have hknown {name v : Bytes} (hv : hostNamed host name = some v) :
      name = bytes "HOSTNAME" ∧ v = host := by
    rw [hostNamed] at hv
    split at hv
    next h => exact ⟨h, (Option.some.inj hv).symm⟩
    next => cases hv
  refine isOrderly_freshShell name args (fun hv => ?_) (fun hv => ?_) (fun hv => ?_)
  · rw [(hknown hv).1]
    decide
  · rw [(hknown hv).2]
    exact List.all_eq_true.mp hhost
  · rw [(hknown hv).1, (hknown hv).2]
    exact ho

/-- Whatever the output directory is, the uploader of a job copies the directory of the host to the
place of the same name under it, again and again, and does nothing else. -/
theorem uploader_syncs (dir : String) (host : Bytes) (hhost : host.all isSafe = true) :
    ∃ base n, dir = base ++ slashes n ∧ base.toList.getLast? ≠ some '/'
      ∧ (∀ (ctx : Context) k, uploader { ctx with outputDir := some (base ++ slashes k) }
          = uploader { ctx with outputDir := some dir })
      ∧ (∀ ctx : Context, ctx.outputDir = some dir → ∃ fields, uploader ctx = some (.obj fields)
          ∧ fields.lookup "command" = some (Json.strings ["/bin/sh", "-c", uploaderScript dir]))
      ∧ (∀ f first, ∃ s, Grammar.IsReadAs f first (Bytes.ofText (uploaderScript dir)) s
          ∧ IsSyncLoop (hostNamed host) (bytes "/output/" ++ host ++ ['/'])
              (Bytes.ofText base ++ bytes "/output/" ++ host ++ ['/']) s)
      ∧ ∀ o name args, o.environment.lookup (bytes "HOSTNAME") = some host →
          IsOrderly (hostNamed host) (freshShell o .plain name args) := by
  obtain ⟨n, hdir⟩ := exists_slashes dir
  have hlast := getLast?_dropEndWhile dir
  generalize hbase : Text.dropEndWhile (· == '/') dir = base at hdir hlast
  have hscript (k : Nat) : uploaderScript (base ++ slashes k) = uploaderScript dir := by
    delta uploaderScript
    rw [dropEndWhile_slashes hlast, hbase]
  refine ⟨base, n, hdir, hlast, fun ctx k => ?_, fun ctx hctx => ?_, fun f first => ?_,
    fun o name args ho => isOrderly_host hhost ho name args⟩
  · rw [uploader, uploader, Option.map_some, Option.map_some, hscript]
  · rw [uploader, hctx, Option.map_some]
    exact ⟨_, rfl, rfl⟩
  · rw [ofText_uploaderScript dir host, hbase]
    obtain ⟨s, hs, hread⟩ := Grammar.isReadAs_text (isSound_uploaderPlan base host) f first
    refine ⟨s, hread, ?_⟩
    simpa only [hostDirectory, List.append_assoc] using isSyncLoop_of_plan hs

/-- A directory that is written to be misread, with slashes at its end. -/
def hostileDirectory : String := "gs://it's $(id) \x60id\x60; \"\\#//"

/-- A directory full of marks of the shell is synchronised like any other one. -/
theorem uploader_syncs_hostile :
    (bytes "node-7").all isSafe = true ∧
    ∃ s, Grammar.IsReadAs {} 1 (Bytes.ofText (uploaderScript hostileDirectory)) s
      ∧ IsSyncLoop (hostNamed (bytes "node-7")) (bytes "/output/node-7/")
          (bytes "gs://it's $(id) \x60id\x60; \"\\#/output/node-7/") s := by
  have hhost : (bytes "node-7").all isSafe = true := by decide
  obtain ⟨base, n, hdir, hlast, -, -, hread, -⟩ :=
    uploader_syncs hostileDirectory (bytes "node-7") hhost
  obtain ⟨s, hread, hloop⟩ := hread {} 1
  have hbase : base = "gs://it's $(id) \x60id\x60; \"\\#" := by
    rw [← dropEndWhile_slashes hlast n, ← hdir]
    decide
  refine ⟨hhost, s, hread, ?_⟩
  rw [hbase, ofText_of_ascii (by decide)] at hloop
  exact hloop

end JobLauncher.Job.Pod
