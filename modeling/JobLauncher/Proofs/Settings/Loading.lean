import JobLauncher.Settings.Location

/-!
# What is found in settings files

One file counts, if any. Which one it is depends on the command line and the surroundings alone
(`Place`), and what is found there on what reading it gives (`Finds`): the sections of its text, an
error that names the file, or no sections at all where nobody asked for a file and none is there.

> `finds_iff`: this is what loading the settings gives, and nothing else, wherever they are and
> whatever is read.
-/

namespace JobLauncher.Settings

/-- Where settings are looked for, given the file that the command line names. An empty name in the
surroundings counts as none. -/
inductive Place (env : Environment) : Option String → Location → Prop where
  | said (path : String) : Place env (some path) (.explicit path)
  | named {path : String} (hfile : env.file = some path) (hne : path ≠ "") :
      Place env none (.explicit path)
  | home {dir : String} (hfile : ∀ path, env.file = some path → path = "")
      (hhome : env.home = some dir) : Place env none (.home (homeFile dir))
  | nowhere (hfile : ∀ path, env.file = some path → path = "") (hhome : env.home = none) :
      Place env none .nowhere

/-- The sections that a text has. A blank one is no mapping, but has none. -/
inductive HasSections (text : String) : Dict (Dict String) → Prop where
  | blank (hblank : Text.isBlankText text = true) : HasSections text Dict.empty
  | written {sections : Dict (Dict String)} (hblank : Text.isBlankText text = false)
      (hparse : parseSections text = .ok sections) : HasSections text sections

/-- What is found under a command line and surroundings, given what reading each path gives. -/
inductive Finds (env : Environment) (file : Option String) (read : String → Reading) :
    Except LoadError (Dict (Dict String)) → Prop where
  | text {place : Location} {path text : String} {sections : Dict (Dict String)}
      (hplace : Place env file place) (hpath : place.path? = some path)
      (hread : read path = .text text) (hsections : HasSections text sections) :
      Finds env file read (.ok sections)
  | malformed {place : Location} {path text : String} {fault : Yaml.Fault}
      (hplace : Place env file place) (hpath : place.path? = some path)
      (hread : read path = .text text) (hblank : Text.isBlankText text = false)
      (hparse : parseSections text = .error fault) :
      Finds env file read
        (.error (.unusable (.settings path ("invalid settings yaml: " ++ fault.message))))
  | unreadable {place : Location} {path reason : String} (hplace : Place env file place)
      (hpath : place.path? = some path) (hread : read path = .unreadable reason) :
      Finds env file read (.error (.unusable (.settings path ("failed to read: " ++ reason))))
  /-- A file that was named has to be there. -/
  | notFound {path reason : String} (hplace : Place env file (.explicit path))
      (hread : read path = .missing reason) : Finds env file read (.error (.notFound path))
  /-- The one in the home directory does not. -/
  | absent {path reason : String} (hplace : Place env file (.home path))
      (hread : read path = .missing reason) : Finds env file read (.ok Dict.empty)
  | nowhere (hplace : Place env file .nowhere) : Finds env file read (.ok Dict.empty)

variable {env : Environment} {file : Option String} {read : String → Reading} {place : Location}
  {path text : String} {sections : Dict (Dict String)}
  {loaded : Except LoadError (Dict (Dict String))}

/-! ## The place -/

/-- The place that is looked for is one by the rules. -/
theorem place_of (env : Environment) (file : Option String) :
    Place env file (Location.of env file) := by
  cases file with
  | some path => exact .said path
  | none =>
    unfold Location.of
    cases hnamed : env.file.filter (· ≠ "") with
    | some path =>
      obtain ⟨hfile, hne⟩ := Option.filter_eq_some_iff.mp hnamed
      exact .named hfile (of_decide_eq_true hne)
    | none =>
      have hfile : ∀ path, env.file = some path → path = "" := by
        simpa [Option.filter_eq_none_iff] using hnamed
      cases hhome : env.home with
      | some dir => exact .home hfile hhome
      | none => exact .nowhere hfile hhome

/-- The rules leave no choice. -/
theorem Place.eq_of (h : Place env file place) : place = Location.of env file := by
  have hunnamed (hfile : ∀ path, env.file = some path → path = "") :
      env.file.filter (· ≠ "") = none := by
    simpa [Option.filter_eq_none_iff] using hfile
  cases h with
  | said path => rfl
  | @named path hfile hne =>
    have hnamed : env.file.filter (· ≠ "") = some path :=
      Option.filter_eq_some_iff.mpr ⟨hfile, decide_eq_true hne⟩
    simp only [Location.of, hnamed]
  | home hfile hhome => simp only [Location.of, hunnamed hfile, hhome]
  | nowhere hfile hhome => simp only [Location.of, hunnamed hfile, hhome]

/-! ## What is there -/

/-- What is found in a text is what is read from it. -/
theorem finds_text (hplace : Place env file place) (hpath : place.path? = some path)
    (hread : read path = .text text) :
    Finds env file read
      (((File.parse path text).mapError LoadError.unusable).map File.sections) := by
  unfold File.parse
  by_cases hblank : Text.isBlankText text = true
  · rw [if_pos hblank]
    exact .text hplace hpath hread (.blank hblank)
  · rw [if_neg hblank]
    have hblank : Text.isBlankText text = false := Bool.eq_false_iff.mpr hblank
    cases hparse : parseSections text with
    | ok sections => exact .text hplace hpath hread (.written hblank hparse)
    | error fault => exact .malformed hplace hpath hread hblank hparse

/-- What reading the file gives, if there is one to read. -/
def Location.reading (place : Location) (read : String → Reading) : Reading :=
  match place.path? with
  | some path => read path
  | none => .missing ""

/-- What is loaded is found. -/
theorem finds_load (hplace : Place env file place) :
    Finds env file read ((place.load (place.reading read)).map File.sections) := by
  cases place with
  | explicit path =>
    show Finds env file read ((Location.load _ (read path)).map File.sections)
    cases hread : read path with
    | text s => exact finds_text hplace rfl hread
    | missing reason => exact .notFound hplace hread
    | unreadable reason => exact .unreadable hplace rfl hread
  | home path =>
    show Finds env file read ((Location.load _ (read path)).map File.sections)
    cases hread : read path with
    | text s => exact finds_text hplace rfl hread
    | missing reason => exact .absent hplace hread
    | unreadable reason => exact .unreadable hplace rfl hread
  | nowhere => exact .nowhere hplace

theorem reading_of_path? (hpath : place.path? = some path) : place.reading read = read path := by
  rw [Location.reading, hpath]

/-- Wherever it is, a file that is there counts by what reading it gives. -/
theorem load_of_path? (hpath : place.path? = some path) {r : Reading}
    (hthere : ∀ reason, r ≠ .missing reason) :
    place.load r = (File.ofReading path r).mapError .unusable := by
  cases place with
  | nowhere => cases hpath
  | _ =>
    cases hpath
    cases r with
    | missing reason => exact absurd rfl (hthere reason)
    | _ => rfl

/-- What is found is loaded, so there is one thing to find. -/
theorem Finds.eq_load (h : Finds env file read loaded) :
    loaded = ((Location.of env file).load ((Location.of env file).reading read)).map
      File.sections := by
  cases h with
  | text hplace hpath hread hsections =>
    rw [← hplace.eq_of, reading_of_path? hpath, hread,
      load_of_path? hpath fun _ => Reading.noConfusion, File.ofReading]
    cases hsections with
    | blank hblank =>
      rw [File.parse, if_pos hblank]
      rfl
    | written hblank hparse =>
      rw [File.parse, if_neg (Bool.eq_false_iff.mp hblank), hparse]
      rfl
  | malformed hplace hpath hread hblank hparse =>
    rw [← hplace.eq_of, reading_of_path? hpath, hread,
      load_of_path? hpath fun _ => Reading.noConfusion, File.ofReading, File.parse,
      if_neg (Bool.eq_false_iff.mp hblank), hparse]
    rfl
  | unreadable hplace hpath hread =>
    rw [← hplace.eq_of, reading_of_path? hpath, hread,
      load_of_path? hpath fun _ => Reading.noConfusion]
    rfl
  | notFound hplace hread | absent hplace hread =>
    rw [← hplace.eq_of, reading_of_path? rfl, hread]
    rfl
  | nowhere hplace =>
    rw [← hplace.eq_of]
    rfl

/-- Loading gives what is found, and nothing else is found. -/
theorem finds_iff : Finds env file read loaded
    ↔ loaded = ((Location.of env file).load ((Location.of env file).reading read)).map
        File.sections := by
  constructor
  · exact Finds.eq_load
  · rintro rfl
    exact finds_load (place_of env file)

end JobLauncher.Settings
