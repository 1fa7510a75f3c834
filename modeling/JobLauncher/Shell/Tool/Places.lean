import JobLauncher.Shell.Mode
import JobLauncher.Shell.Tool.Basic

/-!
# Places of files

Tools that take paths to pieces, and that make, copy, move and remove files.
-/

namespace JobLauncher.Shell.Tool.Places

/-! ## Paths -/

/-- A name without an ending, unless it is all of the name. -/
def withoutEnding (ending name : Bytes) : Bytes :=
  if ending ≠ [] ∧ ending.length < name.length ∧ ending.isSuffixOf name then
    name.take (name.length - ending.length)
  else name

/-- The last names of paths. -/
def basename : Program := fun _ args =>
  let options : Options :=
    { letters := "az", valued := "s", anywhere := false
      long := [("multiple", 'a'), ("suffix", 's'), ("zero", 'z')] }
  withGiven "basename" options 1 args fun g => do
    let finish := [if g.has 'z' then Char.ofNat 0 else '\n']
    let several := g.has 'a' || g.has 's'
    match g.operands with
    | [] => misuse 1 "basename" (bytes "missing operand")
    | path :: rest =>
      if several then
        setStatus 0
        for p in path :: rest do
          put (withoutEnding ((g.value? 's').getD []) (Files.baseName p) ++ finish)
      else
        match rest with
        | _ :: extra :: _ => misuse 1 "basename" (bytes "extra operand " ++ quoted extra)
        | rest =>
          setStatus 0
          output "basename" (withoutEnding (rest.headD []) (Files.baseName path) ++ finish)

/-- Paths without their last names. -/
def dirname : Program := fun _ args =>
  withGiven "dirname" { letters := "z", long := [("zero", 'z')] } 1 args fun g => do
    if g.operands = [] then misuse 1 "dirname" (bytes "missing operand")
    else
      setStatus 0
      output "dirname" (g.operands.flatMap fun p =>
        Files.directoryName p ++ [if g.has 'z' then Char.ofNat 0 else '\n'])

/-- The place that a path means; with `strict` something has to be there, and without `lenient` all
but the last name has to be there. -/
def resolved (m : Machine) (strict lenient : Bool) (path : Bytes) : Except FileFault Path := do
  match m.files.locate true m.directory path with
  | .ok p =>
    if strict ∧ (m.files.at? p).isNone then throw .missing
    return p
  | .error e => if lenient then return Files.normal m.directory path else throw e

/-- Paths without links and points. -/
def realpath : Program := fun _ args =>
  let options : Options :=
    { letters := "eLmPqsz"
      long := [("canonicalize-existing", 'e'), ("canonicalize-missing", 'm'), ("quiet", 'q'),
        ("no-symlinks", 's'), ("strip", 's'), ("zero", 'z')] }
  withGiven "realpath" options 1 args fun g => do
    if g.operands = [] then misuse 1 "realpath" (bytes "missing operand")
    else
      setStatus 0
      let m ← get
      for path in g.operands do
        let found := if g.has 's' then .ok (Files.normal m.directory path)
          else resolved m (g.has 'e') (g.has 'm') path
        match found with
        | .ok p => put (Files.text p ++ [if g.has 'z' then Char.ofNat 0 else '\n'])
        | .error e =>
          if g.has 'q' then setStatus 1
          else refuse 1 "realpath" (path ++ bytes ": " ++ bytes e.message)

/-- What links are to, or where paths lead. -/
def readlink : Program := fun _ args =>
  let options : Options :=
    { letters := "efmnqsvz"
      long := [("canonicalize", 'f'), ("canonicalize-existing", 'e'), ("canonicalize-missing", 'm'),
        ("no-newline", 'n')] }
  withGiven "readlink" options 1 args fun g => do
    if g.operands = [] then misuse 1 "readlink" (bytes "missing operand")
    else
      setStatus 0
      let m ← get
      for path in g.operands do
        let found : Option Bytes :=
          if g.has 'f' || g.has 'e' || g.has 'm' then
            (resolved m (g.has 'e') (g.has 'm') path).toOption.map Files.text
          else
            match m.files.find false m.directory path with
            | .ok (_, { node := .link t, .. }) => some t
            | _ => none
        match found with
        | some t => put (t ++ if g.has 'n' then [] else ['\n'])
        | none => setStatus 1

/-! ## Making and removing -/

/-- Changes the files. -/
def changeFiles (f : Files → Files) : Act Unit := modify fun m =>
  { m with files := f m.files, clock := m.clock + 1 }

/-- Whether a directory is at a place. -/
def isDirectoryAt (fs : Files) (p : Path) : Bool :=
  match fs.at? p with
  | some { node := .directory, .. } => true
  | _ => false

/-- Where something new can be: a place in a directory that is there. -/
def newPlace (m : Machine) (path : Bytes) : Except FileFault Path := do
  let stripped := (path.reverse.dropWhile (· = '/')).reverse
  let p ← m.files.locate false m.directory (if stripped = [] then path else stripped)
  if isDirectoryAt m.files p.dropLast then return p
  else if (m.files.at? p.dropLast).isSome then throw .noDirectory
  else throw .missing

/-- Makes directories. -/
def mkdir : Program := fun _ args =>
  let options : Options :=
    { letters := "pvZ", valued := "m", long := [("parents", 'p'), ("verbose", 'v'), ("mode", 'm')] }
  withGiven "mkdir" options 1 args fun g => do
    if g.operands = [] then misuse 1 "mkdir" (bytes "missing operand")
    else
      let m ← get
      let mode := match g.value? 'm' with
        | none => some (0o777 - (0o777 &&& m.umask))
        | some t => (Mode.ofDigits? t).or (Mode.change true 0o777 m.umask t).toOption
      match mode with
      | none => refuse 1 "mkdir" (bytes "invalid mode " ++ quoted ((g.value? 'm').getD []))
      | some mode =>
        setStatus 0
        for path in g.operands do
          if g.has 'p' then makeAll (g.has 'v') mode path
          else make (g.has 'v') mode path
where
  refuseMaking (path : Bytes) (e : FileFault) : Act Unit :=
    refuse 1 "mkdir" (bytes "cannot create directory " ++ quoted path ++ bytes ": " ++ bytes e.message)
  made (verbose : Bool) (mode : Nat) (path : Bytes) (p : Path) : Act Unit := do
    changeFiles fun fs => fs.put p { node := .directory, mode }
    if verbose then put (bytes "mkdir: created directory " ++ quoted path ++ ['\n'])
  make (verbose : Bool) (mode : Nat) (path : Bytes) : Act Unit := do
    let m ← get
    match newPlace m path with
    | .error e => refuseMaking path e
    | .ok p => if (m.files.at? p).isSome then refuseMaking path .exists else made verbose mode path p
  /-- Makes a directory with all those on the way to it. -/
  makeAll (verbose : Bool) (mode : Nat) (path : Bytes) : Act Unit := do
    let names := Files.names path
    let start : Bytes := if Files.isAbsolute path then ['/'] else []
    for n in List.range names.length do
      let part := start ++ List.intercalate ['/'] (names.take (n + 1))
      let m ← get
      match m.files.locate true m.directory part with
      | .error e => if (m.files.at? []).isSome ∧ e ≠ .noDirectory then refuseMaking part e
      | .ok p =>
        match m.files.at? p with
        | none => made verbose mode part p
        | some _ =>
          if !isDirectoryAt m.files p then
            refuseMaking part (if n + 1 = names.length then .exists else .noDirectory)
            return

/-- Removes directories in which nothing is. -/
def rmdir : Program := fun _ args =>
  let options : Options :=
    { letters := "pv!"
      long := [("parents", 'p'), ("verbose", 'v'), ("ignore-fail-on-non-empty", '!')] }
  withGiven "rmdir" options 1 args fun g => do
    if g.operands = [] then misuse 1 "rmdir" (bytes "missing operand")
    else
      setStatus 0
      for path in g.operands do
        let names := Files.names path
        let start : Bytes := if Files.isAbsolute path then ['/'] else []
        let parents := (List.range (names.length - 1)).reverse.map fun n =>
          start ++ List.intercalate ['/'] (names.take (n + 1))
        for part in path :: if g.has 'p' then parents else [] do
          let m ← get
          if g.has 'v' then put (bytes "rmdir: removing directory, " ++ quoted part ++ ['\n'])
          let fault : Option FileFault := match m.files.find false m.directory part with
            | .error e => some e
            | .ok (p, { node := .directory, .. }) =>
              if m.files.children p ≠ [] then some .notEmpty else none
            | .ok _ => some .noDirectory
          match fault with
          | some e =>
            if !(g.has '!' && e = .notEmpty) then
              refuse 1 "rmdir" (bytes "failed to remove " ++ quoted part ++ bytes ": " ++ bytes e.message)
          | none => changeFiles fun fs => fs.remove ((fs.locate false m.directory part).toOption.getD [])

/-- Removes all that is at or below a place. -/
def removeBelow (fs : Files) (p : Path) : Files :=
  { entries := fs.entries.filter fun e => !p.isPrefixOf e.1 }

/-- Removes files. -/
def rm : Program := fun _ args =>
  let options : Options :=
    { letters := "dfiIrRv"
      long := [("dir", 'd'), ("force", 'f'), ("recursive", 'r'), ("verbose", 'v')] }
  withGiven "rm" options 1 args fun g => do
    let forces := g.has 'f'
    if g.operands = [] then
      if forces then setStatus 0 else misuse 1 "rm" (bytes "missing operand")
    else
      setStatus 0
      let deep := g.has 'r' || g.has 'R'
      for path in g.operands do
        let m ← get
        let refuseIt (e : FileFault) : Act Unit :=
          refuse 1 "rm" (bytes "cannot remove " ++ quoted path ++ bytes ": " ++ bytes e.message)
        let base := Files.baseName path
        if deep ∧ (base = ['.'] ∨ base = ['.', '.']) then
          refuse 1 "rm" (bytes "refusing to remove '.' or '..' directory: skipping " ++ quoted path)
        else
          match m.files.find false m.directory path with
          | .error e => if !(forces && (e = .missing || e = .noDirectory)) then refuseIt e
          | .ok (p, { node := .directory, .. }) =>
            if deep ∧ p = [] then
              say "rm" (bytes "it is dangerous to operate recursively on '/'")
              refuse 1 "rm" (bytes "use --no-preserve-root to override this failsafe")
            else if deep then
              let found := ((m.files.below p).map (·.1)).mergeSort fun a b =>
                b.length ≤ a.length
              changeFiles (removeBelow · p)
              if g.has 'v' then
                for q in found do
                  let shown := path ++ (q.drop p.length).flatMap ('/' :: ·)
                  let what := if isDirectoryAt m.files q then "removed directory " else "removed "
                  put (bytes what ++ quoted shown ++ ['\n'])
            else if g.has 'd' then
              if m.files.children p = [] then
                changeFiles (·.remove p)
                if g.has 'v' then put (bytes "removed directory " ++ quoted path ++ ['\n'])
              else refuseIt .notEmpty
            else refuseIt .isDirectory
          | .ok (p, _) =>
            changeFiles (·.remove p)
            if g.has 'v' then put (bytes "removed " ++ quoted path ++ ['\n'])

/-- Changes when files were changed last, and makes those that are not there. -/
def touch : Program := fun _ args =>
  let options : Options :=
    { letters := "acfhm", valued := "drt"
      long := [("no-create", 'c'), ("date", 'd'), ("reference", 'r')] }
  withGiven "touch" options 1 args fun g => do
    if g.operands = [] then misuse 1 "touch" (bytes "missing file operand")
    else
      setStatus 0
      for path in g.operands do
        let m ← get
        let refuseIt (e : FileFault) : Act Unit :=
          refuse 1 "touch" (bytes "cannot touch " ++ quoted path ++ bytes ": " ++ bytes e.message)
        match m.files.locate true m.directory path with
        | .error e => if !(g.has 'c' && e = .missing) then refuseIt e
        | .ok p =>
          match m.files.at? p with
          | some e => changeFiles fun fs => fs.put p { e with changed := m.clock }
          | none =>
            if !g.has 'c' then
              match newPlace m path with
              | .error e => refuseIt e
              | .ok _ => changeFiles fun fs => fs.write m.clock m.umask p []

/-! ## Copying and moving -/

/-- Where something goes: into a directory under its own name, or to a path of its own. -/
def destination (m : Machine) (target source : Bytes) (into : Bool) : Bytes :=
  if into ∧ m.files.isDirectory m.directory target then
    (if target.getLast? = some '/' then target else target ++ ['/']) ++ Files.baseName source
  else target

/-- The sources and the target that operands name; nothing if they do not go together, which is
said. -/
def sourcesAndTarget? (name : String) (g : Given) : Act (Option (List Bytes × Bytes)) := do
  let m ← get
  match g.value? 't' with
  | some t =>
    if g.operands = [] then
      misuse 1 name (bytes "missing file operand")
      return none
    else if m.files.isDirectory m.directory t then return some (g.operands, t)
    else
      refuse 1 name (bytes "target directory " ++ quoted t ++ bytes ": No such file or directory")
      return none
  | none =>
    match g.operands with
    | [] =>
      misuse 1 name (bytes "missing file operand")
      return none
    | [a] =>
      misuse 1 name (bytes "missing destination file operand after " ++ quoted a)
      return none
    | operands =>
      let target := operands.getLast?.getD []
      if 2 < operands.length ∧ !m.files.isDirectory m.directory target then
        let e := match m.files.find true m.directory target with
          | .error e => e
          | .ok _ => .noDirectory
        refuse 1 name (bytes "target " ++ quoted target ++ bytes ": " ++ bytes e.message)
        return none
      else return some (operands.dropLast, target)

/-- The entries at and below a place, at and below another one. -/
def movedBelow (fs : Files) (p q : Path) : List (Path × Entry) :=
  (fs.below p).map fun e => (q ++ e.1.drop p.length, e.2)

/-- Copies files. -/
def cp : Program := fun _ args =>
  let options : Options :=
    { letters := "aAbdfHiLlnpPRrsTuvx", valued := "tS"
      long := [("archive", 'a'), ("force", 'f'), ("no-clobber", 'n'), ("recursive", 'r'),
        ("target-directory", 't'), ("verbose", 'v'), ("update", 'u')] }
  withGiven "cp" options 1 args fun g => do
    match ← sourcesAndTarget? "cp" g with
    | none => return
    | some (sources, target) =>
      setStatus 0
      let deep := g.has 'r' || g.has 'R' || g.has 'a'
      for source in sources do copy g deep source target
where
  copy (g : Given) (deep : Bool) (source target : Bytes) : Act Unit := do
    let m ← get
    let path := destination m target source (!g.has 'T')
    let follow := !(g.has 'P' || g.has 'd' || (deep && !g.has 'L'))
    match m.files.find follow m.directory source with
    | .error e => refuse 1 "cp" (bytes "cannot stat " ++ quoted source ++ bytes ": " ++ bytes e.message)
    | .ok (p, entry) =>
      let isDirectory := entry.node = .directory
      if isDirectory ∧ !deep then
        refuse 1 "cp" (bytes "-r not specified; omitting directory " ++ quoted source)
      else
        let found := m.files.locate true m.directory path
        let there := found.toOption.bind m.files.at?
        let here : Option Path := match found with
          | .ok q => if (m.files.at? q).isSome then some q else (newPlace m path).toOption
          | .error _ => none
        match here with
        | none =>
          let e : FileFault := match newPlace m path with
            | .error e => e
            | .ok _ => .missing
          refuse 1 "cp" (bytes (if isDirectory then "cannot create directory "
              else "cannot create regular file ") ++ quoted path ++ bytes ": " ++ bytes e.message)
        | some q =>
          if q = p then
            refuse 1 "cp" (quoted source ++ bytes " and " ++ quoted path ++ bytes " are the same file")
          else if isDirectory ∧ p.isPrefixOf q then
            refuse 1 "cp" (bytes "cannot copy a directory, " ++ quoted source ++ bytes ", into itself, "
              ++ quoted path)
          else if there.isSome ∧ g.has 'n' then return
          else if isDirectory ∧ there.any fun e => e.node ≠ .directory then
            refuse 1 "cp" (bytes "cannot overwrite non-directory " ++ quoted path
              ++ bytes " with directory " ++ quoted source)
          else if !isDirectory ∧ there.any fun e => e.node = .directory then
            refuse 1 "cp" (bytes "cannot overwrite directory " ++ quoted path ++ bytes " with non-directory")
          else
            if isDirectory then
              changeFiles fun fs => (movedBelow fs p q).foldl (fun fs e => fs.put e.1 e.2) fs
            else
              let node ← match entry.node with
                | .file content => pure (Node.file content)
                | .device _ => pure (Node.file ((m.textAt source).toOption.getD []))
                | node => pure node
              changeFiles fun fs =>
                match there with
                | some { node := .device _, .. } => fs
                | some e => fs.put q { e with node, changed := m.clock }
                | none => fs.put q
                    { node, mode := entry.mode - (entry.mode &&& m.umask), changed := m.clock }
            if g.has 'v' then put (quoted source ++ bytes " -> " ++ quoted path ++ ['\n'])

/-- Moves files. -/
def mv : Program := fun _ args =>
  let options : Options :=
    { letters := "bfinTuv", valued := "tS"
      long := [("force", 'f'), ("no-clobber", 'n'), ("target-directory", 't'), ("verbose", 'v')] }
  withGiven "mv" options 1 args fun g => do
    match ← sourcesAndTarget? "mv" g with
    | none => return
    | some (sources, target) =>
      setStatus 0
      for source in sources do move g source target
where
  move (g : Given) (source target : Bytes) : Act Unit := do
    let m ← get
    let path := destination m target source (!g.has 'T')
    let refuseMove (e : FileFault) : Act Unit :=
      refuse 1 "mv" (bytes "cannot move " ++ quoted source ++ bytes " to " ++ quoted path ++ bytes ": "
        ++ bytes e.message)
    match m.files.find false m.directory source with
    | .error e => refuse 1 "mv" (bytes "cannot stat " ++ quoted source ++ bytes ": " ++ bytes e.message)
    | .ok (p, entry) =>
      let isDirectory := entry.node = .directory
      if path.getLast? = some '/' ∧ !isDirectory then refuseMove .noDirectory
      else
        match newPlace m path with
        | .error e => refuseMove e
        | .ok q =>
          let there := m.files.at? q
          if q = p then
            refuse 1 "mv" (quoted source ++ bytes " and " ++ quoted path ++ bytes " are the same file")
          else if there.isSome ∧ g.has 'n' then return
          else if isDirectory ∧ p.isPrefixOf q then
            refuse 1 "mv" (bytes "cannot move " ++ quoted source ++ bytes " to a subdirectory of itself, "
              ++ quoted path)
          else if isDirectory ∧ there.any fun e => e.node ≠ .directory then
            refuse 1 "mv" (bytes "cannot overwrite non-directory " ++ quoted path
              ++ bytes " with directory " ++ quoted source)
          else if isDirectory ∧ m.files.children q ≠ [] then refuseMove .notEmpty
          else if !isDirectory ∧ there.any fun e => e.node = .directory then
            refuse 1 "mv" (bytes "cannot overwrite directory " ++ quoted path ++ bytes " with non-directory")
          else
            changeFiles fun fs =>
              (movedBelow fs p q).foldl (fun fs e => fs.put e.1 e.2) (removeBelow fs p)
            if g.has 'v' then put (bytes "renamed " ++ quoted source ++ bytes " -> " ++ quoted path ++ ['\n'])

/-- Makes links; a file under a second name is a copy of it. -/
def ln : Program := fun _ args =>
  let options : Options :=
    { letters := "bdfFiLnPrsTv", valued := "tS"
      long := [("symbolic", 's'), ("force", 'f'), ("no-dereference", 'n'), ("verbose", 'v'),
        ("target-directory", 't')] }
  withGiven "ln" options 1 args fun g => do
    let m ← get
    let soft := g.has 's'
    match g.operands with
    | [] => misuse 1 "ln" (bytes "missing file operand")
    | operands =>
      let target := if operands.length = 1 then ['.'] else operands.getLast?.getD []
      let sources := if operands.length = 1 then operands else operands.dropLast
      if 2 < operands.length ∧ !m.files.isDirectory m.directory target then
        refuse 1 "ln" (bytes "target " ++ quoted target ++ bytes ": No such file or directory")
      else
        setStatus 0
        for source in sources do
          let m ← get
          let path := if operands.length = 1 then Files.baseName source
            else destination m target source (!(g.has 'n' || g.has 'T'))
          link g soft source path
where
  link (g : Given) (soft : Bool) (source path : Bytes) : Act Unit := do
    let m ← get
    let original := m.files.find false m.directory source
    match soft, original with
    | false, .error e =>
      refuse 1 "ln" (bytes "failed to access " ++ quoted source ++ bytes ": " ++ bytes e.message)
    | false, .ok (_, { node := .directory, .. }) =>
      refuse 1 "ln" (source ++ bytes ": hard link not allowed for directory")
    | soft, original =>
      let refuseLink (e : FileFault) : Act Unit :=
        refuse 1 "ln" (bytes (if soft then "failed to create symbolic link "
            else "failed to create hard link ") ++ quoted path
          ++ (if soft then [] else bytes " => " ++ quoted source) ++ bytes ": " ++ bytes e.message)
      match newPlace m path with
      | .error e => refuseLink e
      | .ok q =>
        if (m.files.at? q).isSome ∧ !g.has 'f' then refuseLink .exists
        else
          let entry : Entry := match soft, original with
            | false, .ok (_, e) => e
            | _, _ => { node := .link source, mode := 0o777, changed := m.clock }
          changeFiles fun fs => fs.put q entry
          if g.has 'v' then
            put (quoted path ++ bytes (if soft then " -> " else " => ") ++ quoted source ++ ['\n'])

/-! ## What files are -/

/-- The letter of the kind of an entry. -/
def kindLetter (e : Entry) : Char := match e.node with
  | .directory => 'd'
  | .link _ => 'l'
  | .device _ => 'c'
  | _ => '-'

def sizeOf (e : Entry) : Nat := match e.node with
  | .file text => text.length
  | .directory => 4096
  | .link t => t.length
  | _ => 0

/-- Changes who may read, write and run files. -/
def chmod : Program := fun _ args =>
  let options : Options :=
    { letters := "cfvR", long := [("changes", 'c'), ("verbose", 'v'), ("recursive", 'R')] }
  -- a mode that takes something away is no option
  let isMode (a : Bytes) : Bool := match a with
    | '-' :: c :: cs => (c :: cs).all fun c => "rwxXst".toList.contains c
    | _ => false
  let (modes, args) := (args.filter isMode, args.filter fun a => !isMode a)
  withGiven "chmod" options 1 args fun g => do
    let m ← get
    match modes.take 1 ++ g.operands with
    | [] => misuse 1 "chmod" (bytes "missing operand")
    | [t] => misuse 1 "chmod" (bytes "missing operand after " ++ quoted t)
    | t :: paths =>
      let change (e : Entry) : Option Nat :=
        if t.head?.any Char.isDigit then (Mode.ofDigits? t).bind fun n => if n ≤ 0o7777 then some n else none
        else (Mode.change (e.node = .directory) e.mode m.umask t).toOption
      if (change { node := .file [], mode := 0 }).isNone then
        misuse 1 "chmod" (bytes "invalid mode: " ++ quoted t)
      else
        setStatus 0
        for path in paths do
          let m ← get
          match m.files.find true m.directory path with
          | .error e =>
            refuse 1 "chmod" (bytes "cannot access " ++ quoted path ++ bytes ": " ++ bytes e.message)
          | .ok (p, _) =>
            let all := if g.has 'R' then m.files.below p
              else (m.files.at? p).toList.map fun e => (p, e)
            for (q, e) in all do
              let mode := (change e).getD e.mode
              changeFiles fun fs => fs.put q { e with mode }
              if g.has 'v' || (g.has 'c' && mode ≠ e.mode) then
                let shown (mode : Nat) : Bytes :=
                  padLeft '0' 4 (Nat.toDigits 8 mode) ++ bytes " (" ++ Mode.text mode ++ [')']
                put (bytes "mode of " ++ quoted path ++ (if mode = e.mode then bytes " retained as "
                  else bytes " changed from " ++ shown e.mode ++ bytes " to ") ++ shown mode ++ ['\n'])

/-- Shows what is known of files. -/
def stat : Program := fun _ args =>
  let options : Options :=
    { letters := "fLt", valued := "c@", long := [("format", 'c'), ("printf", '@'), ("dereference", 'L')] }
  withGiven "stat" options 1 args fun g => do
    if g.operands = [] then misuse 1 "stat" (bytes "missing operand")
    else
      let m ← get
      setStatus 0
      for path in g.operands do
        match m.files.find (g.has 'L') m.directory path with
        | .error e =>
          refuse 1 "stat" (bytes "cannot statx " ++ quoted path ++ bytes ": " ++ bytes e.message)
        | .ok (_, e) =>
          match g.value? 'c', g.value? '@' with
          | some f, _ => put (shown path e (f.length + 1) f ++ ['\n'])
          | none, some f =>
            let t := shown path e (f.length + 1) f
            put (unescapeBytes .format t.length t).1
          | none, none =>
            put (bytes "  File: " ++ path ++ bytes "\n  Size: " ++ decimal (sizeOf e) ++ ['\n'])
where
  shown (path : Bytes) (e : Entry) : Nat → Bytes → Bytes
    | 0, _ => []
    | fuel + 1, '%' :: c :: rest => directive path e c ++ shown path e fuel rest
    | fuel + 1, c :: rest => c :: shown path e fuel rest
    | _, [] => []
  directive (path : Bytes) (e : Entry) (c : Char) : Bytes :=
    match c with
    | 'n' => path
    | 's' => decimal (sizeOf e)
    | 'a' => Nat.toDigits 8 e.mode
    | 'A' => kindLetter e :: Mode.text e.mode
    | 'F' => bytes (match e.node with
        | .directory => "directory"
        | .link _ => "symbolic link"
        | .device _ => "character special file"
        | .file [] => "regular empty file"
        | _ => "regular file")
    | 'U' | 'G' => bytes "root"
    | 'u' | 'g' => ['0']
    | 'h' => ['1']
    | 'N' => match e.node with
      | .link t => quoted path ++ bytes " -> " ++ quoted t
      | _ => quoted path
    | '%' => ['%']
    | 'Y' | 'X' | 'Z' => decimal e.changed
    | _ => ['?']

/-- The letters of names that are made up. -/
def nameLetters : List Char :=
  "abcdefghijklmnopqrstuvwxyzABCDEFGHIJKLMNOPQRSTUVWXYZ0123456789".toList

/-- Letters for a name, by a number. -/
def madeUp : Nat → Nat → Bytes
  | 0, _ => []
  | n + 1, seed =>
    (nameLetters[seed % nameLetters.length]?).getD 'a' :: madeUp n (seed * 16807 % 2147483647)

/-- Makes a file or a directory with a name that nothing has. -/
def mktemp : Program := fun _ args =>
  let options : Options :=
    { letters := "dqtu", valued := "p!"
      optional := "p"
      long := [("directory", 'd'), ("dry-run", 'u'), ("quiet", 'q'), ("suffix", '!'), ("tmpdir", 'p')] }
  withGiven "mktemp" options 1 args fun g => do
    let m ← get
    match g.operands with
    | _ :: _ :: _ => misuse 1 "mktemp" (bytes "too many templates")
    | operands =>
      let folder := ((g.value? 'p').or (m.textNamed? "TMPDIR")).getD (bytes "/tmp")
      let template := operands.headD (bytes "tmp.XXXXXXXXXX") ++ (g.value? '!').getD []
      let inFolder := operands = [] || g.has 't' || g.has 'p'
      let after := template.reverse.takeWhile (· ≠ 'X')
      let marks := (template.reverse.drop after.length).takeWhile (· = 'X')
      if marks.length < 3 then
        refuse 1 "mktemp" (bytes "too few X's in template " ++ quoted (operands.headD []))
      else
        let start := template.take (template.length - after.length - marks.length)
        let name := start ++ madeUp marks.length (m.clock * 48271 + 12345) ++ after.reverse
        let full (t : Bytes) : Bytes := if inFolder then folder ++ ['/'] ++ t else t
        let path := full name
        let isDirectory := g.has 'd'
        match newPlace m path with
        | .error e =>
          refuse 1 "mktemp" (bytes (if isDirectory then "failed to create directory via template "
              else "failed to create file via template ") ++ quoted (full template) ++ bytes ": "
            ++ bytes e.message)
        | .ok p =>
          setStatus 0
          if !g.has 'u' then
            changeFiles fun fs => fs.put p
              (if isDirectory then { node := .directory, mode := 0o700 }
                else { node := .file [], mode := 0o600, changed := m.clock })
          else changeFiles id
          put (path ++ ['\n'])

/-- Cuts files off or makes them longer. -/
def truncate : Program := fun _ args =>
  withGiven "truncate" { letters := "co", valued := "sr", long := [("size", 's'), ("no-create", 'c')] }
    1 args fun g => do
    let m ← get
    match g.value? 's', g.operands with
    | none, _ => misuse 1 "truncate" (bytes "you must specify either '--size' or '--reference'")
    | some _, [] => misuse 1 "truncate" (bytes "missing file operand")
    | some t, paths =>
      setStatus 0
      let sign := t.head?.filter fun c => "+-<>".toList.contains c
      match natural? (if sign.isSome then t.drop 1 else t) with
      | none => refuse 1 "truncate" (bytes "Invalid number: " ++ quoted t)
      | some n =>
        for path in paths do
          match m.openOutput { keeps := true } path with
          | .error e =>
            refuse 1 "truncate" (bytes "cannot open " ++ quoted path ++ bytes " for writing: "
              ++ bytes e.message)
          | .ok _ =>
            let old := (m.textAt path).toOption.getD []
            let size := match sign with
              | some '+' => old.length + n
              | some '-' => old.length - n
              | some '<' => min old.length n
              | some '>' => max old.length n
              | _ => n
            let _ ← writeFile path (padRight (Char.ofNat 0) size (old.take size)) false

end JobLauncher.Shell.Tool.Places
