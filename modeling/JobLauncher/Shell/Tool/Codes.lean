import JobLauncher.Shell.Digest
import JobLauncher.Shell.Tool.Basic

/-!
# Codes and digests

Tools that write bytes in few letters and read them again, and tools that write the digests of files
and check them.
-/

namespace JobLauncher.Shell.Tool.Codes

/-! ## Letters for bytes -/

/-- A code: its letters, how many bits each stands for, and how many letters stand for a whole number
of bytes. -/
structure Code where
  letters : Bytes
  bits : Nat
  group : Nat

def Code.base64 : Code :=
  ⟨bytes "ABCDEFGHIJKLMNOPQRSTUVWXYZabcdefghijklmnopqrstuvwxyz0123456789+/", 6, 4⟩

def Code.base32 : Code := ⟨bytes "ABCDEFGHIJKLMNOPQRSTUVWXYZ234567", 5, 8⟩

namespace Code

/-- The number of bytes that a group of letters stands for. -/
def groupBytes (c : Code) : Nat := c.group * c.bits / 8

/-- The letters for at most as many bytes as a group stands for, filled up. -/
def encodeGroup (c : Code) (bs : Bytes) : Bytes :=
  let n := Digest.valueOf (bs.map Char.toNat) * Nat.pow 256 (c.groupBytes - bs.length)
  let used := (8 * bs.length + c.bits - 1) / c.bits
  (List.range c.group).map fun i =>
    if i < used then
      c.letters.getD (n / Nat.pow 2 (c.bits * (c.group - 1 - i)) % Nat.pow 2 c.bits) '='
    else '='

def encode (c : Code) : Nat → Bytes → Bytes
  | 0, _ | _, [] => []
  | fuel + 1, bs =>
    c.encodeGroup (bs.take c.groupBytes) ++ encode c fuel (bs.drop c.groupBytes)

/-- The bytes that a group of letters stands for as far as it is one, and whether it is. A group is
cut short only where no more than the rest of a byte is missing. -/
def decodeGroup (c : Code) (letters : Bytes) : Bytes × Bool :=
  go c.group 0 0 [] letters
where
  go (left held count : Nat) (done : Bytes) : Bytes → Bytes × Bool
    | [] => (done.reverse, left = 0)
    | x :: rest =>
      if x = '=' then
        let begun := c.group - left
        (done.reverse, 0 < begun && count < c.bits && rest.all (· = '=') && rest.length + 1 = left)
      else
        match c.letters.findIdx? (· = x) with
        | none => (done.reverse, false)
        | some v =>
          let held := held * Nat.pow 2 c.bits + v
          let count := count + c.bits
          if 8 ≤ count then
            let kept := count - 8
            go (left - 1) (held % Nat.pow 2 kept) kept
              (Char.ofNat (held / Nat.pow 2 kept) :: done) rest
          else go (left - 1) held count done rest

/-- The bytes that letters stand for as far as they are groups, and whether they are. -/
def decode (c : Code) : Nat → Bytes → Bytes × Bool
  | 0, _ | _, [] => ([], true)
  | fuel + 1, ls =>
    let piece := ls.take c.group
    let piece := piece ++ List.replicate (c.group - piece.length) '='
    let (bs, good) := c.decodeGroup piece
    if good then
      let (rest, good) := decode c fuel (ls.drop c.group)
      (bs ++ rest, good)
    else (bs, false)

end Code

/-- A text in lines of a width, each with an end; without a width it is one line without an end. -/
def wrapped (width : Nat) : Nat → Bytes → Bytes
  | 0, _ | _, [] => []
  | fuel + 1, t =>
    if width = 0 then t else t.take width ++ '\n' :: wrapped width fuel (t.drop width)

/-- Writes bytes in letters, or reads them. -/
def coded (name : String) (c : Code) : Program := fun _ args =>
  let options : Options :=
    { letters := "di", valued := "w"
      long := [("decode", 'd'), ("ignore-garbage", 'i'), ("wrap", 'w')] }
  withGiven name options 1 args fun g => do
    let width := (g.value? 'w').map fun t => (t, natural? t)
    match width, g.operands with
    | some (t, none), _ => refuse 1 name (bytes "invalid wrap size: " ++ quoted t)
    | _, _ :: extra :: _ => misuse 1 name (bytes "extra operand " ++ quoted extra)
    | _, operands =>
      match ← contentOf (operands.headD ['-']) with
      | .error e =>
        if e matches .isDirectory then refuse 1 name (bytes "read error: " ++ bytes e.message)
        else refuse 1 name (operands.headD ['-'] ++ bytes ": " ++ bytes e.message)
      | .ok text =>
        setStatus 0
        if g.has 'd' then
          let ls := text.filter fun x =>
            x ≠ '\n' && (!g.has 'i' || x = '=' || c.letters.contains x)
          let (bs, good) := c.decode ls.length ls
          output name bs
          if !good then refuse 1 name (bytes "invalid input")
        else
          let ls := c.encode text.length text
          output name (wrapped ((width.bind (·.2)).getD 76) ls.length ls)

/-! ## Digests of files -/

/-- A name in which backslashes and ends of lines are written with backslashes, and whether there
were any. -/
def plainName (t : Bytes) : Bytes × Bool :=
  (t.flatMap fun c =>
    if c = '\\' then bytes "\\\\" else if c = '\n' then bytes "\\n"
    else if c = '\r' then bytes "\\r" else [c],
    t.any fun c => c = '\\' || c = '\n' || c = '\r')

/-- The name that is so written. -/
def realName : Bytes → Bytes
  | '\\' :: 'n' :: rest => '\n' :: realName rest
  | '\\' :: 'r' :: rest => '\r' :: realName rest
  | '\\' :: '\\' :: rest => '\\' :: realName rest
  | c :: rest => c :: realName rest
  | [] => []

/-- The name of a way to make digests, in capitals. -/
def tag (m : Digest.Method) : Bytes := (bytes m.name).map Char.toUpper

/-- The line that shows the digest of a file. -/
def digestLine (m : Digest.Method) (tagged isBinary zero : Bool) (path text : Bytes) : Bytes :=
  let (name, changed) := if zero then (path, false) else plainName path
  let line :=
    if tagged then tag m ++ bytes " (" ++ name ++ bytes ") = " ++ m.shown text
    else m.shown text ++ [' ', if isBinary then '*' else ' '] ++ name
  (if changed then ['\\'] else []) ++ line ++ [if zero then Char.ofNat 0 else '\n']

/-- A line that says what the digest of a file should be: the digest, and the path. -/
def expected? (m : Digest.Method) (line : Bytes) : Option (Bytes × Bytes) :=
  let (changed, line) := match line with
    | '\\' :: rest => (true, rest)
    | line => (false, line)
  let name (t : Bytes) : Bytes := if changed then realName t else t
  let opening := tag m ++ bytes " ("
  let isDigest (t : Bytes) : Bool := t.length = 2 * m.size && t.all isHexDigit
  if opening.isPrefixOf line then
    let rest := line.drop opening.length
    let digest := rest.drop (rest.length - 2 * m.size)
    let before := rest.take (rest.length - 2 * m.size)
    if isDigest digest && (bytes ") = ").isSuffixOf before then
      some (digest, name (before.take (before.length - 4)))
    else none
  else
    let digest := line.take (2 * m.size)
    match line.drop (2 * m.size) with
    | ' ' :: mark :: path =>
      if isDigest digest && path ≠ [] then
        some (digest, name (if mark = ' ' || mark = '*' then path else mark :: path))
      else none
    | _ => none

/-- The letters of options that have long names only. -/
def quiet : Char := '1'
def silent : Char := '2'
def tagged : Char := '3'
def untagged : Char := '4'
def strict : Char := '5'
def absentIgnored : Char := '6'

def digestOptions : Options :=
  { letters := String.ofList ("bctwz".toList ++ [quiet, silent, tagged, strict, absentIgnored])
    long := [("binary", 'b'), ("check", 'c'), ("text", 't'), ("warn", 'w'), ("zero", 'z'),
      ("quiet", quiet), ("status", silent), ("tag", tagged), ("strict", strict),
      ("ignore-missing", absentIgnored)] }

/-- What a list of digests comes to. -/
structure Tally where
  proper : Nat := 0
  malformed : Nat := 0
  different : Nat := 0
  unreadable : Nat := 0
  matched : Nat := 0

/-- Says how many of something there were, if there were any. -/
def sayCount (name : String) (n : Nat) (one many : String) : Act Unit := do
  if 0 < n then say name (bytes "WARNING: " ++ decimal n ++ bytes (if n = 1 then one else many))

/-- Checks the digests that a list gives. -/
def check (name : String) (m : Digest.Method) (g : Given) (path : Bytes) : Act Unit := do
  let shownPath := if path = ['-'] then bytes "'standard input'" else path
  let mute := g.has silent
  match ← contentOf path with
  | .error e => refuse 1 name (path ++ bytes ": " ++ bytes e.message)
  | .ok text =>
    let lines := bareLines text
    let mut t : Tally := {}
    for (line, i) in lines.zip (List.range lines.length) do
      if line = [] ∨ line.head? = some '#' then continue
      match expected? m line with
      | none =>
        t := { t with malformed := t.malformed + 1 }
        if g.has 'w' then
          say name (shownPath ++ bytes ": " ++ decimal (i + 1) ++ bytes ": improperly formatted "
            ++ tag m ++ bytes " checksum line")
      | some (digest, file) =>
        t := { t with proper := t.proper + 1 }
        let label := (if (plainName file).2 then ['\\'] else []) ++ (plainName file).1
        match ← contentOf file with
        | .ok content =>
          if m.shown content = digest.map Char.toLower then
            t := { t with matched := t.matched + 1 }
            if !mute && !g.has quiet then output name (label ++ bytes ": OK\n")
          else
            t := { t with different := t.different + 1 }
            if !mute then output name (label ++ bytes ": FAILED\n")
        | .error e =>
          if e matches .missing && g.has absentIgnored then continue
          say name (file ++ bytes ": " ++ bytes e.message)
          t := { t with unreadable := t.unreadable + 1 }
          if !mute then output name (label ++ bytes ": FAILED open or read\n")
    if t.proper = 0 then
      refuse 1 name (shownPath ++ bytes ": no properly formatted checksum lines found")
    else
      if !mute then
        sayCount name t.malformed " line is improperly formatted" " lines are improperly formatted"
        sayCount name t.unreadable " listed file could not be read" " listed files could not be read"
        sayCount name t.different " computed checksum did NOT match"
          " computed checksums did NOT match"
        if g.has absentIgnored && t.matched = 0 then
          say name (shownPath ++ bytes ": no file was verified")
      if 0 < t.different ∨ 0 < t.unreadable ∨ (g.has strict ∧ 0 < t.malformed)
          ∨ (g.has absentIgnored ∧ t.matched = 0) then
        setStatus 1

/-- Shows the digests of files, or checks them. -/
def digests (m : Digest.Method) : Program := fun _ args =>
  let name := m.name ++ "sum"
  withGiven name digestOptions 1 args fun g => do
    if g.has 'c' then
      setStatus 0
      for path in if g.operands = [] then [['-']] else g.operands do check name m g path
    else
      eachFile name g.operands 1 fun path text =>
        output name (digestLine m (g.has tagged) (g.has 'b') (g.has 'z') path text)

/-! ## Sums -/

/-- How many blocks of a size a text takes up. -/
def blockCount (size : Nat) (text : Bytes) : Nat := (text.length + size - 1) / size

/-- Shows what a text comes to by each of several files; the name of the input is not shown. -/
def shownSums (name : String) (paths : List Bytes) (shown : Bytes → Bytes) : Act Unit :=
  eachFile name paths 1 fun path text =>
    output name (shown text ++ (if paths = [] then [] else ' ' :: path) ++ ['\n'])

def turningSum (text : Bytes) : Bytes :=
  padLeft '0' 5 (decimal (Digest.turning text)) ++ [' '] ++ padLeft ' ' 5 (decimal (blockCount 1024 text))

def foldingSum (text : Bytes) : Bytes :=
  decimal (Digest.folding text) ++ [' '] ++ decimal (blockCount 512 text)

def cyclicSum (text : Bytes) : Bytes :=
  decimal (Digest.cyclic text).toNat ++ [' '] ++ decimal text.length

/-- Shows the sums of files. -/
def sum : Program := fun _ args =>
  withGiven "sum" { letters := "rs", long := [("sysv", 's')] } 1 args fun g =>
    let folds := g.last? "rs" = some 's'
    shownSums "sum" g.operands (if folds then foldingSum else turningSum)

/-- The ways of `cksum` that this library knows, and further ones. -/
def sumMethods : List String :=
  ["bsd", "sysv", "crc", "crc32b"] ++ Digest.Method.all.map Digest.Method.name ++ ["blake2b", "sm3"]

/-- Shows sums or digests of files. -/
def cksum : Program := fun _ args =>
  let options : Options :=
    { letters := String.ofList [tagged, untagged], valued := "a"
      long := [("algorithm", 'a'), ("untagged", untagged), ("tag", tagged)] }
  withGiven "cksum" options 1 args fun g =>
    match textOfBytes ((g.value? 'a').getD (bytes "crc")) with
    | "crc" => shownSums "cksum" g.operands cyclicSum
    | "bsd" => shownSums "cksum" g.operands turningSum
    | "sysv" => shownSums "cksum" g.operands foldingSum
    | method =>
      match Digest.Method.all.find? (·.name = method) with
      | some m =>
        eachFile "cksum" g.operands 1 fun path text =>
          output "cksum" (digestLine m (!g.has untagged) false false path text)
      | none => do
        say "cksum" (bytes "invalid argument " ++ quoted (bytes method) ++ bytes " for '--algorithm'")
        warn (bytes "Valid arguments are:\n")
        for known in sumMethods do warn (bytes "  - '" ++ bytes known ++ bytes "'\n")
        hint "cksum"
        setStatus 1

/-- The tools of this module by their names. -/
def all : List (String × Program) :=
  [("base32", coded "base32" .base32), ("base64", coded "base64" .base64), ("cksum", cksum),
    ("sum", sum)] ++ Digest.Method.all.map fun m => (m.name ++ "sum", digests m)

end JobLauncher.Shell.Tool.Codes
