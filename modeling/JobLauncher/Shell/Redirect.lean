import JobLauncher.Shell.Opening
import JobLauncher.Shell.Words

/-!
# Redirections

Where the streams of a command come from and go.
-/

namespace JobLauncher.Shell

/-- Says why a file cannot be opened. -/
def refuseFile (writing : Bool) (path : Bytes) (e : FileFault) : Act Unit := do
  match (← get).dialect with
  | .full => complain (path ++ bytes ": " ++ bytes e.message)
  | .plain =>
    let reason := match e with
      | .missing => if writing then "Directory nonexistent" else "No such file"
      | e => e.message
    complain (bytes (if writing then "cannot create " else "cannot open ") ++ path ++ bytes ": "
      ++ bytes reason)

/-- Streams that a script names by a variable are numbered from here on. -/
def firstHeldStream : Nat := 10

/-- The first number from one on that no open stream has. -/
def unusedStream (m : Machine) : Nat → Nat → Nat
  | 0, n => n
  | fuel + 1, n => if (m.streams.lookup n).isSome then unusedStream m fuel (n + 1) else n

/-- The streams that a kind of redirection is about if none is named. -/
def Redirection.Kind.usualStream : Redirection.Kind → Nat
  | .read | .readWrite | .text | .document | .joinInput => 0
  | _ => 1

/-- The text of the target of a redirection; nothing if it comes to several, which is said. -/
def redirectionTarget? (go : Perform) (r : Redirection) : Act (Option Bytes) := do
  match ← fieldsOf go r.target with
  | [t] => return some t
  | _ =>
    complain (r.target.source ++ bytes ": ambiguous redirect")
    return none

/-- Opens a file for writing and connects streams to it; false if that is not possible, which is
said. -/
def connectOutput (w : Machine.Writing) (protects : Bool) (streams : List Nat) (path : Bytes) :
    Act Bool := do
  let m ← get
  let isFile : Bool := match m.files.entry? m.directory path with
    | some { node := .file _, .. } => true
    | _ => false
  if protects ∧ m.has "noclobber" ∧ isFile then
    complain (path ++ bytes ": cannot overwrite existing file")
    return false
  else
    match m.openOutput w path with
    | .error e =>
      refuseFile true path e
      return false
    | .ok (opened, files) =>
      let m := { m with files }
      match opened with
      | .shared n => set (streams.foldl (fun m s => m.connect s n) m)
      | .fresh c =>
        let (n, m) := m.openChannel c
        set (streams.foldl (fun m s => m.connect s n) m)
      return true

/-- Makes a stream the same as another one, or closes it. -/
def joinStreams (stream : Nat) (target : Bytes) : Act Bool := do
  let m ← get
  if target = ['-'] then
    set (m.disconnect stream)
    return true
  else
    let moves : Bool := target.getLast? = some '-'
    let digits := if moves then target.dropLast else target
    match natural? digits with
    | none =>
      complain (target ++ bytes ": ambiguous redirect")
      return false
    | some n =>
      match m.streams.lookup n with
      | none =>
        complain (digits ++ bytes ": Bad file descriptor")
        return false
      | some c =>
        let m := m.connect stream c
        set (if moves ∧ n ≠ stream then m.disconnect n else m)
        return true

/-- The stream that a redirection is about. -/
def streamOf (r : Redirection) (closes : Bool) : Act (Option Nat) := do
  let m ← get
  match r.stream with
  | .usual => return some r.kind.usualStream
  | .number n => return some n
  | .holder name =>
    if closes then return (m.text? name).bind natural?
    else
      let n := unusedStream m 1000 firstHeldStream
      set (m.setText name (decimal n))
      return some n

/-- Carries a redirection out; false if that is not possible, which is said. -/
def redirect (go : Perform) (r : Redirection) : Act Bool := do
  let feed (stream : Nat) (text : Bytes) : Act Bool := do
    modify fun m => m.connectOpened stream (.fresh (.source text))
    return true
  match r.kind with
  | .text =>
    let text ← textOfWord go r.target
    feed ((← streamOf r false).getD 0) (text ++ ['\n'])
  | .document =>
    let bits ← partsBits go { splits := false } maxNesting r.target.parts
    feed ((← streamOf r false).getD 0) (bits.flatMap Bit.chars)
  | .joinInput | .joinOutput =>
    match ← redirectionTarget? go r with
    | none => return false
    | some t =>
      let isStream : Bool := t = ['-'] ∨ (natural? t).isSome
        ∨ (t.getLast? = some '-' ∧ (natural? t.dropLast).isSome)
      match r.kind, r.stream with
      | .joinOutput, .usual =>
        if isStream then joinStreams 1 t else connectOutput {} true [1, 2] t
      | _, _ =>
        match ← streamOf r (t = ['-']) with
        | some n => joinStreams n t
        | none => return false
  | kind =>
    match ← redirectionTarget? go r with
    | none => return false
    | some t =>
      let stream := (← streamOf r false).getD kind.usualStream
      match kind with
      | .read =>
        let m ← get
        match m.openInput t with
        | .ok opened =>
          set (m.connectOpened stream opened)
          return true
        | .error e =>
          refuseFile false t e
          return false
      | .readWrite => connectOutput { keeps := true, reads := true } false [stream] t
      | .append => connectOutput { appends := true } false [stream] t
      | .overwrite => connectOutput {} false [stream] t
      | .writeAll => connectOutput {} true [1, 2] t
      | .appendAll => connectOutput { appends := true } false [1, 2] t
      | _ => connectOutput {} true [stream] t

/-- Carries redirections out one after another, until one is not possible. -/
def redirectAll (go : Perform) : List Redirection → Act Bool
  | [] => return true
  | r :: rest => do
    if ← redirect go r then redirectAll go rest else return false

/-- Does something, after which the streams are what they were. -/
def keepingStreams (a : Act α) : Act α := do
  let streams := (← get).streams
  let r ← a.outcome
  modify fun m => { m with streams }
  Act.resume r

/-- Streams after something that was done with redirections: what these had changed is what it was
before, and all else is kept. -/
def restored (before opened after : List (Nat × Nat)) : List (Nat × Nat) :=
  before.filter (fun s => opened.lookup s.1 ≠ some s.2)
    ++ after.filter fun s => before.lookup s.1 = opened.lookup s.1

/-- The streams that redirections open for good, because variables hold their numbers. -/
def heldStreams (m : Machine) (rs : List Redirection) : List (Nat × Nat) :=
  rs.filterMap fun r =>
    match r.stream with
    | .holder name => do
      let n ← (m.text? name).bind natural?
      return (n, ← m.streams.lookup n)
    | _ => none

/-- Does something with streams redirected; something else if that is not possible. -/
def withRedirections (go : Perform) (rs : List Redirection) (a : Act Unit)
    (otherwise : Act Unit := pure ()) : Act Unit := do
  if rs = [] then a
  else
    let before := (← get).streams
    let ok ← redirectAll go rs
    let m ← get
    let kept := heldStreams m rs ++ before
    let r ← (if ok then a else setStatus (if m.dialect = .full then 1 else 2)).outcome
    modify fun after => { after with streams := restored kept m.streams after.streams }
    Act.resume r
    if !ok then otherwise

/-- Closes the streams that only words needed. -/
def forgetWordStreams (before : List (Nat × Nat)) : Act Unit := modify fun m =>
  { m with streams := m.streams.filter fun s =>
      !isForWords s.1 || before.any (·.1 = s.1) }

end JobLauncher.Shell
