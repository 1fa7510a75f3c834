import JobLauncher.Shell.Machine

/-!
# Opening files

What comes of opening a path for reading or for writing: a new channel, or one that is open already.
-/

namespace JobLauncher.Shell

/-- The stream that a path means, if it means one. -/
def streamOfPath? (path : Bytes) : Option Nat :=
  match textOfBytes path with
  | "/dev/stdin" => some 0
  | "/dev/stdout" => some 1
  | "/dev/stderr" => some 2
  | _ => if (bytes "/dev/fd/").isPrefixOf path then natural? (path.drop 8) else none

namespace Machine

/-- What a device is when it is opened. -/
def deviceChannel : Device → Channel
  | .null => .null
  | .zero | .random => .zero
  | .full => .full
  | .stream _ => .null

/-- What opening a path gives: a new channel, or one that is open already. -/
inductive Opened where
  | fresh (c : Channel)
  | shared (n : Nat)

/-- The channel of a stream that a path means. -/
def openStream (m : Machine) (n : Nat) : Except FileFault Opened :=
  match m.streams.lookup n with
  | some c => .ok (.shared c)
  | none => .error .missing

/-- Opens a path for reading. -/
def openInput (m : Machine) (path : Bytes) : Except FileFault Opened :=
  match streamOfPath? path with
  | some n => m.openStream n
  | none =>
    match m.files.find true m.directory path with
    | .error e => .error e
    | .ok (_, { node := .device (.stream n), .. }) => m.openStream n
    | .ok (_, { node := .device d, .. }) => .ok (.fresh (deviceChannel d))
    | .ok (p, _) => .ok (.fresh (.file p 0 false true false))

/-- What can be read at a path. -/
def textAt (m : Machine) (path : Bytes) : Except FileFault Bytes :=
  match m.openInput path with
  | .error e => .error e
  | .ok (.shared n) => m.rest n
  | .ok (.fresh c) => let (n, opened) := m.openChannel c; opened.rest n

/-- How a file is opened for writing. -/
structure Writing where
  appends : Bool := false
  /-- What is there is kept. -/
  keeps : Bool := false
  reads : Bool := false

/-- Opens a path for writing, with the files after it. -/
def openOutput (m : Machine) (w : Writing) (path : Bytes) : Except FileFault (Opened × Files) :=
  match streamOfPath? path with
  | some n => (m.openStream n).map fun o => (o, m.files)
  | none =>
    match m.files.locate true m.directory path with
    | .error e => .error e
    | .ok p =>
      let channel (p : Path) : Opened := .fresh (.file p 0 w.appends w.reads true)
      match m.files.at? p with
      | some { node := .directory, .. } => .error .isDirectory
      | some { node := .device (.stream n), .. } => (m.openStream n).map fun o => (o, m.files)
      | some { node := .device d, .. } => .ok (.fresh (deviceChannel d), m.files)
      | some { node := .file _, .. } =>
        .ok (channel p, if w.keeps ∨ w.appends then m.files else m.files.write m.clock m.umask p [])
      | some _ => .ok (channel p, m.files.write m.clock m.umask p [])
      | none =>
        if path.getLast? = some '/' then .error .isDirectory
        else
          match m.files.at? p.dropLast with
          | some { node := .directory, .. } => .ok (channel p, m.files.write m.clock m.umask p [])
          | some _ => .error .noDirectory
          | none => .error .missing

/-- Connects a stream to what has been opened. -/
def connectOpened (m : Machine) (stream : Nat) : Opened → Machine
  | .shared n => m.connect stream n
  | .fresh c => let (n, m) := m.openChannel c; m.connect stream n

end Machine

end JobLauncher.Shell
