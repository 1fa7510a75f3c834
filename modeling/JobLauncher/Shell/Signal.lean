import JobLauncher.Shell.Bytes

/-!
# Signals

The names and numbers of the signals that processes send each other, and of the other events on
which a shell can act.
-/

namespace JobLauncher.Shell.Signal

/-- The names of signals. -/
def names : List (String × Nat) :=
  [("HUP", 1), ("INT", 2), ("QUIT", 3), ("ILL", 4), ("TRAP", 5), ("ABRT", 6), ("BUS", 7),
    ("FPE", 8), ("KILL", 9), ("USR1", 10), ("SEGV", 11), ("USR2", 12), ("PIPE", 13), ("ALRM", 14),
    ("TERM", 15), ("STKFLT", 16), ("CHLD", 17), ("CONT", 18), ("STOP", 19), ("TSTP", 20),
    ("TTIN", 21), ("TTOU", 22), ("URG", 23), ("XCPU", 24), ("XFSZ", 25), ("VTALRM", 26),
    ("PROF", 27), ("WINCH", 28), ("IO", 29), ("PWR", 30), ("SYS", 31), ("RTMIN", 34)]
  ++ (List.range 15).map (fun i => ("RTMIN+" ++ toString (i + 1), 35 + i))
  ++ (List.range 14).map (fun i => ("RTMAX-" ++ toString (14 - i), 50 + i))
  ++ [("RTMAX", 64)]

/-- Events that are no signals. -/
def events : List (String × Nat) := [("EXIT", 0), ("DEBUG", 65), ("ERR", 66), ("RETURN", 67)]

def debugEvent : Nat := 65

def errorEvent : Nat := 66

def returnEvent : Nat := 67

/-- The signal that ends a process whose parts are too deep inside each other. -/
def fault : Nat := 11

/-- Whether a shell ends when it gets a signal. Some it does not notice, and it leaves out the
request to quit. -/
def ends (signal : Nat) : Bool := signal ∉ [0, 3, 17, 18, 19, 20, 21, 22, 23, 28]

/-- The name of a signal. -/
def name? (n : Nat) : Option String := (names.find? (·.2 = n)).map (·.1)

/-- The number that a text names among some. -/
def among? (table : List (String × Nat)) (t : Bytes) : Option Nat :=
  let upper := textOfBytes (t.map Char.toUpper)
  let short := if upper.startsWith "SIG" then String.ofList (upper.toList.drop 3) else upper
  (table.lookup short).or (if short = "IOT" then some 6 else if short = "POLL" then some 29 else none)

/-- The signal that a text names, by number or by name. -/
def ofText? (t : Bytes) : Option Nat :=
  match natural? t with
  | some n => if n ≤ 64 then some n else none
  | none => if t.map Char.toUpper = bytes "EXIT" then some 0 else among? names t

/-- The signal or other event that a text names. -/
def eventOfText? (t : Bytes) : Option Nat :=
  match natural? t with
  | some n => if n ≤ 64 then some n else none
  | none => among? (events ++ names) t

/-- The name of an event. -/
def eventName (n : Nat) : String :=
  match events.find? (·.2 = n) with
  | some e => e.1
  | none => "SIG" ++ (name? n).getD (toString n)

/-- All signals in columns. -/
def listing : Bytes :=
  rows (names.map fun (name, n) => padLeft ' ' 2 (decimal n) ++ bytes ") SIG" ++ bytes name) 1
where
  rows : List Bytes → Nat → Bytes
    | [], column => if column = 1 then [] else ['\n']
    | cell :: rest, column =>
      if column = 5 then cell ++ ['\n'] ++ rows rest 1 else cell ++ ['\t'] ++ rows rest (column + 1)

end JobLauncher.Shell.Signal
