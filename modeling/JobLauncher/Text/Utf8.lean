/-!
# UTF-8 with repairs

Reads bytes as UTF-8. A byte sequence that is no character is replaced by U+FFFD, one replacement
for each longest run of bytes that could have begun a character.
-/

namespace JobLauncher.Text

/-- A character begun: the bits read so far, how many bytes are owed, and the range in which the
next one has to lie. -/
structure PartialChar where
  bits : Nat
  owed : Nat
  low : Nat
  high : Nat

/-- What the first byte of a character says: the whole character, or what has to follow. -/
inductive FirstByte where
  | whole (c : Char)
  | begins (p : PartialChar)
  | invalid

/-- The reading of a byte between characters. The ranges keep out overlong forms, surrogates and
code points past the last one. -/
def FirstByte.of (b : Nat) : FirstByte :=
  if b < 0x80 then .whole (Char.ofNat b)
  else if 0xC2 ≤ b ∧ b ≤ 0xDF then .begins ⟨b - 0xC0, 1, 0x80, 0xBF⟩
  else if b = 0xE0 then .begins ⟨0, 2, 0xA0, 0xBF⟩
  else if b = 0xED then .begins ⟨0xD, 2, 0x80, 0x9F⟩
  else if 0xE1 ≤ b ∧ b ≤ 0xEF then .begins ⟨b - 0xE0, 2, 0x80, 0xBF⟩
  else if b = 0xF0 then .begins ⟨0, 3, 0x90, 0xBF⟩
  else if 0xF1 ≤ b ∧ b ≤ 0xF3 then .begins ⟨b - 0xF0, 3, 0x80, 0xBF⟩
  else if b = 0xF4 then .begins ⟨4, 3, 0x80, 0x8F⟩
  else .invalid

/-- The character that stands for bytes that are none. -/
def replacement : Char := Char.ofNat 0xFFFD

/-- A byte between characters: what is written, and the character it begins. -/
def firstStep (b : Nat) : List Char × Option PartialChar :=
  match FirstByte.of b with
  | .whole c => ([c], none)
  | .begins p => ([], some p)
  | .invalid => ([replacement], none)

/-- A byte after those of a character begun. One that does not fit closes the unfinished character
with a replacement and is read again as a first byte. -/
def nextStep (p : PartialChar) (b : Nat) : List Char × Option PartialChar :=
  if p.low ≤ b ∧ b ≤ p.high then
    let bits := p.bits * 64 + (b - 0x80)
    if p.owed = 1 then ([Char.ofNat bits], none)
    else ([], some ⟨bits, p.owed - 1, 0x80, 0xBF⟩)
  else
    let again := firstStep b
    (replacement :: again.1, again.2)

/-- Reads bytes, given the character that has been begun, if any. -/
def decodeBytes (begun : Option PartialChar) : List UInt8 → List Char
  | [] => if begun.isSome then [replacement] else []
  | b :: rest =>
    let step := match begun with
      | none => firstStep b.toNat
      | some p => nextStep p b.toNat
    step.1 ++ decodeBytes step.2 rest

/-- The text of a byte sequence, repaired where it is not UTF-8. -/
def decodeUtf8 (bytes : List UInt8) : String := String.ofList (decodeBytes none bytes)

end JobLauncher.Text
