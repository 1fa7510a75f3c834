import JobLauncher.Text.Lowercase
import JobLauncher.Text.Printable.Table

/-!
# Quoted text in messages

How a message shows a text so that its ends and its invisible characters can be seen: between double
quotes, with escapes for the quote, the backslash and whatever has no visible form of its own.
-/

namespace JobLauncher.Text

def isPrintable (c : Char) : Bool := !inRanges unprintableRanges c.toNat

/-- A mark that is shown on the character before it. -/
def isAttachedMark (c : Char) : Bool := inRanges attachedMarkRanges c.toNat

/-- The digits of `n` in base 16, lower case, without leading zeros. -/
def hexDigits (n : Nat) : List Char := Nat.toDigits 16 n

/-- The digits of `n` in base 16, lower case, at least `width` of them. -/
def hexPadded (width n : Nat) : List Char :=
  let ds := hexDigits n
  List.replicate (width - ds.length) '0' ++ ds

/-- One character inside the quotes. -/
def quoteChar (c : Char) : List Char :=
  if c = '"' then ['\\', '"']
  else if c = '\\' then ['\\', '\\']
  else if c = '\n' then ['\\', 'n']
  else if c = '\r' then ['\\', 'r']
  else if c = '\t' then ['\\', 't']
  else if c.toNat = 0 then ['\\', '0']
  else if isAttachedMark c || !isPrintable c then
    ['\\', 'u', '\x7b'] ++ hexDigits c.toNat ++ ['\x7d']
  else [c]

/-- The text between double quotes, with escapes. -/
def quoted (s : String) : String :=
  String.ofList (['"'] ++ s.toList.flatMap quoteChar ++ ['"'])

end JobLauncher.Text
