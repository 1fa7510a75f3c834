/-!
# Blank characters

The Unicode white space property. A text all of whose characters are blank says nothing.
-/

namespace JobLauncher.Text

/-- A character with the Unicode white space property. -/
def isBlank (c : Char) : Bool :=
  let n := c.toNat
  (0x09 ≤ n && n ≤ 0x0D) || n == 0x20 || n == 0x85 || n == 0xA0 || n == 0x1680 ||
    (0x2000 ≤ n && n ≤ 0x200A) || n == 0x2028 || n == 0x2029 || n == 0x202F || n == 0x205F ||
    n == 0x3000

/-- Every character is blank; true of the empty text. -/
def isBlankText (s : String) : Bool := s.toList.all isBlank

example : isBlankText " \t\r\n" = true := by decide
example : isBlankText "" = true := by decide

end JobLauncher.Text
