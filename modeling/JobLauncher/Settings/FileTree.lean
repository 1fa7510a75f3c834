import JobLauncher.Settings.Location

/-!
# Trees of files

What reading a path gives where the files are known. A path is followed name by name from the top:
an empty name and a dot stay, two dots go back, and any other name has to be there. Every directory
on the way to a file is there.
-/

namespace JobLauncher.Settings

/-- Text files by the names on the way to each; of two with the same names the first one counts. -/
structure FileTree where
  files : List (List String × String) := []
  deriving DecidableEq, Repr

namespace FileTree

/-- What is under some names. -/
inductive Entry where
  | file (text : String)
  | directory
  | nothing
  deriving DecidableEq, Repr

/-- The names in a path. -/
def names (path : String) : List String := Text.split '/' path

def entry (t : FileTree) (names : List String) : Entry :=
  match t.files.lookup names with
  | some text => .file text
  | none => if t.files.any fun f => names.isPrefixOf f.1 then .directory else .nothing

/-- No name in a path is longer, in bytes. -/
def maxNameSize : Nat := 255

/-- No path is longer, in bytes. -/
def maxPathSize : Nat := 4095

/-- Follows names from a directory. -/
def walk (t : FileTree) (directory : List String) : List String → Reading
  | [] => .unreadable "Is a directory (os error 21)"
  | name :: rest =>
    if name = "" ∨ name = "." then t.walk directory rest
    else if name = ".." then t.walk directory.dropLast rest
    else if maxNameSize < name.utf8ByteSize then .missing "File name too long (os error 36)"
    else match t.entry (directory ++ [name]) with
      | .directory => t.walk (directory ++ [name]) rest
      | .file text => if rest.isEmpty then .text text else .missing "Not a directory (os error 20)"
      | .nothing => .missing "No such file or directory (os error 2)"

/-- What reading a path gives. -/
def read (t : FileTree) (path : String) : Reading :=
  if Text.has (Char.ofNat 0) path then .missing "file name contained an unexpected NUL byte"
  else if path = "" then .missing "No such file or directory (os error 2)"
  else if maxPathSize < path.utf8ByteSize then .missing "File name too long (os error 36)"
  else t.walk [] (names path)

example : read ⟨[(["a", "b"], "x")]⟩ "/a/../a//b" = .text "x" := by decide +kernel
example : read ⟨[(["a", "b"], "x")]⟩ "/a" = .unreadable "Is a directory (os error 21)" := by
  decide +kernel
example : read ⟨[(["a", "b"], "x")]⟩ "/a/b/" = .missing "Not a directory (os error 20)" := by
  decide +kernel

end FileTree

end JobLauncher.Settings
