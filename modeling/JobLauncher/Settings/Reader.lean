import JobLauncher.Error
import JobLauncher.Settings.Basic
import JobLauncher.Text.Blank
import JobLauncher.Yaml.Node

/-!
# Reading settings

A settings file is a YAML mapping of sections, each a mapping of keys to texts. A text stands for
itself however it is written: what looks like a number or a truth value is kept as it is.
-/

namespace JobLauncher.Settings

open Yaml

/-- The sections of a YAML text. -/
def parseSections (text : String) : Except Fault (Dict (Dict String)) := do
  match ← Node.parse? text with
  | none => return Dict.empty
  | some node =>
    let d ← Document.ofNode node
    let (sections, _) ← (d.dict (d.dict d.text) d.root).run 0
    return sections

namespace File

/-- The settings of a text; `path` is where an error says it was. A blank text has none. -/
def parse (path text : String) : Except Error File :=
  if Text.isBlankText text then .ok empty
  else match parseSections text with
    | .ok sections => .ok ⟨sections, none⟩
    | .error f => .error (.settings path ("invalid settings yaml: " ++ f.message))

/-- The place of settings that are not in a file. -/
def inline : String := "<inline>"

end File

end JobLauncher.Settings
