import JobLauncher.Shell.Tool.Codes
import JobLauncher.Shell.Tool.Date
import JobLauncher.Shell.Tool.Differences
import JobLauncher.Shell.Tool.Dump
import JobLauncher.Shell.Tool.Edit.Run
import JobLauncher.Shell.Tool.Exchange
import JobLauncher.Shell.Tool.Facts
import JobLauncher.Shell.Tool.Fields
import JobLauncher.Shell.Tool.Lines
import JobLauncher.Shell.Tool.Listing
import JobLauncher.Shell.Tool.Numbers
import JobLauncher.Shell.Tool.Order
import JobLauncher.Shell.Tool.Places
import JobLauncher.Shell.Tool.Running
import JobLauncher.Shell.Tool.Search

/-!
# All tools

The tools that a shell finds, by their names.
-/

namespace JobLauncher.Shell.Tool

/-- Tools that read texts and write what becomes of them. -/
def texts : List (String × Program) := [
  ("cat", Lines.cat), ("expand", Lines.expand), ("fold", Lines.fold), ("head", Lines.head),
  ("nl", Lines.nl), ("rev", Lines.rev), ("tac", Lines.tac), ("tail", Lines.tail),
  ("tee", Lines.tee), ("unexpand", Lines.unexpand), ("wc", Lines.wc),
  ("cmp", Differences.cmp), ("diff", Differences.diff), ("od", Dump.od),
  ("cut", Fields.cut), ("paste", Fields.paste),
  ("comm", Order.comm), ("join", Order.join), ("sort", Order.sort), ("uniq", Order.uniq),
  ("egrep", Search.grep 'E'), ("fgrep", Search.grep 'F'), ("grep", Search.grep 'G'),
  ("sed", Edit.sed), ("tr", Exchange.tr)]

/-- Tools that count and tell the time. -/
def numbers : List (String × Program) := [
  ("date", Date.date),
  ("expr", Numbers.expr), ("factor", Numbers.factor), ("seq", Numbers.seq)]

/-- Tools on files and their names. -/
def places : List (String × Program) := [
  ("find", Listing.find), ("ls", Listing.ls),
  ("basename", Places.basename), ("chmod", Places.chmod), ("cp", Places.cp),
  ("dirname", Places.dirname), ("ln", Places.ln), ("mkdir", Places.mkdir),
  ("mktemp", Places.mktemp), ("mv", Places.mv), ("readlink", Places.readlink),
  ("realpath", Places.realpath), ("rm", Places.rm), ("rmdir", Places.rmdir),
  ("stat", Places.stat), ("touch", Places.touch), ("truncate", Places.truncate)]

/-- Tools that run others, or wait. -/
def runners : List (String × Program) := [
  ("env", Running.env), ("nice", Running.nice), ("nohup", Running.nohup),
  ("printenv", Running.printenv), ("setsid", Running.setsid), ("sleep", Running.sleep),
  ("timeout", Running.timeout), ("xargs", Running.xargs), ("yes", Running.yes)]

/-- All tools by their names. -/
def all : List (String × Program) := Facts.all ++ Codes.all ++ texts ++ numbers ++ places ++ runners

/-- The names of all programs. -/
def programs : List String := ["bash", "dash", "sh"] ++ all.map (·.1)

/-- The tool of a name. -/
def find? (name : String) : Option Program := all.lookup name

end JobLauncher.Shell.Tool
