import JobLauncher.Shell.Script

/-!
# Layout of scripts

A script as the shell shows it: one command on a line, bodies set in.
-/

namespace JobLauncher.Shell.Layout

/-- How deep a body is set in. -/
def step : Nat := 4

/-- The end of a line, and the room in front of the next one. -/
def newline (depth : Nat) : Bytes := '\n' :: List.replicate depth ' '

def arrow : Redirection.Kind → String
  | .read => "<"
  | .readWrite => "<>"
  | .write => ">"
  | .overwrite => ">|"
  | .append => ">>"
  | .writeAll => "&>"
  | .appendAll => "&>>"
  | .text => "<<<"
  | .document => "<<"
  | .joinInput => "<&"
  | .joinOutput => ">&"

/-- A redirection. The text of a document follows on lines of its own. -/
def redirection (r : Redirection) : Bytes :=
  let stream : Bytes := match r.stream with
    | .usual => []
    | .number n => decimal n
    | .holder name => ['\x7b'] ++ name ++ ['\x7d']
  match r.kind with
  | .document => stream ++ bytes "<<EOF\n" ++ r.target.source ++ bytes "EOF\n"
  | .joinInput => (if stream = [] then ['0'] else stream) ++ bytes "<&" ++ r.target.source
  | .joinOutput => (if stream = [] then ['1'] else stream) ++ bytes ">&" ++ r.target.source
  | kind => stream ++ bytes (arrow kind) ++ [' '] ++ r.target.source

def simple (s : Simple) : Bytes :=
  spaced (s.settings.map (·.value.source) ++ s.words.map (·.source) ++ s.redirections.map redirection)

def test : Test → Bytes
  | .text w => bytes "-n " ++ w.source
  | .unary op w => op ++ [' '] ++ w.source
  | .binary op a b => a.source ++ [' '] ++ op ++ [' '] ++ b.source
  | .not t => bytes "! " ++ test t
  | .and a b => test a ++ bytes " && " ++ test b
  | .or a b => test a ++ bytes " || " ++ test b

/-- The words that a loop goes through. -/
def loopWords (ws : List Word) : Bytes :=
  spaced (ws.map fun w => if w.source = [] then bytes "\"$@\"" else w.source)

/-- A script whose first line follows something else; `depth` is how far others are set in. -/
def script (depth : Nat) : Script → Bytes
  | .skip => []
  | .simple s => simple s
  | .redirected s rs => script depth s ++ [' '] ++ spaced (rs.map redirection)
  | .seq (.background a) b => script depth a ++ bytes " & " ++ script depth b
  | .seq a b => script depth a ++ [';'] ++ newline depth ++ script depth b
  | .both a b => script depth a ++ bytes " && " ++ script depth b
  | .either a b => script depth a ++ bytes " || " ++ script depth b
  | .pipe a b => script depth a ++ bytes " | " ++ script depth b
  | .negated s => bytes "! " ++ script depth s
  | .timed bare s => bytes (if bare then "time -p " else "time ") ++ script depth s
  | .background s => script depth s ++ bytes " &"
  | .subshell s => bytes "( " ++ script depth s ++ bytes " )"
  | .group s =>
    bytes "\x7b " ++ newline (depth + step) ++ script (depth + step) s ++ newline depth ++ ['\x7d']
  | .loop opposite c b =>
    bytes (if opposite then "until " else "while ") ++ script depth c ++ bytes "; do"
      ++ newline (depth + step) ++ script (depth + step) b ++ [';'] ++ newline depth ++ bytes "done"
  | .choice c yes no =>
    let rest : Bytes := match no with
      | .skip => []
      | no => bytes "else" ++ newline (depth + step) ++ script (depth + step) no ++ [';'] ++ newline depth
    bytes "if " ++ script depth c ++ bytes "; then" ++ newline (depth + step)
      ++ script (depth + step) yes ++ [';'] ++ newline depth ++ rest ++ bytes "fi"
  | .each _ name ws b =>
    bytes "for " ++ name ++ bytes " in " ++ loopWords ws ++ [';'] ++ newline depth
      ++ bytes "do" ++ newline (depth + step) ++ script (depth + step) b ++ [';'] ++ newline depth
      ++ bytes "done"
  | .menu _ name ws b =>
    bytes "select " ++ name ++ bytes " in " ++ loopWords ws ++ [';'] ++ newline depth
      ++ bytes "do" ++ newline (depth + step) ++ script (depth + step) b ++ [';'] ++ newline depth
      ++ bytes "done"
  | .count _ first c next b =>
    let part (t : Bytes) : Bytes := t.dropWhile isBlank
    bytes "for ((" ++ part first ++ bytes "; " ++ part c ++ bytes "; " ++ part next ++ bytes "))"
      ++ newline depth ++ bytes "do" ++ newline (depth + step) ++ script (depth + step) b ++ [';']
      ++ newline depth ++ bytes "done"
  | .select _ w bs => bytes "case " ++ w.source ++ bytes " in " ++ script (depth + step) bs
      ++ newline depth ++ bytes "esac"
  | .branch ps b ending next =>
    let close := match ending with
      | .stop => ";;"
      | .fall => ";&"
      | .retry => ";;&"
    newline depth ++ List.intercalate (bytes " | ") (ps.map (·.source)) ++ [')']
      ++ newline (depth + step) ++ script (depth + step) b ++ newline depth ++ bytes close
      ++ script depth next
  | .arithmetic _ e => bytes "((" ++ e ++ bytes "))"
  | .test _ t => bytes "[[ " ++ test t ++ bytes " ]]"
  | .define name b => bytes "function " ++ name ++ bytes " () " ++ newline depth ++ script depth b

/-- A function with its name. -/
def function (name : Bytes) (body : Script) : Bytes :=
  let body := match body with
    | .group _ | .redirected (.group _) _ => body
    | body => .group body
  name ++ bytes " () \n" ++ script 0 body ++ ['\n']

end JobLauncher.Shell.Layout
