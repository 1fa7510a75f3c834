import JobLauncher.Cli.Commands
import JobLauncher.Cli.Session
import JobLauncher.Json.Printer
import JobLauncher.Yaml.Printer

/-!
# Running commands

What each action does, and what it prints when it is done. An action that fails prints nothing. The
settings are read before anything else happens, and a job is checked before the cluster is asked.
-/

namespace JobLauncher.Cli

/-- The outcome of a command: what it prints, or why it failed. -/
abbrev Outcome := Except Error String

/-- Goes on with a result; a failure is the outcome. -/
def andThen (p : Session (Except Error α)) (f : α → Session Outcome) : Session Outcome :=
  p.bind fun
    | .error e => .done (.error e)
    | .ok a => f a

/-- A document as it is printed. -/
def Format.print (v : Json) : Format → String
  | .json => v.pretty ++ "\n"
  | .yaml => Yaml.print v

/-- The settings for an environment, from the file that the command line or the surroundings
name. -/
def loadSettings (env : Settings.Environment) (file envId : Option String) :
    Session (Except Error Settings.File) :=
  let place := Settings.Location.of env file
  let result (r : Settings.Reading) : Except Error Settings.File :=
    match place.load r with
    | .error e => .error (.settings e)
    | .ok settings => .ok (settings.forEnv envId)
  match place.path? with
  | some path => .ask (.readFile path) fun r => .done (result r)
  | none => .done (result (.missing ""))

/-- The job of a description, with defaults from the settings. -/
def configure (env : Settings.Environment) (file envId : Option String) (d : Job.Draft) :
    Session (Except Error Job.Config) :=
  (loadSettings env file envId).bind fun
    | .error e => .done (.error e)
    | .ok settings => .done ((d.build settings.get?).mapError .job)

/-- What a job that was run prints. -/
def printed : Job.Outcome → String
  | .submitted created => Format.print created .json
  | .ran output => output.stdout

/-- What a request to delete prints. -/
def deletionText (t : JobSetRef) : Deletion → String
  | .requested => "JobSet " ++ t.ns ++ "/" ++ t.name ++ " deletion requested\n"
  | .notFound => "JobSet " ++ t.ns ++ "/" ++ t.name ++ " not found\n"

/-- Runs a part of the control of jobs and shows its result. -/
def controlled (p : Control (Except Job.Error α)) (text : α → String) : Session Outcome :=
  (Session.control p).bind fun r => .done ((r.mapError .job).map text)

/-- Submits a job. -/
def submit (c : Job.Config) : Session Outcome :=
  match Job.ofConfig c with
  | .error e => .done (.error (.job e))
  | .ok job => controlled job.execute printed

/-- The document of a job, under a version. -/
def document (c : Job.Config) (apiVersion : String) : Except Job.Error Json := do
  let job ← JobSetJob.ofConfig c
  return ((← job.compile).submit apiVersion).toJson

/-- Does what an action says. -/
def Action.run (env : Settings.Environment) (file : Option String) : Action → Session Outcome
  | .launch args v => andThen (configure env file args.envId (args.draft v)) submit
  | .build args v format apiVersion =>
    andThen (configure env file args.envId (args.draft v)) fun c =>
      .done (((document c apiVersion).mapError .job).map format.print)
  | .delete target => controlled target.delete (deletionText target)
  | .machine args =>
    andThen (configure env file args.envId args.draft) fun c =>
      let job : VmJob := { config := c, tool := args.tool, session := args.session }
      controlled job.execute fun output => output.stdout
  | .container args => .done (.ok (Docker.runCommand args.command args.options ++ "\n"))

/-- Carries out a command line. -/
def Invocation.run (env : Settings.Environment) (i : Invocation) : Session Outcome :=
  i.action.run env i.settings

end JobLauncher.Cli
