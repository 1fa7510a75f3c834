import JobLauncher.Dict
import JobLauncher.Remote
import JobLauncher.Text.Cut

/-!
# Commands in containers

The line that runs a command in a container. Its parts are quoted as those of a remote command, so
the line can itself be sent to a machine.
-/

namespace JobLauncher.Docker

/-- How to start a container. -/
structure RunOptions where
  image : String
  /-- The name under which the container runs in the background. -/
  session : Option String := none
  /-- Names of variables to hand over from the host. -/
  env : List String := []
  /-- Container paths by the host path that is mounted there. -/
  volumes : Dict String := Dict.empty
  /-- Further options, written as they are. -/
  flags : List String := []

/-- The parts of the line, to be written with blanks between them. -/
def runParts (cmd : String) (options : RunOptions) : List String :=
  ["docker run --rm --privileged -u root --network=host"]
    ++ (options.session.map fun s => "-d --name=" ++ Shell.quoteForRemote s).toList
    ++ options.env.map (fun name => "-e " ++ Shell.quoteForRemote name)
    ++ options.volumes.toList.map (fun v => "-v " ++ Shell.quoteForRemote (v.1 ++ ":" ++ v.2))
    ++ options.flags
    ++ [Shell.quoteForRemote options.image,
        "/bin/bash -c " ++ Shell.quoteForRemote (Remote.inWorkDir cmd)]

/-- The line that runs `cmd` in a new container. -/
def runCommand (cmd : String) (options : RunOptions) : String :=
  Text.join " " (runParts cmd options)

end JobLauncher.Docker
