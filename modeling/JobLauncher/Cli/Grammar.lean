/-!
# Grammars of command lines

What may be said on a command line: commands within commands, each with flags, and for some commands
one word that has no flag. What is wrong with a command line is a `Usage`.
-/

namespace JobLauncher.Cli

/-- Why a command line is not carried out. -/
inductive Usage where
  | help
  | version
  /-- Nothing was said where a command is needed. -/
  | helpInstead
  | missingCommand
  | unknownCommand
  | unknownFlag
  /-- A value is missing, or is not one of those allowed. -/
  | invalidValue
  /-- A value does not have the form it needs. -/
  | malformedValue
  /-- A flag without a value is given one. -/
  | needlessValue
  /-- A flag is given twice, or together with one that excludes it. -/
  | conflict
  | missingFlag
  deriving DecidableEq, Repr

def Usage.message : Usage → String
  | .help | .helpInstead => "usage: job-launcher [--settings FILE] COMMAND [FLAGS]"
  | .version => "job-launcher 0.1.0"
  | .missingCommand => "a command is missing"
  | .unknownCommand => "there is no such command"
  | .unknownFlag => "there is no such flag"
  | .invalidValue => "a value is missing or not one of those allowed"
  | .malformedValue => "a value does not have the form that it needs"
  | .needlessValue => "a flag without a value is given one"
  | .conflict => "flags exclude each other"
  | .missingFlag => "a flag that has to be given is missing"

/-- Whether it is what was asked for. -/
def Usage.isAnswer (u : Usage) : Bool := u = .help || u = .version

/-- What giving a flag does. -/
inductive Flag.Role where
  | value
  | switch
  /-- Ends the reading at once. -/
  | shows (what : Usage)
  deriving DecidableEq, Repr

/-- A flag. -/
structure Flag where
  name : String
  /-- One letter that stands for the name. -/
  letter : Option Char := none
  role : Flag.Role := .value
  repeatable : Bool := false
  required : Bool := false
  /-- Parts a value into several. -/
  separator : Option Char := none
  /-- Whether a value that stands apart may look like a flag. -/
  dashes : Bool := false
  /-- Flags that it cannot be given with. -/
  excludes : List String := []
  /-- What is wrong with a value, if anything. -/
  check : String → Option Usage := fun _ => none

/-- A flag that is given or not. -/
def Flag.switch (name : String) : Flag := { name, role := .switch }

/-- Accepts the values that `parse` reads. -/
def Flag.checked (f : Flag) (parse : String → Option α) (otherwise : Usage) : Flag :=
  { f with check := fun s => if (parse s).isSome then none else some otherwise }

/-- What may follow the name of a command. -/
structure Level where
  flags : List Flag := []
  /-- A word without a flag. -/
  word : Option Flag := none

/-- A command, with the commands within it by name. -/
inductive Command where
  | node (level : Level) (within : List (String × Command))

namespace Command

def level : Command → Level
  | node level _ => level

def within : Command → List (String × Command)
  | node _ within => within

/-- The command of a name. -/
def find? (c : Command) (name : String) : Option Command := c.within.lookup name

/-- A command that is carried out. -/
def leaf (flags : List Flag) : Command := node { flags } []

/-- A command that needs another one after it. -/
def group (within : List (String × Command)) : Command := node {} within

/-- Whether another command is needed. -/
def isGroup (c : Command) : Bool := !c.within.isEmpty

end Command

end JobLauncher.Cli
