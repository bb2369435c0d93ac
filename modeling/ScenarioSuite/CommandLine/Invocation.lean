import ScenarioSuite.CommandLine.Scan
import ScenarioSuite.Config

/-!
# Command lines of the program

The program runs a suite, or lists its files. A third command shows help.

## Main definitions

* `program`, `runCommand`, `listCommand`, `helpCommand`: the commands.
* `RunArguments`: what a run is asked for.
* `Invocation`, `Invocation.parse`: what a command line asks for.
-/

namespace ScenarioSuite.CommandLine

/-- The name of the program. -/
def programName : String := "api-scenarios"

/-- Shows what happens in detail. -/
def verbose : Parameter := ⟨some 'v', "verbose", .switch, "Log request and response details"⟩

/-- Shows help. -/
def help : Parameter := ⟨some 'h', "help", .showHelp, "Print help"⟩

/-- The file of the settings; without words of its own in the help of some commands. -/
def configFile (about : String) : Parameter :=
  ⟨none, "config", .value "CONFIG" .path false, about⟩

/-- The directory of a suite. -/
def suiteDirectory : Operand := ⟨"SUITE_DIR", .path⟩

/-- The program without a command. -/
def program : Command where
  call := programName
  about := "Run ordered HTTP API scenarios"
  operand := none
  parameters := [verbose, help, ⟨some 'V', "version", .showVersion, "Print version"⟩]

/-- Runs a suite. -/
def runCommand : Command where
  call := programName ++ " run"
  about := "Run every scenario under a suite directory, in path order"
  operand := some suiteDirectory
  parameters :=
    [configFile "Runner configuration file (JSON)",
     ⟨none, "env-file", .value "ENV_FILE" .path false,
      "Environment file; searched for from the suite directory when omitted"⟩,
     ⟨some 'e', "environment", .value "ENVIRONMENT" .text false, "Environment to seed from"⟩,
     ⟨none, "server", .value "SERVER" .text false, "Value for the base-url variable"⟩,
     ⟨none, "set", .value "KEY=VALUE" .assignment true, "Seed a variable (repeatable)"⟩,
     ⟨none, "json", .switch, "Print the report as JSON"⟩, verbose, help]

/-- Lists the files of a suite. -/
def listCommand : Command where
  call := programName ++ " list"
  about := "List the scenario files of a suite in run order"
  operand := some suiteDirectory
  parameters := [configFile "", verbose, help]

/-- Shows the help of a command. -/
def helpCommand : Command where
  call := programName ++ " help"
  about := "Print this message or the help of the given subcommand(s)"
  operand := some ⟨"COMMAND", .text⟩
  parameters := []

/-- The commands by their names. -/
def commands : List (String × Command) :=
  [("run", runCommand), ("list", listCommand), ("help", helpCommand)]

/-- What a run is asked for. -/
structure RunArguments where
  directory : Path
  configFile : Option Path
  environmentFile : Option Path
  environment : Option String
  server : Option String
  assignments : List (String × String)
  asJson : Bool
deriving Repr, DecidableEq

/-- What is asked for. -/
inductive Invocation where
  | run (arguments : RunArguments)
  | list (directory : Path) (configFile : Option Path)
deriving Repr, DecidableEq

/-- Why a command line asks for nothing that can be done. -/
inductive Refusal where
  /-- Reading ended before the last argument. -/
  | stopped (stop : Stop)
  /-- There was no argument. -/
  | empty

namespace Invocation

/-- The directory among the findings. -/
def directory (f : Findings) : Path :=
  (f.get? suiteDirectory.label).getD ""

/-- The path that an option names. -/
def path? (f : Findings) (name : String) : Option Path :=
  (f.get? name).map Text.Utf8.encode

/-- What the findings ask a run for. -/
def ofRun (f : Findings) : Invocation :=
  .run {
    directory := directory f
    configFile := path? f "config"
    environmentFile := path? f "env-file"
    environment := f.get? "environment"
    server := f.get? "server"
    assignments := (f.all "set").filterMap assignment?
    asJson := f.has "json" }

/-- What the findings ask a listing for. -/
def ofList (f : Findings) : Invocation :=
  .list (directory f) (path? f "config")

/-- Shows the help of a command; the help of a command that takes no commands is not deeper. -/
def showHelp : List String → Stop
  | [] => .help program
  | name :: rest =>
    match commands.lookup name, rest with
    | none, _ => .misuse (.unknownCommand name) program
    | some c, [] => .help c
    | some c, other :: _ => .misuse (.unknownCommand other) c

/-- Reads the arguments of a command by its name. -/
def ofCommand (name : String) (arguments : List String) : Except Stop Invocation :=
  if name = "run" then ofRun <$> runCommand.scan arguments
  else if name = "list" then ofList <$> listCommand.scan arguments
  else .error (showHelp arguments)

/-- Reads arguments up to the name of a command, and those of the command. -/
def ofArguments (s : Scan) : List String → Except Stop Invocation
  | [] => s.refuse (.missingCommand programName)
  | argument :: rest =>
    if argument = "--" then
      match rest with
      | [] => s.refuse (.missingCommand programName)
      | word :: _ =>
        s.refuse (if (commands.lookup word).isSome then .unexpectedArgument word
          else .unknownCommand word)
    else match s.option? argument with
      | some result => do ofArguments (← result) rest
      | none =>
        if (commands.lookup argument).isSome then ofCommand argument rest
        else s.refuse (.unknownCommand argument)

/-- Reads a command line. -/
def parse (arguments : List String) : Except Refusal Invocation :=
  if arguments.isEmpty || arguments = ["--"] then .error .empty
  else match ofArguments (Scan.start program) arguments with
    | .error stop => .error (.stopped stop)
    | .ok invocation => .ok invocation

end Invocation

end ScenarioSuite.CommandLine
