import LateBinding.CommandLine.Invocation
import LateBinding.Module.Summary
import LateBinding.Sample
import LateBinding.Storage.Disk
import LateBinding.Value.Argument

/-!
# Carrying out commands

What a command prints and the code with which it exits: zero on success, one when the command
fails, and two when it cannot be started.
-/

namespace LateBinding

/-- What the command line needs of its surroundings. -/
structure CommandEnvironment (Files : Type → Type) where
  /-- The files in which modules are stored. -/
  files : FileOperations Files
  /-- The content of a file of settings, or why it cannot be read. -/
  readSettings : String → Files (Except String Bytes)
  /-- Makes a log file unless it is there, or says why it cannot be used. -/
  openLog : String → Files (Except String Unit)

/-- What a command leaves behind besides files. -/
structure CommandResult where
  /-- The code with which the command exits. -/
  exitCode : UInt32
  /-- What is printed. -/
  output : String
  /-- What is printed for errors. -/
  errors : String
  deriving DecidableEq, Repr, Inhabited

/-- Lines, each of them ended. -/
def endedLines (lines : List String) : String :=
  String.join (lines.map fun line => line ++ "\n")

/-- What is told about an error. -/
def ErrorFormat.textLines (format : ErrorFormat) (report : Report) : List String :=
  match format with
  | human => s!"❌ {report.text}" :: report.member.toList.map fun member => s!"   at {member}"
  | json => [report.json.compact]

namespace CommandResult

/-- A command that has printed lines. -/
def success (lines : List String) : CommandResult :=
  ⟨0, endedLines lines, ""⟩

/-- A command that has failed after it had printed lines. -/
def failure (format : ErrorFormat) (lines : List String) (error : EngineError) : CommandResult :=
  ⟨1, endedLines lines, endedLines (format.textLines error.report)⟩

/-- A command that has not been started. -/
def refusal (reason : String) : CommandResult :=
  ⟨2, "", endedLines [reason]⟩

end CommandResult

/-- How the program is used. -/
def usageLines : List String :=
  ["Kiln - synthesize, load and invoke types at runtime",
    "",
    "Usage: kiln [OPTIONS] demo",
    "       kiln [OPTIONS] inspect [--json] <NAME>",
    "       kiln [OPTIONS] run <NAME> <METHOD> [ARGS]... [--ctor-arg <VALUE>]...",
    "",
    "Options:",
    "      --config <FILE>          Configuration file (JSON)",
    "      --dir <DIR>              Module directory (overrides the config file)",
    "  -v, --verbose                Increase log verbosity (-v info, -vv debug, -vvv trace)",
    "  -q, --quiet                  Only log errors",
    "      --log-format <FORMAT>    Log output format: pretty, compact or json",
    "      --log-file <FILE>        Also write logs to this file",
    "      --error-format <FORMAT>  Error output format: human or json",
    "  -h, --help                   Print help",
    "  -V, --version                Print version"]

/-- The name and the version of the program. -/
def versionLine : String :=
  "kiln 0.1.0"

/-- What is answered when there is no command to carry out. -/
def NoCommand.result : NoCommand → CommandResult
  | misuse => .refusal "error: the arguments are not understood; try 'kiln --help'"
  | help => .success usageLines
  | version => .success [versionLine]

variable {Files : Type → Type} [Monad Files]

/-- Runs a method of the type of a name, and prints its lines and its result. -/
def runCommand
    (files : FileOperations Files)
    (settings : Settings)
    (format : ErrorFormat)
    (name method : String)
    (arguments constructorArguments : List String) :
    Files CommandResult := do
  let (result, world) ←
    World.empty.run files settings name (constructorArguments.map Value.ofArgument) method
      (arguments.map Value.ofArgument)
  match result with
  | .error error => return .failure format world.output error
  | .ok value => return .success (world.output ++ value.resultLine?.toList)

/-- Prints the summary of the module of a name. -/
def inspectCommand
    (files : FileOperations Files)
    (settings : Settings)
    (format : ErrorFormat)
    (name : String)
    (asJson : Bool) :
    Files CommandResult := do
  match ← settings.inspect files name with
  | .error error => return .failure format [] error
  | .ok summary =>
      return .success [if asJson then summary.json.pretty else summary.text]

/-- Stores the sample type. -/
def publishSample
    (files : FileOperations Files)
    (settings : Settings) :
    Files (Except EngineError String) :=
  match Sample.description with
  | .error error => return .error (.build error)
  | .ok description => settings.publish files description

/-- Stores the sample type and runs its method. -/
def demoCommand
    (files : FileOperations Files)
    (settings : Settings)
    (format : ErrorFormat) :
    Files CommandResult := do
  match ← publishSample files settings with
  | .error error => return .failure format [] error
  | .ok _ =>
      runCommand files settings format Sample.typeName Sample.methodName []
        Sample.constructorArguments

/-- Carries out a command with settings. -/
def Command.perform
    (files : FileOperations Files)
    (settings : Settings)
    (format : ErrorFormat) :
    Command → Files CommandResult
  | demo => demoCommand files settings format
  | inspect name asJson => inspectCommand files settings format name asJson
  | run name method arguments constructorArguments =>
      runCommand files settings format name method arguments constructorArguments

namespace CommandEnvironment

/-- The settings of an invocation. -/
def settings
    (environment : CommandEnvironment Files)
    (invocation : Invocation) :
    Files (Except SettingsError Settings) := do
  match invocation.settingsFile with
  | none => return resolveSettings none invocation.overrides
  | some path =>
      let content ← environment.readSettings path
      return resolveSettings (some content) invocation.overrides

/-- Makes the log file of settings that name one. -/
def prepareLog
    (environment : CommandEnvironment Files)
    (settings : LogSettings) :
    Files (Except String Unit) := do
  match settings.file with
  | none => return .ok ()
  | some path =>
      return (← environment.openLog path).mapError fun cause =>
        s!"Cannot open log file '{path}': {cause}"

/-- Carries out what arguments ask for; no argument of a process holds a zero character. -/
def execute
    (environment : CommandEnvironment Files)
    (arguments : List String) :
    Files CommandResult := do
  match Invocation.ofArguments arguments with
  | .error reason => return reason.result
  | .ok invocation =>
      match ← environment.settings invocation with
      | .error error => return .refusal s!"Error: {error.message}"
      | .ok settings =>
          match ← environment.prepareLog settings.log with
          | .error reason => return .refusal s!"Error: {reason}"
          | .ok () =>
              invocation.command.perform environment.files settings invocation.errorFormat

end CommandEnvironment

/-- The command line on a disk. -/
def Disk.commandEnvironment : CommandEnvironment (StateM Disk) where
  files := Disk.operations none
  readSettings path := fun disk => ((disk.read path).mapError DiskFault.text, disk)
  openLog path := fun disk =>
    match disk.touch path with
    | .ok after => (.ok (), after)
    | .error fault => (.error fault.text, disk)

end LateBinding
