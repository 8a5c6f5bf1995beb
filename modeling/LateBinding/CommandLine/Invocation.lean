import LateBinding.CommandLine.Arguments
import LateBinding.Settings.Overrides

/-!
# Invocations

The command that the arguments of a command line ask for.
-/

namespace LateBinding

/-- A command. -/
inductive Command where
  /-- Builds the sample type and runs it. -/
  | demo
  /-- Prints the summary of the module of a name. -/
  | inspect (name : String) (asJson : Bool)
  /-- Constructs an object of the type of a name and calls a method of it. -/
  | run (name method : String) (arguments constructorArguments : List String)
  deriving DecidableEq, Repr, Inhabited

/-- A command with the options that all commands share. -/
structure Invocation where
  /-- The file of the settings. -/
  settingsFile : Option String
  /-- What is said about settings. -/
  overrides : Overrides
  /-- The form in which a failure is told. -/
  errorFormat : ErrorFormat
  /-- The command. -/
  command : Command
  deriving DecidableEq, Repr, Inhabited

/-- The command of a subcommand with what has been given behind it. -/
def GivenArguments.command (given : GivenArguments) :
    Subcommand → Except NoCommand Command
  | .demo => .ok .demo
  | .inspect =>
      match given.words with
      | [name] => .ok (.inspect name (given.has .json))
      | _ => .error .misuse
  | .run =>
      match given.words with
      | name :: method :: arguments =>
          .ok (.run name method arguments (given.values .constructorArgument))
      | _ => .error .misuse

/-- What has been given for common options: behind the subcommand, or else in front of it. -/
structure CommonArguments where
  /-- What has been given in front of the subcommand. -/
  outer : GivenArguments
  /-- What has been given behind the subcommand. -/
  inner : GivenArguments

namespace CommonArguments

/-- The value of a common option. -/
def value? (common : CommonArguments) (name : OptionName) : Option String :=
  (common.inner.value? name).or (common.outer.value? name)

/-- How many times a common option has been given. -/
def count (common : CommonArguments) (name : OptionName) : Nat :=
  if common.inner.has name then common.inner.count name else common.outer.count name

/-- What the common options say about settings. -/
def overrides (common : CommonArguments) : Overrides where
  moduleDirectory := common.value? .moduleDirectory
  verbosity := common.count .verbose
  quiet := 0 < common.count .quiet
  logFormat := (common.value? .logFormat).bind LogFormat.ofText?
  logFile := common.value? .logFile

/-- The form in which a failure is told. -/
def errorFormat (common : CommonArguments) : ErrorFormat :=
  ((common.value? .errorFormat).bind ErrorFormat.ofText?).getD .human

/-- A command with the common options. -/
def invocation (common : CommonArguments) (command : Command) : Invocation where
  settingsFile := common.value? .settingsFile
  overrides := common.overrides
  errorFormat := common.errorFormat
  command := command

end CommonArguments

/-- What a first word that is no subcommand comes to, with the arguments behind it. -/
def NoCommand.ofWord (word : String) (rest : List String) : NoCommand :=
  if word ≠ "help" then .misuse
  else
    match rest with
    | [] => .help
    | [topic] => if topic = "help" || (Subcommand.ofText? topic).isSome then .help else .misuse
    | _ => .misuse

/-- The invocation that arguments ask for. -/
def Invocation.ofArguments (arguments : List String) : Except NoCommand Invocation := do
  let (items, left) := scanArguments none arguments
  let outer ← GivenArguments.nothing.addItems none items
  match left with
  | [] => throw .misuse
  | word :: rest =>
      match Subcommand.ofText? word with
      | none => throw (.ofWord word rest)
      | some subcommand =>
          let (items, _) := scanArguments (some subcommand) rest
          let inner ← GivenArguments.nothing.addItems (some subcommand) items
          let command ← inner.command subcommand
          let common : CommonArguments := ⟨outer, inner⟩
          return common.invocation command

end LateBinding
