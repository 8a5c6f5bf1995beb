import LateBinding.Settings.Basic

/-!
# Options of the command line

The subcommands, and the options with the places where they can be given.  The common options can
be given in front of the subcommand and behind it.
-/

namespace LateBinding

/-- The form in which a command tells of its failure. -/
inductive ErrorFormat where
  /-- A line for people, and the member concerned on a second one. -/
  | human
  /-- JSON for tools. -/
  | json
  deriving DecidableEq, Repr, Inhabited

/-- The form of a name. -/
def ErrorFormat.ofText? : String → Option ErrorFormat
  | "human" => some human
  | "json" => some json
  | _ => none

/-- The subcommands. -/
inductive Subcommand where
  /-- Builds the sample type and runs it. -/
  | demo
  /-- Prints the summary of a module. -/
  | inspect
  /-- Loads a type, constructs an object and calls a method of it. -/
  | run
  deriving DecidableEq, Repr, Inhabited

namespace Subcommand

/-- The subcommand of a name. -/
def ofText? : String → Option Subcommand
  | "demo" => some demo
  | "inspect" => some inspect
  | "run" => some run
  | _ => none

/-- Whether one more word can follow a number of words behind a subcommand. -/
def takesWord (wordCount : Nat) : Subcommand → Bool
  | demo => false
  | inspect => wordCount < 1
  | run => true

end Subcommand

/-- The options. -/
inductive OptionName where
  /-- The file of the settings. -/
  | settingsFile
  /-- The directory of the modules. -/
  | moduleDirectory
  /-- More logging; asking again asks for still more. -/
  | verbose
  /-- No logging but of errors. -/
  | quiet
  /-- The form of log lines. -/
  | logFormat
  /-- A file that is logged to besides. -/
  | logFile
  /-- The form in which failures are told. -/
  | errorFormat
  /-- The summary as JSON. -/
  | json
  /-- An argument of the constructor; all of them are taken in their order. -/
  | constructorArgument
  /-- Tells how the program is used. -/
  | help
  /-- Tells the program's version. -/
  | version
  deriving DecidableEq, Repr, Inhabited

namespace OptionName

/-- All options. -/
def all : List OptionName :=
  [settingsFile, moduleDirectory, verbose, quiet, logFormat, logFile, errorFormat, json,
    constructorArgument, help, version]

/-- The name behind two dashes. -/
def text : OptionName → String
  | settingsFile => "config"
  | moduleDirectory => "dir"
  | verbose => "verbose"
  | quiet => "quiet"
  | logFormat => "log-format"
  | logFile => "log-file"
  | errorFormat => "error-format"
  | json => "json"
  | constructorArgument => "ctor-arg"
  | help => "help"
  | version => "version"

/-- The letter behind one dash. -/
def letter? : OptionName → Option Char
  | verbose => some 'v'
  | quiet => some 'q'
  | help => some 'h'
  | version => some 'V'
  | _ => none

/-- Whether an option has a value. -/
def takesValue : OptionName → Bool
  | settingsFile => true
  | moduleDirectory => true
  | logFormat => true
  | logFile => true
  | errorFormat => true
  | constructorArgument => true
  | _ => false

/-- Whether the value of an option can be an argument that starts with a dash. -/
def takesDashes : OptionName → Bool
  | constructorArgument => true
  | _ => false

/-- Whether an option can be given several times in one place. -/
def isRepeatable : OptionName → Bool
  | verbose => true
  | constructorArgument => true
  | _ => false

/-- Whether a value suits an option: paths are not empty, and forms are known. -/
def acceptsValue (value : String) : OptionName → Bool
  | settingsFile => value ≠ ""
  | moduleDirectory => value ≠ ""
  | logFile => value ≠ ""
  | logFormat => (LogFormat.ofText? value).isSome
  | errorFormat => (ErrorFormat.ofText? value).isSome
  | _ => true

/-- Whether an option can be given behind a subcommand, or in front of all of them. -/
def belongsTo (place : Option Subcommand) : OptionName → Bool
  | json => place = some .inspect
  | constructorArgument => place = some .run
  | version => place = none
  | _ => true

/-- The option of a name in a place. -/
def ofText? (place : Option Subcommand) (name : String) : Option OptionName :=
  all.find? fun option => option.belongsTo place && option.text = name

/-- The option of a letter in a place. -/
def ofLetter? (place : Option Subcommand) (letter : Char) : Option OptionName :=
  all.find? fun option => option.belongsTo place && option.letter? = some letter

end OptionName
end LateBinding
