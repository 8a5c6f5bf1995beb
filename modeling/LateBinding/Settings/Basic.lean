/-!
# Settings

Where modules are stored, how they are written, and what is logged.
-/

namespace LateBinding

/-- How much is logged, from the least to the most. -/
inductive LogLevel where
  /-- Errors alone. -/
  | error
  /-- Warnings too. -/
  | warn
  /-- Events of interest too. -/
  | info
  /-- Details too. -/
  | debug
  /-- Everything. -/
  | trace
  deriving DecidableEq, Repr, Inhabited

namespace LogLevel

/-- The rank of a level. -/
def rank : LogLevel → Nat
  | error => 0
  | warn => 1
  | info => 2
  | debug => 3
  | trace => 4

/-- The name of a level. -/
def text : LogLevel → String
  | error => "error"
  | warn => "warn"
  | info => "info"
  | debug => "debug"
  | trace => "trace"

/-- All levels. -/
def all : List LogLevel :=
  [error, warn, info, debug, trace]

/-- The level of a name. -/
def ofText? (name : String) : Option LogLevel :=
  all.find? fun level => level.text = name

/-- The level that logs more. -/
def louder (level other : LogLevel) : LogLevel :=
  if level.rank < other.rank then other else level

end LogLevel

/-- The form of log lines. -/
inductive LogFormat where
  /-- For people, over several lines. -/
  | pretty
  /-- For people, on one line. -/
  | compact
  /-- For tools. -/
  | json
  deriving DecidableEq, Repr, Inhabited

namespace LogFormat

/-- The name of a form. -/
def text : LogFormat → String
  | pretty => "pretty"
  | compact => "compact"
  | json => "json"

/-- All forms. -/
def all : List LogFormat :=
  [pretty, compact, json]

/-- The form of a name. -/
def ofText? (name : String) : Option LogFormat :=
  all.find? fun format => format.text = name

end LogFormat

/-- The phases in which a type is built, stored, loaded and called. -/
inductive Phase where
  /-- A type is described. -/
  | descriptor
  /-- Code is generated. -/
  | codegen
  /-- A module is stored. -/
  | store
  /-- A module is loaded. -/
  | loader
  /-- A member is called. -/
  | bridge
  deriving DecidableEq, Repr, Inhabited

namespace Phase

/-- The name of a phase. -/
def text : Phase → String
  | descriptor => "descriptor"
  | codegen => "codegen"
  | store => "store"
  | loader => "loader"
  | bridge => "bridge"

/-- All phases in their order. -/
def all : List Phase :=
  [descriptor, codegen, store, loader, bridge]

/-- The name under which a phase logs. -/
def target (phase : Phase) : String :=
  "kiln::" ++ phase.text

end Phase

/-- What is logged, and where. -/
structure LogSettings where
  /-- The level where nothing else is said. -/
  global : LogLevel
  /-- The level of describing types. -/
  descriptor : Option LogLevel
  /-- The level of generating code. -/
  codegen : Option LogLevel
  /-- The level of storing modules. -/
  store : Option LogLevel
  /-- The level of loading modules. -/
  loader : Option LogLevel
  /-- The level of calling members. -/
  bridge : Option LogLevel
  /-- The form of log lines. -/
  format : LogFormat
  /-- A file that is logged to besides. -/
  file : Option String
  deriving DecidableEq, Repr, Inhabited

namespace LogSettings

/-- The settings where nothing is said. -/
def standard : LogSettings where
  global := .warn
  descriptor := none
  codegen := none
  store := none
  loader := none
  bridge := none
  format := .pretty
  file := none

/-- The level that is set for a phase of its own. -/
def ownLevel (settings : LogSettings) : Phase → Option LogLevel
  | .descriptor => settings.descriptor
  | .codegen => settings.codegen
  | .store => settings.store
  | .loader => settings.loader
  | .bridge => settings.bridge

/-- The level of a phase. -/
def level (settings : LogSettings) (phase : Phase) : LogLevel :=
  (settings.ownLevel phase).getD settings.global

/-- The levels of targets: the phases and the command line. -/
def directives (settings : LogSettings) : List (String × LogLevel) :=
  ("kiln::cli", settings.global) ::
    Phase.all.map fun phase => (phase.target, settings.level phase)

/-- The longer of two targets with their levels. -/
def longerTarget (found : Option (String × LogLevel)) (directive : String × LogLevel) :
    Option (String × LogLevel) :=
  match found with
  | none => some directive
  | some (target, level) =>
      if target.length < directive.1.length then some directive else some (target, level)

/--
The level of a target: that of the longest target that it starts with, or else the global one.
-/
def targetLevel (settings : LogSettings) (target : String) : LogLevel :=
  let matching := settings.directives.filter fun directive =>
    directive.1.toList.isPrefixOf target.toList
  match matching.foldl longerTarget none with
  | some (_, level) => level
  | none => settings.global

/-- Whether something of a level is logged for a target. -/
def isEnabled (settings : LogSettings) (target : String) (level : LogLevel) : Bool :=
  level.rank ≤ (settings.targetLevel target).rank

end LogSettings

/-- The settings of an engine. -/
structure Settings where
  /-- The directory of the modules. -/
  moduleDirectory : String
  /-- The extension of the modules' files. -/
  moduleExtension : String
  /-- What is added to the path of a module while it is being written. -/
  temporarySuffix : String
  /-- What is logged. -/
  log : LogSettings
  deriving DecidableEq, Repr, Inhabited

/-- The settings where nothing is said. -/
def Settings.standard : Settings where
  moduleDirectory := "output"
  moduleExtension := "kmod"
  temporarySuffix := "tmp"
  log := .standard

end LateBinding
