import LateBinding.Bytes.Word
import LateBinding.Settings.Reader
import LateBinding.Storage.Error

/-!
# Overriding settings

The settings of a command: those of a file, if one is named, with what the command line says on top
of them.
-/

namespace LateBinding

/-- What a command line says about settings. -/
structure Overrides where
  /-- The directory of the modules. -/
  moduleDirectory : Option String
  /-- How many times more logging is asked for. -/
  verbosity : Nat
  /-- Whether nothing but errors is to be logged. -/
  quiet : Bool
  /-- The form of log lines. -/
  logFormat : Option LogFormat
  /-- A file that is logged to besides. -/
  logFile : Option String
  deriving DecidableEq, Repr, Inhabited

/-- The level that is asked for by asking so many times. -/
def verbosityLevel? : Nat → Option LogLevel
  | 0 => none
  | 1 => some .info
  | 2 => some .debug
  | _ => some .trace

/-- The global level of a command. -/
def Overrides.globalLevel (overrides : Overrides) (configured : LogLevel) : LogLevel :=
  if overrides.quiet then .error
  else
    match verbosityLevel? overrides.verbosity with
    | none => configured
    | some level => configured.louder level

/-- Settings with what a command line says on top of them. -/
def Overrides.apply (overrides : Overrides) (settings : Settings) : Settings :=
  { settings with
    moduleDirectory := overrides.moduleDirectory.getD settings.moduleDirectory
    log := { settings.log with
      global := overrides.globalLevel settings.log.global
      format := overrides.logFormat.getD settings.log.format
      file := overrides.logFile.or settings.log.file } }

/-- Why settings cannot be read. -/
inductive SettingsError where
  /-- The file cannot be read. -/
  | unreadable (cause : String)
  /-- The text is not one of settings. -/
  | malformed
  deriving DecidableEq, Repr, Inhabited

/-- The message of an error. -/
def SettingsError.message : SettingsError → String
  | unreadable cause => s!"Cannot read config: {cause}"
  | malformed => "Invalid config"

/-- The settings of a file's content. -/
def Settings.ofContent (content : Bytes) : Except SettingsError Settings :=
  match Bytes.text? content with
  | none => .error (.unreadable "stream did not contain valid UTF-8")
  | some text =>
      match Settings.parse? text with
      | none => .error .malformed
      | some settings => .ok settings

/-- The settings of a command whose file, if one is named, has a content or a reason for none. -/
def resolveSettings
    (file : Option (Except String Bytes))
    (overrides : Overrides) :
    Except SettingsError Settings := do
  let settings ←
    match file with
    | none => pure Settings.standard
    | some (.error cause) => throw (.unreadable cause)
    | some (.ok content) => Settings.ofContent content
  return overrides.apply settings

end LateBinding
