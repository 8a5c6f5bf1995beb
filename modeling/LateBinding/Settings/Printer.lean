import LateBinding.Json.Basic
import LateBinding.Settings.Basic

/-!
# Writing settings

The settings in JSON, every one of them by its name.  A setting that is left open is `null`.
-/

namespace LateBinding

/-- A setting that can be left open. -/
def Json.ofOptional (text : Option String) : Json :=
  match text with
  | none => .null
  | some text => .ofText text

/-- The level that is set for a phase of its own. -/
def LogSettings.levelJson (settings : LogSettings) (phase : Phase) : String × Json :=
  (phase.text, .ofOptional ((settings.ownLevel phase).map LogLevel.text))

/-- The settings of logging. -/
def LogSettings.json (settings : LogSettings) : Json :=
  .ofEntries
    ([("global", .ofText settings.global.text)] ++ Phase.all.map settings.levelJson ++
      [("format", .ofText settings.format.text), ("file", .ofOptional settings.file)])

/-- The settings of an engine. -/
def Settings.json (settings : Settings) : Json :=
  .ofEntries
    [("module_dir", .ofText settings.moduleDirectory),
      ("module_ext", .ofText settings.moduleExtension),
      ("write", .ofEntries [("temp_suffix", .ofText settings.temporarySuffix)]),
      ("log", settings.log.json)]

end LateBinding
