import LateBinding.Json.Reader
import LateBinding.Settings.Basic

/-!
# Reading settings

Settings are written in JSON.  A group of settings is an object with the names of its settings, or
an array of their values in a fixed order.  What is left out keeps its standard value and unknown
names are passed over, but no name may be given twice.
-/

namespace LateBinding

namespace Json

/-- One setting of a group: its name, and how a value of it changes the group. -/
structure GroupEntry (Group : Type) where
  /-- The name. -/
  name : String
  /-- The group with a value for the setting, if the value fits it. -/
  assign : Json → Group → Option Group

/-- A setting whose value is read by itself. -/
def GroupEntry.of
    {Group Setting : Type}
    (name : String)
    (read : Json → Option Setting)
    (update : Setting → Group → Group) :
    GroupEntry Group where
  name := name
  assign json group := (read json).map fun setting => update setting group

/-- A group after the entries of an object, when names have been given before. -/
def readGroupEntries
    {Group : Type}
    (known : List (GroupEntry Group)) :
    List String → Group → List (List Char × Json) → Option Group
  | _, group, [] => some group
  | given, group, (key, value) :: rest =>
      match unescape? key with
      | none => none
      | some characters =>
          let name := String.ofList characters
          match known.find? fun entry => entry.name = name with
          | none => readGroupEntries known given group rest
          | some entry =>
              if given.contains name then none
              else
                match entry.assign value group with
                | none => none
                | some changed => readGroupEntries known (name :: given) changed rest

/-- A group after the items of an array, which belong to settings in their order. -/
def readGroupItems {Group : Type} :
    List (GroupEntry Group) → Group → List Json → Option Group
  | _, group, [] => some group
  | [], _, _ :: _ => none
  | entry :: known, group, item :: rest =>
      match entry.assign item group with
      | none => none
      | some changed => readGroupItems known changed rest

/-- A group of settings on top of its standard values. -/
def readGroup?
    {Group : Type}
    (known : List (GroupEntry Group))
    (standard : Group) :
    Json → Option Group
  | object entries => readGroupEntries known [] standard entries
  | array items => readGroupItems known standard items
  | _ => none

/-- A choice by name: a string, or an object with the name as its only key and the value `null`. -/
def readChoice? {Choice : Type} (choose : String → Option Choice) : Json → Option Choice
  | object [(key, null)] => ((unescape? key).map String.ofList).bind choose
  | json => json.text?.bind choose

/-- A setting that can be left open with `null`. -/
def readOptional? {Setting : Type} (read : Json → Option Setting) : Json → Option (Option Setting)
  | null => some none
  | json => (read json).map some

end Json

open Json

/-- The level of logging. -/
def LogLevel.read? : Json → Option LogLevel :=
  readChoice? LogLevel.ofText?

/-- The settings of logging in their order. -/
def LogSettings.entries : List (GroupEntry LogSettings) :=
  let optionalLevel := readOptional? LogLevel.read?
  [.of "global" LogLevel.read? fun level group => { group with global := level },
    .of "descriptor" optionalLevel fun level group => { group with descriptor := level },
    .of "codegen" optionalLevel fun level group => { group with codegen := level },
    .of "store" optionalLevel fun level group => { group with store := level },
    .of "loader" optionalLevel fun level group => { group with loader := level },
    .of "bridge" optionalLevel fun level group => { group with bridge := level },
    .of "format" (readChoice? LogFormat.ofText?) fun format group =>
      { group with format := format },
    .of "file" (readOptional? Json.text?) fun file group => { group with file := file }]

/-- The settings of writing in their order. -/
def Settings.writeEntries : List (GroupEntry String) :=
  [.of "temp_suffix" Json.text? fun suffix _ => suffix]

/-- The settings of an engine in their order. -/
def Settings.entries : List (GroupEntry Settings) :=
  [.of "module_dir" Json.text? fun directory group => { group with moduleDirectory := directory },
    .of "module_ext" Json.text? fun extension group => { group with moduleExtension := extension },
    .of "write" (readGroup? Settings.writeEntries Settings.standard.temporarySuffix)
      fun suffix group => { group with temporarySuffix := suffix },
    .of "log" (readGroup? LogSettings.entries LogSettings.standard) fun log group =>
      { group with log := log }]

/-- The settings that a text denotes. -/
def Settings.parse? (text : String) : Option Settings :=
  (Json.parse? text).bind (readGroup? Settings.entries Settings.standard)

end LateBinding
