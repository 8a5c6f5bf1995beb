import LateBinding.Json.Basic
import LateBinding.Module.Image

/-!
# Summaries of modules

What people and tools are told about a module: its header, its sections and its members.
-/

namespace LateBinding

/-- The summary of a module. -/
structure ModuleSummary where
  /-- The version of the format. -/
  version : String
  /-- The qualified name of the type. -/
  typeName : String
  /-- The number of bytes. -/
  size : Nat
  /-- The sections in the order of the directory. -/
  sections : SectionDirectory
  /-- The fields with their access levels and types. -/
  fields : List String
  /-- The signature of the constructor, with a mark when it was not declared. -/
  constructor : String
  /-- The methods with the types of their results. -/
  methods : List String
  /-- The number of bytes of the code section. -/
  codeSize : Nat
  deriving DecidableEq, Repr, Inhabited

namespace ModuleSummary

/-- A field in a summary. -/
def fieldLine (field : Field) : String :=
  s!"{field.visibility.text} {field.type.text} {field.name}"

/-- A method in a summary. -/
def methodLine (method : Member) : String :=
  s!"{method.result.text} {method.signature}"

/-- The summary of a module's bytes. -/
def ofBytes (bytes : Bytes) : Except ModuleError ModuleSummary := do
  let container ← Container.decode bytes
  let image ← ModuleImage.decode bytes
  return {
    version := container.header.versionText
    typeName := image.name
    size := bytes.length
    sections := container.directory
    fields := image.fields.map fieldLine
    constructor :=
      image.constructor.signature ++ (if image.explicitConstructor then "" else " (implicit)")
    methods := image.methods.map methodLine
    codeSize :=
      match container.read .codeData with
      | .ok code => code.length
      | .error _ => 0 }

/-- The lines of a summary. -/
def lines (summary : ModuleSummary) : List String :=
  ["Kiln Binary Module",
    s!"  Magic: {Header.moduleMagicText}",
    s!"  Version: {summary.version}",
    s!"  Type: {summary.typeName}",
    s!"  Total Size: {summary.size} bytes",
    s!"  Sections: {summary.sections.length}"] ++
  (summary.sections.map fun entry =>
    s!"    {entry.kind.text} @ {entry.offset} ({entry.size} bytes)") ++
  [s!"  Fields: {summary.fields.length}"] ++
  (summary.fields.map fun field => s!"    {field}") ++
  [s!"  Constructor: {summary.constructor}",
    s!"  Methods: {summary.methods.length}"] ++
  (summary.methods.map fun method => s!"    {method}") ++
  [s!"  Code Size: {summary.codeSize} bytes"]

/-- The text of a summary. -/
def text (summary : ModuleSummary) : String :=
  String.intercalate "\n" summary.lines

/-- A section in the JSON of a summary. -/
def sectionJson (entry : SectionEntry) : Json :=
  .ofEntries [("kind", .ofText entry.kind.text), ("offset", .ofNat entry.offset.toNat),
    ("size", .ofNat entry.size.toNat)]

/-- The JSON of a summary, its keys in alphabetical order. -/
def json (summary : ModuleSummary) : Json :=
  .ofEntries
    [("code_size", .ofNat summary.codeSize),
      ("constructor", .ofText summary.constructor),
      ("fields", .array (summary.fields.map .ofText)),
      ("magic", .ofText Header.moduleMagicText),
      ("methods", .array (summary.methods.map .ofText)),
      ("sections", .array (summary.sections.map sectionJson)),
      ("size", .ofNat summary.size),
      ("type", .ofText summary.typeName),
      ("version", .ofText summary.version)]

end ModuleSummary
end LateBinding
