import LateBinding.Engine
import LateBinding.Proofs.Loading.FirstLoad
import LateBinding.Proofs.Module.RoundTrip
import LateBinding.Storage.Memory

/-!
# Summaries and loading

A summary is made of the file at the path of a name, like a loaded type.  Loading asks besides that the name
is qualified and that the module declares it, and that the methods have a table.  So a summary can be of
another name, or of a file outside the directory of the modules; loading such a name fails.
-/

namespace LateBinding

/-- A summary tells of the members of an image. -/
structure ModuleSummary.Describes (summary : ModuleSummary) (image : ModuleImage) : Prop where
  typeName : summary.typeName = image.name
  fields : summary.fields = image.fields.map ModuleSummary.fieldLine
  methods : summary.methods = image.methods.map ModuleSummary.methodLine

/-- All that loading a name can come to where there is a summary of it. -/
inductive ModuleSummary.Allows (summary : ModuleSummary) (name path : String) :
    Except LoadError LoadedType → Prop
  | unqualified :
      isQualifiedName name = false →
      Allows summary name path (.error (.moduleNotFound name path))
  | otherName :
      isQualifiedName name = true →
      summary.typeName ≠ name →
      Allows summary name path (.error (.malformed name s!"module declares type {summary.typeName}"))
  | noTable {image : ModuleImage} {reason : String} :
      isQualifiedName name = true →
      summary.typeName = name →
      summary.Describes image →
      MethodTable.ofImage image = .error reason →
      Allows summary name path (.error (.malformed name reason))
  | loaded {type : LoadedType} :
      isQualifiedName name = true →
      summary.typeName = name →
      summary.Describes type.image →
      Allows summary name path (.ok type)

/-! ## Summaries of contents -/

variable {content : Bytes}

/-- The contents that are no module have no summary, and for the same reason. -/
theorem ModuleSummary.ofBytes_of_decode_error
    {error : ModuleError}
    (refused : ModuleImage.decode content = .error error) :
    ModuleSummary.ofBytes content = .error error := by
  unfold ModuleSummary.ofBytes
  cases opened : Container.decode content with
  | error fault =>
      -- Decoding the image starts with the container, so it has failed with the same fault.
      have same : ModuleImage.decode content = .error fault := by
        unfold ModuleImage.decode
        rw [opened]
        rfl
      obtain rfl := Except.error.inj (same.symm.trans refused)
      rfl
  | ok container =>
      rw [refused]
      rfl

theorem ModuleSummary.exists_ofBytes
    {image : ModuleImage}
    (decoded : ModuleImage.decode content = .ok image) :
    ∃ summary, ModuleSummary.ofBytes content = .ok summary ∧ summary.Describes image := by
  obtain ⟨container, opened, _⟩ := Outcome.bind_eq_ok_iff.mp decoded
  refine ⟨_, Outcome.bind_eq_ok_iff.mpr ⟨container, opened,
    Outcome.bind_eq_ok_iff.mpr ⟨image, decoded, rfl⟩⟩, rfl, rfl, rfl⟩

/-! ## Modules of a name -/

namespace World

variable {image : ModuleImage}

theorem readModule_of_decode_error
    (name : String)
    {error : ModuleError}
    (refused : ModuleImage.decode content = .error error) :
    readModule name content = .error (.malformed name error.message) := by
  rw [readModule, refused]
  rfl

theorem readModule_of_decode (name : String) (decoded : ModuleImage.decode content = .ok image) :
    readModule name content =
      if image.name ≠ name then .error (.malformed name s!"module declares type {image.name}")
      else ((MethodTable.ofImage image).mapError (LoadError.malformed name)).map (image, ·) := by
  simp only [readModule, decoded, Except.mapError, bind, Except.bind]
  by_cases named : image.name = name
  · rw [if_neg (not_not.mpr named), if_neg (not_not.mpr named)]
    cases MethodTable.ofImage image <;> rfl
  · rw [if_pos named, if_pos named]
    rfl

end World

/-! ## The two readers of a file -/

section Readers

variable {State : Type} (operations : FileOperations (StateM State)) (settings : Settings)
  (world : World) (name : String) (files : State)

namespace Settings

/-- The path of the module of a name. -/
def pathOf : String :=
  modulePath settings.moduleDirectory name settings.moduleExtension

/-- What a loader that has just been opened loads under a name. -/
def loadAnew : Except LoadError LoadedType :=
  let (id, opened) := world.openLoader settings.moduleDirectory settings.moduleExtension
  (opened.loadFile operations id name files).1.1

theorem fst_inspect :
    (settings.inspect operations name files).1 =
      match (operations.read (settings.pathOf name) files).1 with
      | .error cause => .error (.load (.ofFileError name (settings.pathOf name) cause))
      | .ok content => (ModuleSummary.ofBytes content).mapError fun error =>
          EngineError.load (.malformed name error.message) := by
  simp only [inspect, bind, StateT.bind, pathOf]
  rcases operations.read (modulePath settings.moduleDirectory name settings.moduleExtension) files with
    ⟨result, later⟩
  cases result <;> rfl

variable {name} in
theorem loadAnew_of_unqualified (unqualified : isQualifiedName name = false) :
    settings.loadAnew operations world name files =
      .error (.moduleNotFound name (settings.pathOf name)) := by
  simp only [loadAnew, World.loadFile, World.request, World.loader?_openLoader, List.lookup_nil,
    unqualified, Bool.false_eq_true, ↓reduceIte, pathOf]
  rfl

variable {name} in
theorem loadAnew_of_qualified (qualified : isQualifiedName name = true) :
    settings.loadAnew operations world name files =
      ((world.openLoader settings.moduleDirectory settings.moduleExtension).2.loadFrom
        (world.openLoader settings.moduleDirectory settings.moduleExtension).1 name
        (settings.pathOf name) (operations.read (settings.pathOf name) files).1).1 := by
  simp only [loadAnew, World.loadFile, World.request, World.loader?_openLoader, List.lookup_nil,
    qualified, Bool.false_eq_true, ↓reduceIte, pathOf]
  rfl

variable {settings name files} in
/-- Loading has no file where inspecting has none, and for the same reason. -/
theorem loadAnew_of_read_error
    {cause : FileError}
    (qualified : isQualifiedName name = true)
    (unreadable : (operations.read (settings.pathOf name) files).1 = .error cause) :
    settings.loadAnew operations world name files =
      .error (.ofFileError name (settings.pathOf name) cause) := by
  rw [loadAnew_of_qualified operations settings world files qualified, unreadable]
  rfl

variable {settings name files} in
theorem loadAnew_of_read_ok
    {content : Bytes}
    (qualified : isQualifiedName name = true)
    (readable : (operations.read (settings.pathOf name) files).1 = .ok content) :
    (settings.loadAnew operations world name files).map LoadedType.image =
      (World.readModule name content).map Prod.fst := by
  rw [loadAnew_of_qualified operations settings world files qualified, readable, World.loadFrom]
  cases accepted : World.readModule name content with
  | error error => rfl
  | ok both =>
      simp only [World.addType, World.loader?_openLoader]
      rfl

variable {name} in
/-- A file with a module is loaded unless the module is of another name or its methods have no table. -/
theorem allows_loadAnew
    {content : Bytes}
    {image : ModuleImage}
    {summary : ModuleSummary}
    (qualified : isQualifiedName name = true)
    (readable : (operations.read (settings.pathOf name) files).1 = .ok content)
    (decoded : ModuleImage.decode content = .ok image)
    (describes : summary.Describes image) :
    summary.Allows name (settings.pathOf name) (settings.loadAnew operations world name files) := by
  have loads := loadAnew_of_read_ok operations world qualified readable
  rw [World.readModule_of_decode name decoded, ← describes.typeName] at loads
  by_cases named : summary.typeName = name
  · rw [if_neg (not_not.mpr named)] at loads
    cases complete : MethodTable.ofImage image with
    | error reason =>
        rw [complete] at loads
        rw [Outcome.map_eq_error_iff.mp loads]
        exact .noTable qualified named describes complete
    | ok table =>
        rw [complete] at loads
        obtain ⟨type, loaded, same⟩ := Outcome.map_eq_ok_iff.mp loads
        rw [loaded]
        exact .loaded qualified named (same ▸ describes)
  · rw [if_pos named] at loads
    rw [Outcome.map_eq_error_iff.mp loads]
    exact .otherName qualified named

/--
A file is summarized and loaded alike but for the checks of loading: a name that is not qualified is not
found, a module of another name is refused, and so is one whose methods have no table.  Where there is no
summary of a qualified name, loading fails in the same way.
-/
theorem loadAnew_agrees_with_inspect :
    match (settings.inspect operations name files).1 with
    | .ok summary =>
        summary.Allows name (settings.pathOf name) (settings.loadAnew operations world name files)
    | .error error =>
        (settings.loadAnew operations world name files).mapError EngineError.load =
          .error (if isQualifiedName name then error
            else .load (.moduleNotFound name (settings.pathOf name))) := by
  cases qualified : isQualifiedName name with
  | false =>
      rw [loadAnew_of_unqualified operations settings world files qualified]
      split
      · exact .unqualified qualified
      · rfl
  | true =>
      have inspected := fst_inspect operations settings name files
      cases readable : (operations.read (settings.pathOf name) files).1 with
      | error cause =>
          rw [readable] at inspected
          rw [inspected, loadAnew_of_read_error operations world qualified readable]
          rfl
      | ok content =>
          rw [readable] at inspected
          dsimp only at inspected
          cases decoded : ModuleImage.decode content with
          | error fault =>
              have loads := loadAnew_of_read_ok operations world qualified readable
              rw [World.readModule_of_decode_error name decoded] at loads
              rw [ModuleSummary.ofBytes_of_decode_error decoded] at inspected
              rw [inspected, Outcome.map_eq_error_iff.mp loads]
              rfl
          | ok image =>
              obtain ⟨summary, made, describes⟩ := ModuleSummary.exists_ofBytes decoded
              rw [made] at inspected
              rw [inspected]
              exact allows_loadAnew operations settings world files qualified readable decoded describes

end Settings

end Readers

/-- A module in another place than that of its name, and one outside the directory of the modules. -/
def strayFiles : MemoryFiles :=
  .ofFiles [("output/Other.kmod", ModuleImage.labelImage.encode),
    ("/tmp/escape.kmod", ModuleImage.labelImage.encode)]

/-- The summaries of both files are given, under a name of another type and under no qualified name. -/
theorem inspect_strayFiles :
    ((Settings.standard.inspect MemoryFiles.operations "Other" strayFiles).1.map
        ModuleSummary.typeName).toOption = some "Label" ∧
      isQualifiedName "x./tmp/escape" = false ∧
      ((Settings.standard.inspect MemoryFiles.operations "x./tmp/escape" strayFiles).1.map
        ModuleSummary.typeName).toOption = some "Label" := by
  refine ⟨?_, ?_, ?_⟩ <;> decide +kernel

end LateBinding
