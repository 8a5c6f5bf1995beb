import LateBinding.Calling.Call
import LateBinding.Module.Summary
import LateBinding.Report
import LateBinding.Settings.Basic
import LateBinding.Storage.Store

/-!
# The engine

All of it together: types are built and stored, modules are summarized, and a member is called in
one go, with a loader that is opened for the call and closed after it.
-/

namespace LateBinding

variable {Files : Type → Type} [Monad Files]

/-- The module of a description. -/
def TypeDescription.build (description : TypeDescription) : Except EngineError PackedModule := do
  let frozen ← description.freeze.mapError EngineError.build
  frozen.generate.mapError EngineError.build

namespace Settings

/-- How modules are stored. -/
def storeOptions (settings : Settings) : StoreOptions where
  extension := settings.moduleExtension
  temporarySuffix := settings.temporarySuffix

/-- Stores a module, and returns its path. -/
def write
    (settings : Settings)
    (files : FileOperations Files)
    (module : PackedModule) :
    Files (Except EngineError String) := do
  let result ← storeModule files settings.storeOptions settings.moduleDirectory module
  return result.mapError EngineError.store

/-- Builds and stores a type, and returns the path of its module. -/
def publish
    (settings : Settings)
    (files : FileOperations Files)
    (description : TypeDescription) :
    Files (Except EngineError String) := do
  match description.build with
  | .error error => return .error error
  | .ok module => settings.write files module

/-- The summary of the stored module of a name. -/
def inspect
    (settings : Settings)
    (files : FileOperations Files)
    (name : String) :
    Files (Except EngineError ModuleSummary) := do
  let path := modulePath settings.moduleDirectory name settings.moduleExtension
  match ← files.read path with
  | .error cause => return .error (.load (.ofFileError name path cause))
  | .ok content =>
      return (ModuleSummary.ofBytes content).mapError fun error =>
        EngineError.load (.malformed name error.message)

end Settings

namespace World

/-- Loads the type of a name with a loader from the files of a file system. -/
def loadFile
    (world : World)
    (files : FileOperations Files)
    (id : LoaderId)
    (name : String) :
    Files (Except LoadError LoadedType × World) := do
  match world.request id name with
  | .error error => return (.error error, world)
  | .ok (.known type) => return (.ok type, world)
  | .ok (.unread path) => return world.loadFrom id name path (← files.read path)

/-- Constructs an object and calls a method of it. -/
def constructAndInvoke
    (world : World)
    (type : LoadedType)
    (constructorArguments : List Value)
    (method : String)
    (arguments : List Value) :
    Except CallError Value × World :=
  match world.construct type constructorArguments with
  | (.error error, after) => (.error error, after)
  | (.ok reference, after) => after.invoke reference method arguments

/--
Loads a type, constructs an object and calls a method of it, all with a loader of its own that is
closed in the end.
-/
def run
    (world : World)
    (files : FileOperations Files)
    (settings : Settings)
    (name : String)
    (constructorArguments : List Value)
    (method : String)
    (arguments : List Value) :
    Files (Except EngineError Value × World) := do
  let (loader, opened) := world.openLoader settings.moduleDirectory settings.moduleExtension
  match ← opened.loadFile files loader name with
  | (.error error, after) => return (.error (.load error), after.closeLoader loader)
  | (.ok type, loaded) =>
      let (result, after) := loaded.constructAndInvoke type constructorArguments method arguments
      return (result.mapError EngineError.call, after.closeLoader loader)

end World
end LateBinding
