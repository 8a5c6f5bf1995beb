import LateBinding.Lowering
import LateBinding.Storage.Files
import LateBinding.Storage.Path

/-!
# Storing modules

A module is stored at the path of its name.  It is written under another path first and then given
its own, so that a failure leaves what was stored before; what has been written is removed again.
-/

namespace LateBinding

variable {World : Type → Type} [Monad World]

/-- How modules are stored. -/
structure StoreOptions where
  /-- The extension of a module's file. -/
  extension : String
  /-- What is added to the path of a module while it is being written. -/
  temporarySuffix : String
  deriving DecidableEq, Repr, Inhabited

/-- Writes a file under a temporary path and gives it its own. -/
def replaceFile
    (files : FileOperations World)
    (temporary path : String)
    (content : Bytes) :
    World (Except FileError Unit) := do
  match ← files.write temporary content with
  | .error cause => return .error cause
  | .ok () => files.rename temporary path

/-- Makes the directory that holds a path. -/
def createParent
    (files : FileOperations World)
    (path : String) :
    World (Except FileError Unit) :=
  match parentPath? path with
  | none => return .ok ()
  | some parent => files.createDirectories parent

/-- Removes a file if there is one; a failure to do so is passed over. -/
def removeIfThere (files : FileOperations World) (path : String) : World Unit := do
  if ← files.isThere path then
    let _ ← files.remove path

/-- Writes a file and the directories above it, and leaves nothing behind if it fails. -/
def writeAtomically
    (files : FileOperations World)
    (temporary path : String)
    (content : Bytes) :
    World (Except FileError Unit) := do
  match ← createParent files path with
  | .error cause => return .error cause
  | .ok () =>
      match ← replaceFile files temporary path content with
      | .ok () => return .ok ()
      | .error cause => do
          removeIfThere files temporary
          return .error cause

/-- Stores a module in a directory, and returns its path. -/
def storeModule
    (files : FileOperations World)
    (options : StoreOptions)
    (directory : String)
    (module : PackedModule) :
    World (Except StoreError String) := do
  match qualifiedNameFault? module.name with
  | some reason => return .error (.invalidName module.name reason)
  | none =>
      let path := modulePath directory module.name options.extension
      let temporary := temporaryPath path options.temporarySuffix
      match ← writeAtomically files temporary path module.bytes with
      | .ok () => return .ok path
      | .error cause => return .error (.file path cause)

end LateBinding
