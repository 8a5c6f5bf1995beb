import LateBinding.Bytes.Word
import LateBinding.Storage.Error

/-!
# File operations

What storing and loading modules needs of a file system.  The operations run in a monad of the file
system's own: a state for the file systems that are values, the outside world for a real one.
-/

namespace LateBinding

/-- The operations of a file system. -/
structure FileOperations (World : Type → Type) where
  /-- The content of a file. -/
  read : String → World (Except FileError Bytes)
  /-- Makes a file of this content, whatever the file held before. -/
  write : String → Bytes → World (Except FileError Unit)
  /-- Makes a directory and all directories above it. -/
  createDirectories : String → World (Except FileError Unit)
  /-- Gives a file another path, at which it takes the place of what was there. -/
  rename : String → String → World (Except FileError Unit)
  /-- Removes a file. -/
  remove : String → World (Except FileError Unit)
  /-- Whether there is a file at a path. -/
  isFile : String → World Bool
  /-- Whether there is a directory at a path. -/
  isDirectory : String → World Bool

/-- Whether there is anything at a path. -/
def FileOperations.isThere
    {World : Type → Type}
    [Monad World]
    (files : FileOperations World)
    (path : String) :
    World Bool := do
  if ← files.isFile path then return true
  files.isDirectory path

end LateBinding
