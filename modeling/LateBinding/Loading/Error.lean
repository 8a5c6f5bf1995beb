import LateBinding.Storage.Error

/-!
# Errors of loading

The ways in which a stored module cannot be loaded.
-/

namespace LateBinding

/-- Why a module cannot be loaded. -/
inductive LoadError where
  /-- There is no module of this name. -/
  | moduleNotFound (name path : String)
  /-- The file of the module is not a module of this name. -/
  | malformed (name reason : String)
  /-- The file of the module cannot be read. -/
  | file (path : String) (cause : FileError)
  /-- The loader is closed. -/
  | closed (loader : Nat)
  deriving DecidableEq, Repr, Inhabited

namespace LoadError

/-- The message of an error. -/
def message : LoadError → String
  | moduleNotFound name path => s!"Module {name} not found at {path}"
  | malformed name reason => s!"Malformed module {name}: {reason}"
  | file path cause => s!"I/O error reading {path}: {cause.message}"
  | closed loader => s!"Loader {loader} is closed"

/-- The kind of an error. -/
def kind : LoadError → String
  | moduleNotFound .. => "ModuleNotFound"
  | malformed .. => "FormatError"
  | file .. => "IOError"
  | closed .. => "UseAfterClose"

/-- A file error met while a module was read: a missing file is a missing module. -/
def ofFileError (name path : String) (cause : FileError) : LoadError :=
  if cause.isNotFound then moduleNotFound name path else file path cause

end LoadError
end LateBinding
