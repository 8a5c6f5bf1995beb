/-!
# Errors of storing

The ways in which a file operation fails, and the ways in which a module cannot be stored.
-/

namespace LateBinding

/-- Why a file operation failed. -/
inductive FileError where
  /-- There is nothing at the path. -/
  | notFound (path : String)
  /-- The file system may not be changed or read there. -/
  | permissionDenied (path : String)
  /-- The path cannot be used in this way. -/
  | invalidPath (path reason : String)
  /-- Another failure. -/
  | other (description : String)
  deriving DecidableEq, Repr, Inhabited

namespace FileError

/-- The message of an error. -/
def message : FileError → String
  | notFound path => s!"Path not found: {path}"
  | permissionDenied path => s!"Permission denied: {path}"
  | invalidPath path reason => s!"Invalid path '{path}': {reason}"
  | other description => s!"IO error: {description}"

/-- The kind of an error. -/
def kind : FileError → String
  | notFound _ => "NotFound"
  | permissionDenied _ => "PermissionDenied"
  | invalidPath .. => "InvalidPath"
  | other _ => "Io"

/-- Whether nothing was found at the path. -/
def isNotFound : FileError → Bool
  | notFound _ => true
  | _ => false

end FileError

/-- Why a module cannot be stored. -/
inductive StoreError where
  /-- The module's name is not a qualified name, so it has no path. -/
  | invalidName (name reason : String)
  /-- A file operation failed while the module was written to a path. -/
  | file (path : String) (cause : FileError)
  deriving DecidableEq, Repr, Inhabited

namespace StoreError

/-- The message of an error. -/
def message : StoreError → String
  | invalidName name reason => s!"Cannot write module '{name}': {reason}"
  | file path cause => s!"I/O error writing {path}: {cause.message}"

/-- The kind of an error. -/
def kind : StoreError → String
  | invalidName .. => "InvalidName"
  | file .. => "IOError"

/-- The file error behind an error. -/
def cause? : StoreError → Option FileError
  | invalidName .. => none
  | file _ cause => some cause

end StoreError
end LateBinding
