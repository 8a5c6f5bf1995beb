import LateBinding.Descriptor.Name

/-!
# Paths

Paths are texts with slashes between their parts.  They are joined and shortened as they are
written, and the module of a qualified name lies at the path of its segments.
-/

namespace LateBinding

open Text

namespace Path

/-- A path is absolute when it starts with a slash. -/
def isAbsolute (path : List Char) : Bool :=
  path.head? = some '/'

/--
A path with another one behind it.  An absolute path stands alone; otherwise a slash separates the
two unless the first is empty or ends with one.
-/
def push (path part : List Char) : List Char :=
  if isAbsolute part then part
  else if path.isEmpty || path.getLast? = some '/' then path ++ part
  else path ++ '/' :: part

/-- A part that names nothing of its own: an empty one, or a point for the directory itself. -/
def isBlank (part : List Char) : Bool :=
  part = [] || part = ['.']

/-- Parts without the blank ones at the end. -/
def withoutBlanks (parts : List (List Char)) : List (List Char) :=
  (parts.reverse.dropWhile isBlank).reverse

/-- The front of a path that is no part of its own: the root, or a point for the directory. -/
def splitFront : List Char → List Char × List Char
  | '/' :: rest => (['/'], rest)
  | ['.'] => (['.'], [])
  | '.' :: '/' :: rest => (['.'], '/' :: rest)
  | path => ([], path)

/--
The path of the directory that holds a path.  Blank parts at the end are not counted.  The root and
the empty path lie in no directory.
-/
def parent? (path : List Char) : Option (List Char) :=
  let (front, body) := splitFront path
  let parts := withoutBlanks (splitOn '/' body)
  if parts.isEmpty then
    if front = ['.'] then some [] else none
  else some (front ++ joinWith '/' (withoutBlanks parts.dropLast))

end Path

/-- The path of segments below a directory, the last of which gets an extension. -/
def segmentPath (extension : List Char) (directory : List Char) : List (List Char) → List Char
  | [] => directory
  | [last] => Path.push directory (last ++ '.' :: extension)
  | segment :: rest => segmentPath extension (Path.push directory segment) rest

/-- The path of the module of a name in a directory. -/
def modulePath (directory name extension : String) : String :=
  String.ofList (segmentPath extension.toList directory.toList (nameSegments name))

/-- The path under which a module is written before it gets its own. -/
def temporaryPath (path suffix : String) : String :=
  path ++ "." ++ suffix

/-- The path of the directory that holds a path. -/
def parentPath? (path : String) : Option String :=
  (Path.parent? path.toList).map String.ofList

end LateBinding
