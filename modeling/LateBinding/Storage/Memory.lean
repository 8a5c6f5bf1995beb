import LateBinding.Storage.Files
import LateBinding.Text.Split

/-!
# Files in memory

A file system that is a value: files with their contents, and the directories that have been made.
A file needs no directory around it.  Backslashes in paths count as slashes, and one slash at the
end of a path is not counted.
-/

namespace LateBinding

/-- The files and directories in memory. -/
structure MemoryFiles where
  /-- The files with their contents. -/
  files : List (String × Bytes)
  /-- The directories. -/
  directories : List String
  /-- Whether every change is refused. -/
  isReadOnly : Bool
  deriving DecidableEq, Repr, Inhabited

namespace MemoryFiles

/-- A memory without files. -/
def empty : MemoryFiles :=
  ⟨[], [], false⟩

/-- A path with slashes for its backslashes. -/
def forwardSlashes (path : List Char) : List Char :=
  path.map fun character => if character = '\\' then '/' else character

/-- A path without a slash at its end, unless it is nothing but that slash. -/
def withoutFinalSlash (path : List Char) : List Char :=
  if path.getLast? = some '/' && path.dropLast ≠ [] then path.dropLast else path

/-- The form of a path under which a file or directory is kept. -/
def normalize (path : String) : String :=
  String.ofList (withoutFinalSlash (forwardSlashes path.toList))

/-- The content of the file of a key. -/
def content? (memory : MemoryFiles) (key : String) : Option Bytes :=
  memory.files.lookup key

/-- Files with a content at a key, in place of what was there. -/
def insertFile (key : String) (content : Bytes) : List (String × Bytes) → List (String × Bytes)
  | [] => [(key, content)]
  | (other, held) :: rest =>
      if other = key then (key, content) :: rest
      else (other, held) :: insertFile key content rest

/-- Files without the one of a key. -/
def eraseFile (key : String) (files : List (String × Bytes)) : List (String × Bytes) :=
  files.filter fun entry => entry.1 ≠ key

/-- A memory with given files, of which only the backslashes are looked at. -/
def ofFiles (files : List (String × Bytes)) : MemoryFiles :=
  { empty with
    files := files.foldl
      (fun kept (path, content) =>
        insertFile (String.ofList (forwardSlashes path.toList)) content kept)
      [] }

/-- The keys of all files in increasing order. -/
def paths (memory : MemoryFiles) : List String :=
  (memory.files.map Prod.fst).mergeSort

/-- A change that is made unless the memory is read-only. -/
def change
    (memory : MemoryFiles)
    (key : String)
    (make : Except FileError Unit × MemoryFiles) :
    Except FileError Unit × MemoryFiles :=
  if memory.isReadOnly then (.error (.permissionDenied key), memory) else make

/-- The content of the file at a path. -/
def read (memory : MemoryFiles) (path : String) : Except FileError Bytes :=
  let key := normalize path
  match memory.content? key with
  | some content => .ok content
  | none => .error (.notFound key)

/-- Makes a file, which cannot be where a directory is. -/
def write
    (memory : MemoryFiles)
    (path : String)
    (content : Bytes) :
    Except FileError Unit × MemoryFiles :=
  let key := normalize path
  memory.change key <|
    if memory.directories.contains key then
      (.error (.invalidPath key "is a directory"), memory)
    else (.ok (), { memory with files := insertFile key content memory.files })

/-- Directories with one more. -/
def insertDirectory (key : String) (directories : List String) : List String :=
  if directories.contains key then directories else key :: directories

/--
Makes directories from the top to the bottom, and stops at the first that is a file.  The empty
path and the root are not kept.
-/
def addDirectories (memory : MemoryFiles) : List String → Except FileError Unit × MemoryFiles
  | [] => (.ok (), memory)
  | key :: rest =>
      if key = "" || key = "/" then memory.addDirectories rest
      else if (memory.content? key).isSome then (.error (.invalidPath key "is a file"), memory)
      else
        { memory with directories := insertDirectory key memory.directories }.addDirectories rest

/-- The paths of the first part, the first two parts, and so on, behind a path. -/
def ancestorsFrom (above : List Char) : List (List Char) → List (List Char)
  | [] => []
  | part :: rest =>
      let path := above ++ '/' :: part
      path :: ancestorsFrom path rest

/-- The paths of all directories above a path and of the path itself, from the top down. -/
def ancestors (path : List Char) : List (List Char) :=
  match Text.splitOn '/' path with
  | [] => []
  | first :: rest => first :: ancestorsFrom first rest

/-- Makes a directory and all directories above it. -/
def createDirectories
    (memory : MemoryFiles)
    (path : String) :
    Except FileError Unit × MemoryFiles :=
  let key := normalize path
  memory.change key (memory.addDirectories ((ancestors key.toList).map String.ofList))

/-- Gives a file another path; what was there is replaced. -/
def rename
    (memory : MemoryFiles)
    (source target : String) :
    Except FileError Unit × MemoryFiles :=
  let sourceKey := normalize source
  let targetKey := normalize target
  memory.change targetKey <|
    match memory.content? sourceKey with
    | none => (.error (.notFound sourceKey), memory)
    | some content =>
        (.ok (),
          { memory with
            files := insertFile targetKey content (eraseFile sourceKey memory.files) })

/-- Removes a file. -/
def remove (memory : MemoryFiles) (path : String) : Except FileError Unit × MemoryFiles :=
  let key := normalize path
  memory.change key <|
    match memory.content? key with
    | none => (.error (.notFound key), memory)
    | some _ => (.ok (), { memory with files := eraseFile key memory.files })

/-- Whether there is a file at a path. -/
def isFile (memory : MemoryFiles) (path : String) : Bool :=
  (memory.content? (normalize path)).isSome

/-- Whether there is a directory at a path. -/
def isDirectory (memory : MemoryFiles) (path : String) : Bool :=
  memory.directories.contains (normalize path)

/-- Files in memory as a file system. -/
def operations : FileOperations (StateM MemoryFiles) where
  read path := fun memory => (memory.read path, memory)
  write path content := fun memory => memory.write path content
  createDirectories path := fun memory => memory.createDirectories path
  rename source target := fun memory => memory.rename source target
  remove path := fun memory => memory.remove path
  isFile path := fun memory => (memory.isFile path, memory)
  isDirectory path := fun memory => (memory.isDirectory path, memory)

end MemoryFiles
end LateBinding
