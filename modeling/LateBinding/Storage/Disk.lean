import LateBinding.Storage.Files
import LateBinding.Storage.Path

/-!
# A disk

A file system with folders that hold what lies in them, working directory included.  Folders are
numbered and know the folder above them, so a path is walked part by part: a point stays in the
folder, two points go up, a name has to be that of a folder unless it is the last part.  Every
operation fails with the number and the text of its cause.
-/

namespace LateBinding

open Text

/-- Why a disk refuses an operation. -/
inductive DiskFault where
  /-- A part of the path is not there. -/
  | missing
  /-- A root or a point cannot be renamed. -/
  | busy
  /-- There is something at the path. -/
  | exists
  /-- A part of the path that should be a directory is a file. -/
  | notDirectory
  /-- The path is that of a directory. -/
  | isDirectory
  /-- A directory cannot become part of itself. -/
  | invalid
  /-- The path has 4096 bytes or more, or a part of it has more than 255. -/
  | nameTooLong
  /-- The directory is not empty. -/
  | notEmpty
  /-- The path has a zero character. -/
  | zeroCharacter
  deriving DecidableEq, Repr, Inhabited

/-- The text of a fault. -/
def DiskFault.text : DiskFault → String
  | missing => "No such file or directory (os error 2)"
  | busy => "Device or resource busy (os error 16)"
  | .exists => "File exists (os error 17)"
  | notDirectory => "Not a directory (os error 20)"
  | isDirectory => "Is a directory (os error 21)"
  | invalid => "Invalid argument (os error 22)"
  | nameTooLong => "File name too long (os error 36)"
  | notEmpty => "Directory not empty (os error 39)"
  | zeroCharacter => "file name contained an unexpected NUL byte"

/-- A fault at a path. -/
def FileError.ofFault (path : String) : DiskFault → FileError
  | .missing => .notFound path
  | fault => .other s!"{path}: {fault.text}"

/-- A name in a folder. -/
abbrev FileName :=
  List Char

/-- What a name in a folder stands for. -/
inductive FolderEntry where
  /-- A file. -/
  | file (content : Bytes)
  /-- The folder of a number. -/
  | folder (number : Nat)
  deriving DecidableEq, Repr, Inhabited

/-- A folder of a disk. -/
structure Folder where
  /-- The number of the folder above; the root is above itself. -/
  above : Nat
  /-- What lies in the folder, by name. -/
  entries : List (FileName × FolderEntry)
  deriving DecidableEq, Repr, Inhabited

/-- The entry of a name. -/
def Folder.find? (folder : Folder) (name : FileName) : Option FolderEntry :=
  folder.entries.lookup name

/-- The folder without a name. -/
def Folder.erase (folder : Folder) (name : FileName) : Folder :=
  { folder with entries := folder.entries.filter fun entry => entry.1 ≠ name }

/-- The folder with an entry in place of what had its name. -/
def Folder.insert (folder : Folder) (name : FileName) (entry : FolderEntry) : Folder :=
  { folder with entries := (name, entry) :: (folder.erase name).entries }

/-- The folders of a disk. -/
structure Disk where
  /-- The folders by number, of which the root is the first. -/
  folders : Array Folder
  /-- The folder from which relative paths start. -/
  workingDirectory : Nat
  deriving DecidableEq, Repr, Inhabited

/-- A path as it is walked. -/
structure Walk where
  /-- Whether it starts at the root. -/
  fromRoot : Bool
  /-- The parts that are not empty. -/
  parts : List FileName
  /-- Whether a slash follows the last part. -/
  endsWithSlash : Bool

/-- The walk of a path. -/
def Walk.of (path : List Char) : Walk where
  fromRoot := Path.isAbsolute path
  parts := (splitOn '/' path).filter (· ≠ [])
  endsWithSlash := path.getLast? = some '/'

/-- Where a walk ends: the name of something in a folder, or a folder that was walked through. -/
inductive WalkEnd where
  /-- A name in a folder, and whether a slash follows it. -/
  | name (folder : Nat) (name : FileName) (endsWithSlash : Bool)
  /-- A folder without a name of its own: the root, a point or two points. -/
  | folder (number : Nat)

/-- A path has fewer bytes than this. -/
def pathByteLimit : Nat := 4096

/-- Asks that a path can be walked at all: no zero character in it, not too long, not empty. -/
def requireWalkable (path : String) : Except DiskFault Unit :=
  if path.contains '\x00' then .error .zeroCharacter
  else if pathByteLimit ≤ path.utf8ByteSize then .error .nameTooLong
  else if path = "" then .error .missing
  else .ok ()

namespace Disk

/-- A disk with nothing but an empty working directory. -/
def empty : Disk where
  folders := #[⟨0, [("work".toList, .folder 1)]⟩, ⟨0, []⟩]
  workingDirectory := 1

/-- What a name in a folder stands for; a name has at most 255 bytes. -/
def lookup
    (disk : Disk)
    (folder : Nat)
    (name : FileName) :
    Except DiskFault (Option FolderEntry) :=
  if 255 < (String.ofList name).utf8ByteSize then .error .nameTooLong
  else .ok (disk.folders[folder]?.bind fun found => found.find? name)

/-- The folder above a folder. -/
def folderAbove (disk : Disk) (folder : Nat) : Nat :=
  (disk.folders[folder]?.map Folder.above).getD 0

/-- The folder that a part leads to. -/
def enter (disk : Disk) (folder : Nat) (part : FileName) : Except DiskFault Nat :=
  if part = ['.'] then .ok folder
  else if part = ['.', '.'] then .ok (disk.folderAbove folder)
  else do
    match ← disk.lookup folder part with
    | some (.folder inner) => return inner
    | some (.file _) => throw .notDirectory
    | none => throw .missing

/-- The end of a walk whose parts before the last are folders. -/
def walk (disk : Disk) (path : String) : Except DiskFault WalkEnd := do
  requireWalkable path
  let steps := Walk.of path.toList
  let start := if steps.fromRoot then 0 else disk.workingDirectory
  let folder ← steps.parts.dropLast.foldlM disk.enter start
  match steps.parts.getLast? with
  | none => return .folder folder
  | some last =>
      if last = ['.'] || last = ['.', '.'] then return .folder (← disk.enter folder last)
      else return .name folder last steps.endsWithSlash

/-- What lies at a path; a file is not found at a path that ends with a slash. -/
def find (disk : Disk) (path : String) : Except DiskFault FolderEntry := do
  match ← disk.walk path with
  | .folder number => return .folder number
  | .name folder name endsWithSlash =>
      match ← disk.lookup folder name with
      | none => throw .missing
      | some (.folder number) => return .folder number
      | some (.file content) => if endsWithSlash then throw .notDirectory else return .file content

/-- The content of the file at a path. -/
def read (disk : Disk) (path : String) : Except DiskFault Bytes := do
  match ← disk.find path with
  | .file content => return content
  | .folder _ => throw .isDirectory

/-- Whether there is a file at a path. -/
def isFile (disk : Disk) (path : String) : Bool :=
  match disk.find path with
  | .ok (.file _) => true
  | _ => false

/-- Whether there is a directory at a path. -/
def isDirectory (disk : Disk) (path : String) : Bool :=
  match disk.find path with
  | .ok (.folder _) => true
  | _ => false

/-- The disk with a changed folder. -/
def modifyFolder (disk : Disk) (folder : Nat) (change : Folder → Folder) : Disk :=
  { disk with folders := disk.folders.modify folder change }

/-- The disk with an entry in a folder in place of what had its name. -/
def insertEntry (disk : Disk) (folder : Nat) (name : FileName) (entry : FolderEntry) : Disk :=
  disk.modifyFolder folder fun found => found.insert name entry

/-- The disk without a name in a folder. -/
def eraseEntry (disk : Disk) (folder : Nat) (name : FileName) : Disk :=
  disk.modifyFolder folder fun found => found.erase name

/-- The folder and the name at which a file is opened for writing, and what it holds. -/
def openForWriting
    (disk : Disk)
    (path : String) :
    Except DiskFault (Nat × FileName × Option Bytes) := do
  match ← disk.walk path with
  | .folder _ => throw .isDirectory
  | .name folder name endsWithSlash =>
      if endsWithSlash then throw .isDirectory
      match ← disk.lookup folder name with
      | some (.folder _) => throw .isDirectory
      | some (.file content) => return (folder, name, some content)
      | none => return (folder, name, none)

/-- The disk with a file of this content at a path. -/
def write (disk : Disk) (path : String) (content : Bytes) : Except DiskFault Disk := do
  let (folder, name, _) ← disk.openForWriting path
  return disk.insertEntry folder name (.file content)

/-- The disk with a file at a path, which is empty unless it was there. -/
def touch (disk : Disk) (path : String) : Except DiskFault Disk := do
  let (folder, name, content) ← disk.openForWriting path
  return disk.insertEntry folder name (.file (content.getD []))

/-- The disk with an empty folder of a name in a folder. -/
def addFolder (disk : Disk) (folder : Nat) (name : FileName) : Disk :=
  let number := disk.folders.size
  { disk with folders := disk.folders.push ⟨folder, []⟩ }.insertEntry folder name (.folder number)

/-- The disk with a directory at a path. -/
def createDirectory (disk : Disk) (path : String) : Except DiskFault Disk := do
  match ← disk.walk path with
  | .folder _ => throw .exists
  | .name folder name _ =>
      match ← disk.lookup folder name with
      | some _ => throw .exists
      | none => return disk.addFolder folder name

/--
Makes a directory, and the directories above it first if they are missing, at most as many levels
up as given.  What is a directory already is left alone; the empty path is one.
-/
def createLevels (path : String) : Nat → Disk → Except DiskFault Unit × Disk
  | 0, disk => (.ok (), disk)
  | levels + 1, disk =>
      if path = "" then (.ok (), disk)
      else
        match disk.createDirectory path with
        | .ok made => (.ok (), made)
        | .error .missing =>
            match (parentPath? path).map fun parent => createLevels parent levels disk with
            | none => (.error .missing, disk)
            | some (.error fault, above) => (.error fault, above)
            | some (.ok (), above) =>
                match above.createDirectory path with
                | .ok made => (.ok (), made)
                | .error fault => (if above.isDirectory path then .ok () else .error fault, above)
        | .error fault => (if disk.isDirectory path then .ok () else .error fault, disk)

/-- Makes a directory and all directories above it. -/
def createDirectories (disk : Disk) (path : String) : Except DiskFault Unit × Disk :=
  createLevels path (path.length + 1) disk

/-- The folders from one up to the root, at most so many of them. -/
def chainAbove (disk : Disk) : Nat → Nat → List Nat
  | 0, _ => []
  | steps + 1, folder =>
      folder :: (if folder = 0 then [] else disk.chainAbove steps (disk.folderAbove folder))

/-- Whether a folder is another one or lies above it. -/
def isOnOrAbove (disk : Disk) (upper lower : Nat) : Bool :=
  (disk.chainAbove disk.folders.size lower).contains upper

/-- Whether nothing lies in a folder. -/
def isVacant (disk : Disk) (folder : Nat) : Bool :=
  disk.folders[folder]?.all fun found => found.entries.isEmpty

/-- The disk with an entry of one folder moved to a name in another one. -/
def moveEntry
    (disk : Disk)
    (source : Nat)
    (sourceName : FileName)
    (target : Nat)
    (targetName : FileName)
    (entry : FolderEntry) :
    Disk :=
  let moved := (disk.eraseEntry source sourceName).insertEntry target targetName entry
  match entry with
  | .file _ => moved
  | .folder number => moved.modifyFolder number fun folder => { folder with above := target }

/-- Asks that a folder can be moved into another one, in place of what may be there. -/
def requireFolderMove
    (disk : Disk)
    (number target : Nat)
    (replaced : Option FolderEntry)
    (source : Nat) :
    Except DiskFault Unit :=
  if disk.isOnOrAbove number target then .error .invalid
  else
    match replaced with
    | none => .ok ()
    | some (.file _) => .error .notDirectory
    | some (.folder other) =>
        if disk.isOnOrAbove other source || !disk.isVacant other then .error .notEmpty else .ok ()

/-- Asks that a file can be moved out of a folder in place of what may be at the target. -/
def requireFileMove
    (disk : Disk)
    (replaced : Option FolderEntry)
    (source : Nat) :
    Except DiskFault Unit :=
  match replaced with
  | some (.folder other) =>
      if disk.isOnOrAbove other source then .error .notEmpty else .error .isDirectory
  | _ => .ok ()

/--
The disk with the file or directory of one path at another path.  A file takes the place of a file
and a directory that of an empty directory; nothing is moved into itself.  The source has to be
there before the name of the target is looked at.
-/
def rename (disk : Disk) (source target : String) : Except DiskFault Disk := do
  if target.contains '\x00' then throw .zeroCharacter
  let sourceEnd ← disk.walk source
  let targetEnd ← disk.walk target
  match sourceEnd, targetEnd with
  | .folder _, _ => throw .busy
  | _, .folder _ => throw .busy
  | .name sourceFolder sourceName sourceSlash, .name targetFolder targetName targetSlash =>
      match ← disk.lookup sourceFolder sourceName with
      | none => throw .missing
      | some entry => do
          let replaced ← disk.lookup targetFolder targetName
          let isSame := decide (sourceFolder = targetFolder ∧ sourceName = targetName)
          match entry with
          | .folder number =>
              if isSame then return disk
              disk.requireFolderMove number targetFolder replaced sourceFolder
          | .file _ =>
              if sourceSlash || targetSlash then throw .notDirectory
              if isSame then return disk
              disk.requireFileMove replaced sourceFolder
          return disk.moveEntry sourceFolder sourceName targetFolder targetName entry

/-- The disk without the file at a path. -/
def remove (disk : Disk) (path : String) : Except DiskFault Disk := do
  match ← disk.walk path with
  | .folder _ => throw .isDirectory
  | .name folder name endsWithSlash =>
      match ← disk.lookup folder name with
      | none => throw .missing
      | some (.folder _) => throw .isDirectory
      | some (.file _) =>
          if endsWithSlash then throw .notDirectory
          return disk.eraseEntry folder name

/-- The paths of all files in a folder, behind a path and at most so many levels down. -/
def pathsBelow (disk : Disk) : Nat → List Char → Nat → List (List Char)
  | 0, _, _ => []
  | levels + 1, path, folder =>
      match disk.folders[folder]? with
      | none => []
      | some found =>
          found.entries.flatMap fun (name, entry) =>
            match entry with
            | .file _ => [path ++ name]
            | .folder inner => disk.pathsBelow levels (path ++ name ++ ['/']) inner

/-- The paths of all files in the working directory, relative to it and in increasing order. -/
def paths (disk : Disk) : List String :=
  ((disk.pathsBelow disk.folders.size [] disk.workingDirectory).map String.ofList).mergeSort

/-- The result of a change, and the disk after it. -/
def changed (path : String) (disk : Disk) :
    Except DiskFault Disk → Except FileError Unit × Disk
  | .ok after => (.ok (), after)
  | .error fault => (.error (.ofFault path fault), disk)

/-- A path below a directory, if relative paths are taken to start there. -/
def pathBelow (base : Option String) (path : String) : String :=
  match base with
  | none => path
  | some directory => String.ofList (Path.push directory.toList path.toList)

/-- A disk as a file system, whose relative paths may start at a directory of it. -/
def operations (base : Option String) : FileOperations (StateM Disk) where
  read path := fun disk =>
    let path := pathBelow base path
    ((disk.read path).mapError (FileError.ofFault path), disk)
  write path content := fun disk =>
    let path := pathBelow base path
    changed path disk (disk.write path content)
  createDirectories path := fun disk =>
    let path := pathBelow base path
    let (result, after) := disk.createDirectories path
    (result.mapError (FileError.ofFault path), after)
  rename source target := fun disk =>
    let source := pathBelow base source
    let target := pathBelow base target
    changed target disk (disk.rename source target)
  remove path := fun disk =>
    let path := pathBelow base path
    changed path disk (disk.remove path)
  isFile path := fun disk => (disk.isFile (pathBelow base path), disk)
  isDirectory path := fun disk => (disk.isDirectory (pathBelow base path), disk)

end Disk
end LateBinding
