import LateBinding.Loading.Error
import LateBinding.Loading.LoadedType
import LateBinding.Storage.Path

/-!
# Worlds

The state of a running program: the loaders that have been opened, the objects that have been
constructed and the lines that have been printed.  A loader produces one type per name, however
often the name is loaded and whatever happens to the file; a closed loader produces none, and the
types and objects that it has produced are dead.
-/

namespace LateBinding

/-- A loader. -/
structure Loader where
  /-- The directory of the modules. -/
  directory : String
  /-- The extension of the modules' files. -/
  extension : String
  /-- The types produced so far, by name. -/
  cache : List (String × LoadedType)
  /-- Whether the loader is closed. -/
  isClosed : Bool
  deriving DecidableEq, Repr, Inhabited

/-- An object. -/
structure Object where
  /-- The type. -/
  type : LoadedType
  /-- The values of the fields. -/
  fields : List Value
  deriving DecidableEq, Repr, Inhabited

/-- The state of a running program. -/
structure World where
  /-- The loaders in the order of their opening. -/
  loaders : List Loader
  /-- The number of types produced so far. -/
  typeCount : Nat
  /-- The objects in the order of their construction. -/
  objects : List Object
  /-- The lines printed so far. -/
  output : List String
  deriving DecidableEq, Repr, Inhabited

namespace World

/-- The state at the start of a program. -/
def empty : World :=
  ⟨[], 0, [], []⟩

/-- The loader of an identity. -/
def loader? (world : World) (id : LoaderId) : Option Loader :=
  if id.number = 0 then none else world.loaders[id.number - 1]?

/-- Whether a loader is open. -/
def isOpen (world : World) (id : LoaderId) : Bool :=
  (world.loader? id).any fun loader => !loader.isClosed

/-- The object that a reference refers to. -/
def object? (world : World) (reference : Reference) : Option Object :=
  world.objects[reference.object]?

/-- Opens a loader for the modules of a directory. -/
def openLoader (world : World) (directory extension : String) : LoaderId × World :=
  (⟨world.loaders.length + 1⟩,
    { world with loaders := world.loaders ++ [⟨directory, extension, [], false⟩] })

/-- Replaces a loader. -/
def setLoader (world : World) (id : LoaderId) (loader : Loader) : World :=
  { world with loaders := world.loaders.set (id.number - 1) loader }

/-- Closes a loader and forgets the types that it has produced. -/
def closeLoader (world : World) (id : LoaderId) : World :=
  match world.loader? id with
  | none => world
  | some loader => world.setLoader id { loader with cache := [], isClosed := true }

/-- What loading a name comes to before a file is looked at. -/
inductive LoadRequest where
  /-- The loader has produced the type before. -/
  | known (type : LoadedType)
  /-- The module has to be read from a path. -/
  | unread (path : String)

/-- What loading a name comes to before a file is looked at. -/
def request (world : World) (id : LoaderId) (name : String) : Except LoadError LoadRequest :=
  match world.loader? id with
  | none => .error (.closed id.number)
  | some loader =>
      if loader.isClosed then .error (.closed id.number)
      else
        match loader.cache.lookup name with
        | some type => .ok (.known type)
        | none =>
            let path := modulePath loader.directory name loader.extension
            if isQualifiedName name then .ok (.unread path)
            else .error (.moduleNotFound name path)

/-- The image and the table of a file's content, which has to be the module of a name. -/
def readModule (name : String) (content : Bytes) : Except LoadError (ModuleImage × MethodTable) := do
  let image ← (ModuleImage.decode content).mapError fun error =>
    LoadError.malformed name error.message
  if image.name ≠ name then
    throw (.malformed name s!"module declares type {image.name}")
  let table ← (MethodTable.ofImage image).mapError fun reason => LoadError.malformed name reason
  return (image, table)

/-- Adds a type that a loader has produced. -/
def addType
    (world : World)
    (id : LoaderId)
    (path : String)
    (image : ModuleImage)
    (table : MethodTable) :
    LoadedType × World :=
  let type : LoadedType := ⟨world.typeCount, id, path, image, table⟩
  match world.loader? id with
  | none => (type, world)
  | some loader =>
      (type,
        { world.setLoader id { loader with cache := (image.name, type) :: loader.cache } with
          typeCount := world.typeCount + 1 })

/-- Loads a type from what reading its file has given. -/
def loadFrom
    (world : World)
    (id : LoaderId)
    (name path : String)
    (content : Except FileError Bytes) :
    Except LoadError LoadedType × World :=
  match content with
  | .error cause => (.error (.ofFileError name path cause), world)
  | .ok bytes =>
      match readModule name bytes with
      | .error error => (.error error, world)
      | .ok (image, table) =>
          let (type, after) := world.addType id path image table
          (.ok type, after)

/-- Loads the type of a name with a loader, where files are read as given. -/
def load
    (world : World)
    (read : String → Except FileError Bytes)
    (id : LoaderId)
    (name : String) :
    Except LoadError LoadedType × World :=
  match world.request id name with
  | .error error => (.error error, world)
  | .ok (.known type) => (.ok type, world)
  | .ok (.unread path) => world.loadFrom id name path (read path)

end World
end LateBinding
