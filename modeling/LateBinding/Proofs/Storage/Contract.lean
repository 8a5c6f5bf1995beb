import LateBinding.Storage.Files
import Mathlib.Logic.Function.Basic

/-!
# What a file system promises

Nothing is known of a file system but which file each path stands for, what the files hold, and what
an operation does to them.  Every operation may fail at any time.  One that fails changes no file,
except that writing may leave anything where it was writing.  A file system whose operations are
made to fail and one whose operations are listened to keep the promise of the one inside.
-/

namespace LateBinding

variable {State Place Item : Type}

/-- The files of a file system as its paths show them. -/
structure FileView (State Place : Type) where
  /-- The place that a path stands for. -/
  place : String → Place
  /-- The content of the file at a place. -/
  held : State → Place → Option Bytes

/-- The view of a state that stands beside something else. -/
def FileView.beside (view : FileView State Place) (Other : Type) :
    FileView (State × Other) Place where
  place := view.place
  held state := view.held state.1

/--
The promise of a file system.  A failed write may leave anything at its place, nothing included.
Only where a file lies is a renaming that succeeds bound to move it.  Of `isDirectory` it matters
only that asking changes nothing.
-/
structure FileOperations.Obeys
    [DecidableEq Place]
    (operations : FileOperations (StateM State))
    (view : FileView State Place) :
    Prop where
  write_ok : ∀ path content before,
    (operations.write path content before).1 = .ok () →
    view.held (operations.write path content before).2 =
      Function.update (view.held before) (view.place path) (some content)
  write_error : ∀ path content before cause,
    (operations.write path content before).1 = .error cause →
    ∃ left, view.held (operations.write path content before).2 =
      Function.update (view.held before) (view.place path) left
  createDirectories_held : ∀ path before,
    view.held (operations.createDirectories path before).2 = view.held before
  rename_ok : ∀ source target content before,
    view.held before (view.place source) = some content →
    (operations.rename source target before).1 = .ok () →
    view.held (operations.rename source target before).2 =
      Function.update (Function.update (view.held before) (view.place source) none)
        (view.place target) (some content)
  rename_error : ∀ source target before cause,
    (operations.rename source target before).1 = .error cause →
    view.held (operations.rename source target before).2 = view.held before
  remove_ok : ∀ path before,
    (operations.remove path before).1 = .ok () →
    view.held (operations.remove path before).2 =
      Function.update (view.held before) (view.place path) none
  remove_error : ∀ path before cause,
    (operations.remove path before).1 = .error cause →
    view.held (operations.remove path before).2 = view.held before
  isFile_answer : ∀ path before,
    (operations.isFile path before).1 = (view.held before (view.place path)).isSome
  isFile_held : ∀ path before,
    view.held (operations.isFile path before).2 = view.held before
  isDirectory_held : ∀ path before,
    view.held (operations.isDirectory path before).2 = view.held before

/-! ## Operations that are made to fail -/

/-- What becomes of a change that a file system is asked for. -/
inductive Fate where
  /-- It is made. -/
  | runs
  /-- It fails; if it writes a file, it has written this much of it. -/
  | fails (written : Bytes) (cause : FileError)
  deriving DecidableEq, Repr, Inhabited

/-- A change that meets the first of the fates, if there is one left. -/
def Fate.meet
    (run : StateM State (Except FileError Unit))
    (runPartly : Bytes → State → State) :
    StateM (State × List Fate) (Except FileError Unit)
  | (state, .fails written cause :: later) => (.error cause, (runPartly written state, later))
  | (state, .runs :: later) => ((run state).1, ((run state).2, later))
  | (state, []) => ((run state).1, ((run state).2, []))

/-- A question that meets no fate. -/
def Fate.pass (run : StateM State Item) : StateM (State × List Fate) Item :=
  fun (state, fates) => ((run state).1, ((run state).2, fates))

/-- A file system whose changes meet fates. -/
def FileOperations.fated
    (operations : FileOperations (StateM State)) :
    FileOperations (StateM (State × List Fate)) where
  read path := Fate.pass (operations.read path)
  write path content :=
    Fate.meet (operations.write path content) fun written state =>
      (operations.write path written state).2
  createDirectories path := Fate.meet (operations.createDirectories path) fun _ state => state
  rename source target := Fate.meet (operations.rename source target) fun _ state => state
  remove path := Fate.meet (operations.remove path) fun _ state => state
  isFile path := Fate.pass (operations.isFile path)
  isDirectory path := Fate.pass (operations.isDirectory path)

/-! ## Operations that are listened to -/

/-- An operation that a file system was asked for, with what came of it. -/
inductive FileEvent where
  | read (path : String) (result : Except FileError Bytes)
  | write (path : String) (content : Bytes) (result : Except FileError Unit)
  | createDirectories (path : String) (result : Except FileError Unit)
  | rename (source target : String) (result : Except FileError Unit)
  | remove (path : String) (result : Except FileError Unit)
  | isFile (path : String) (answer : Bool)
  | isDirectory (path : String) (answer : Bool)

/-- An operation that becomes the last event. -/
def FileEvent.record
    (event : Item → FileEvent)
    (run : StateM State Item) :
    StateM (State × List FileEvent) Item :=
  fun (state, events) => ((run state).1, ((run state).2, events ++ [event (run state).1]))

/-- A file system whose operations become events. -/
def FileOperations.recorded
    (operations : FileOperations (StateM State)) :
    FileOperations (StateM (State × List FileEvent)) where
  read path := FileEvent.record (.read path) (operations.read path)
  write path content := FileEvent.record (.write path content) (operations.write path content)
  createDirectories path :=
    FileEvent.record (.createDirectories path) (operations.createDirectories path)
  rename source target := FileEvent.record (.rename source target) (operations.rename source target)
  remove path := FileEvent.record (.remove path) (operations.remove path)
  isFile path := FileEvent.record (.isFile path) (operations.isFile path)
  isDirectory path := FileEvent.record (.isDirectory path) (operations.isDirectory path)

namespace FileOperations.Obeys

variable [DecidableEq Place] {operations : FileOperations (StateM State)}
  {view : FileView State Place}

/-- A write leaves something or nothing at its place, and everything else as it was. -/
theorem write_held (obeys : operations.Obeys view) (path : String) (content : Bytes)
    (before : State) :
    ∃ left, view.held (operations.write path content before).2 =
      Function.update (view.held before) (view.place path) left := by
  cases result : (operations.write path content before).1 with
  | ok _ => exact ⟨_, obeys.write_ok path content before result⟩
  | error cause => exact obeys.write_error path content before cause result

/-- To fail as it pleases is within the promise of a file system. -/
theorem fated (obeys : operations.Obeys view) : operations.fated.Obeys (view.beside (List Fate)) where
  write_ok path content := by
    rintro ⟨state, _ | ⟨_ | ⟨written, cause⟩, later⟩⟩ result
    · exact obeys.write_ok path content state result
    · exact obeys.write_ok path content state result
    · nomatch result
  write_error path content := by
    rintro ⟨state, _ | ⟨_ | ⟨written, cause⟩, later⟩⟩ _ result
    · exact obeys.write_error path content state _ result
    · exact obeys.write_error path content state _ result
    · exact obeys.write_held path written state
  createDirectories_held path := by
    rintro ⟨state, _ | ⟨_ | ⟨written, cause⟩, later⟩⟩
    · exact obeys.createDirectories_held path state
    · exact obeys.createDirectories_held path state
    · rfl
  rename_ok source target content := by
    rintro ⟨state, _ | ⟨_ | ⟨written, cause⟩, later⟩⟩ held result
    · exact obeys.rename_ok source target content state held result
    · exact obeys.rename_ok source target content state held result
    · nomatch result
  rename_error source target := by
    rintro ⟨state, _ | ⟨_ | ⟨written, cause⟩, later⟩⟩ _ result
    · exact obeys.rename_error source target state _ result
    · exact obeys.rename_error source target state _ result
    · rfl
  remove_ok path := by
    rintro ⟨state, _ | ⟨_ | ⟨written, cause⟩, later⟩⟩ result
    · exact obeys.remove_ok path state result
    · exact obeys.remove_ok path state result
    · nomatch result
  remove_error path := by
    rintro ⟨state, _ | ⟨_ | ⟨written, cause⟩, later⟩⟩ _ result
    · exact obeys.remove_error path state _ result
    · exact obeys.remove_error path state _ result
    · rfl
  isFile_answer path before := obeys.isFile_answer path before.1
  isFile_held path before := obeys.isFile_held path before.1
  isDirectory_held path before := obeys.isDirectory_held path before.1

/-- Listening keeps the promise of a file system. -/
theorem recorded (obeys : operations.Obeys view) :
    operations.recorded.Obeys (view.beside (List FileEvent)) where
  write_ok path content before := obeys.write_ok path content before.1
  write_error path content before := obeys.write_error path content before.1
  createDirectories_held path before := obeys.createDirectories_held path before.1
  rename_ok source target content before := obeys.rename_ok source target content before.1
  rename_error source target before := obeys.rename_error source target before.1
  remove_ok path before := obeys.remove_ok path before.1
  remove_error path before := obeys.remove_error path before.1
  isFile_answer path before := obeys.isFile_answer path before.1
  isFile_held path before := obeys.isFile_held path before.1
  isDirectory_held path before := obeys.isDirectory_held path before.1

end FileOperations.Obeys
end LateBinding
