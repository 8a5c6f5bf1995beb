import LateBinding.Proofs.Storage.Memory
import LateBinding.Storage.Store

/-!
# Stores are atomic

Storing a module replaces the file at its path by the bytes of the module, or leaves the file as it
was.  The proof follows a store from the inside to the outside: what replacing, cleaning up and
writing leave behind is each told by one equation between the files before and after, in which the
temporary path occurs only until it has been emptied.
-/

namespace LateBinding

variable {State Place Item Result : Type} [DecidableEq Place]
  {operations : FileOperations (StateM State)} {view : FileView State Place}

theorem run_bind
    (first : StateM State Item)
    (next : Item → StateM State Result)
    (state : State) :
    (first >>= next) state = next (first state).1 (first state).2 := rfl

/-! ## Runs of the parts of a store -/

section Runs

variable {path temporary : String} {content : Bytes} {before between after : State}
  {cause : FileError}

theorem replaceFile_of_write_error
    (written : operations.write temporary content before = (.error cause, after)) :
    replaceFile operations temporary path content before = (.error cause, after) := by
  rw [replaceFile, run_bind, written]
  rfl

theorem replaceFile_of_write_ok
    (written : operations.write temporary content before = (.ok (), between)) :
    replaceFile operations temporary path content before =
      operations.rename temporary path between := by
  rw [replaceFile, run_bind, written]

theorem writeAtomically_of_parent_error
    (made : createParent operations path before = (.error cause, after)) :
    writeAtomically operations temporary path content before = (.error cause, after) := by
  rw [writeAtomically, run_bind, made]
  rfl

theorem writeAtomically_of_replace_ok
    (made : createParent operations path before = (.ok (), between))
    (replaced : replaceFile operations temporary path content between = (.ok (), after)) :
    writeAtomically operations temporary path content before = (.ok (), after) := by
  rw [writeAtomically, run_bind, made]
  simp only [run_bind, replaced]
  rfl

theorem writeAtomically_of_replace_error
    {left : State}
    (made : createParent operations path before = (.ok (), between))
    (replaced : replaceFile operations temporary path content between = (.error cause, left)) :
    writeAtomically operations temporary path content before =
      (.error cause, (removeIfThere operations temporary left).2) := by
  rw [writeAtomically, run_bind, made]
  simp only [run_bind, replaced]
  rfl

end Runs

/-! ## What the parts leave behind -/

/-- The last thing that happened is that a file could not be removed. -/
def FileOperations.FailedToRemove
    (operations : FileOperations (StateM State))
    (path : String)
    (after : State) :
    Prop :=
  ∃ between cause, operations.remove path between = (.error cause, after)

namespace FileOperations.Obeys

variable {path temporary : String} {content : Bytes} {before after : State} {cause : FileError}

theorem isThere_held (obeys : operations.Obeys view) (path : String) (before : State) :
    view.held (operations.isThere path before).2 = view.held before := by
  rw [isThere, run_bind]
  split
  · exact obeys.isFile_held path before
  · exact (obeys.isDirectory_held path _).trans (obeys.isFile_held path before)

/-- There is no file where there is nothing. -/
theorem held_of_not_isThere
    (obeys : operations.Obeys view)
    (absent : (operations.isThere path before).1 = false) :
    view.held before (view.place path) = none := by
  rw [isThere, run_bind] at absent
  split at absent
  · nomatch absent
  · next noFile => simpa [obeys.isFile_answer] using noFile

theorem createParent_held (obeys : operations.Obeys view) (path : String) (before : State) :
    view.held (createParent operations path before).2 = view.held before := by
  rw [createParent]
  cases parentPath? path with
  | none => rfl
  | some parent => exact obeys.createDirectories_held parent before

/-- Cleaning up empties the place, or fails to and leaves everything as it was. -/
theorem removeIfThere_held (obeys : operations.Obeys view) (path : String) (before : State) :
    view.held (removeIfThere operations path before).2 =
        Function.update (view.held before) (view.place path) none ∨
      view.held (removeIfThere operations path before).2 = view.held before ∧
        operations.FailedToRemove path (removeIfThere operations path before).2 := by
  rcases asked : operations.isThere path before with ⟨isThere, between⟩
  have unchanged : view.held between = view.held before := by
    rw [← obeys.isThere_held path before, asked]
  cases isThere with
  | false =>
      -- Nothing is removed, but there is nothing either, so the place counts as emptied.
      have absent : view.held before (view.place path) = none :=
        obeys.held_of_not_isThere (congrArg Prod.fst asked)
      left
      rw [removeIfThere, run_bind, asked, ← absent, Function.update_eq_self]
      exact unchanged
  | true =>
      have final : (removeIfThere operations path before).2 = (operations.remove path between).2 := by
        rw [removeIfThere, run_bind, asked]
        rfl
      rw [final, ← unchanged]
      cases result : (operations.remove path between).1 with
      | ok _ => exact .inl (obeys.remove_ok path between result)
      | error cause =>
          exact .inr
            ⟨obeys.remove_error path between cause result, between, cause, Prod.ext result rfl⟩

/-- A file that has been replaced has gone from the temporary path to its own. -/
theorem replaceFile_ok
    (obeys : operations.Obeys view)
    (replaced : replaceFile operations temporary path content before = (.ok (), after)) :
    view.held after =
      Function.update (Function.update (view.held before) (view.place temporary) none)
        (view.place path) (some content) := by
  rcases written : operations.write temporary content before with ⟨_ | _, between⟩
  · rw [replaceFile_of_write_error written] at replaced
    nomatch replaced
  · rw [replaceFile_of_write_ok written] at replaced
    have first := obeys.write_ok temporary content before (congrArg Prod.fst written)
    have held : view.held between (view.place temporary) = some content := by
      rw [written] at first
      rw [first, Function.update_self]
    have second := obeys.rename_ok temporary path content between held (congrArg Prod.fst replaced)
    rw [written] at first
    rwa [replaced, first, Function.update_idem] at second

/-- A file that could not be replaced has left traces at the temporary path only. -/
theorem replaceFile_error
    (obeys : operations.Obeys view)
    (replaced : replaceFile operations temporary path content before = (.error cause, after)) :
    ∃ left, view.held after = Function.update (view.held before) (view.place temporary) left := by
  obtain ⟨left, first⟩ := obeys.write_held temporary content before
  refine ⟨left, ?_⟩
  rcases written : operations.write temporary content before with ⟨_ | _, between⟩
  · rw [replaceFile_of_write_error written] at replaced
    rwa [written, replaced] at first
  · rw [replaceFile_of_write_ok written] at replaced
    have second := obeys.rename_error temporary path between cause (congrArg Prod.fst replaced)
    rw [written] at first
    rwa [replaced, first] at second

theorem writeAtomically_ok
    (obeys : operations.Obeys view)
    (written : writeAtomically operations temporary path content before = (.ok (), after)) :
    view.held after =
      Function.update (Function.update (view.held before) (view.place temporary) none)
        (view.place path) (some content) := by
  have unchanged := obeys.createParent_held path before
  rcases made : createParent operations path before with ⟨_ | _, between⟩
  · rw [writeAtomically_of_parent_error made] at written
    nomatch written
  · rcases replaced : replaceFile operations temporary path content between with ⟨_ | _, final⟩
    · rw [writeAtomically_of_replace_error made replaced] at written
      nomatch written
    · rw [writeAtomically_of_replace_ok made replaced] at written
      obtain ⟨_, rfl⟩ := Prod.mk.inj written
      rw [made] at unchanged
      rw [obeys.replaceFile_ok replaced, unchanged]

/--
A write that fails has changed nothing, has emptied the temporary path, or has left something there
because it could not be removed.
-/
theorem writeAtomically_error
    (obeys : operations.Obeys view)
    (written : writeAtomically operations temporary path content before = (.error cause, after)) :
    ∃ left, view.held after = Function.update (view.held before) (view.place temporary) left ∧
      (left = none ∨ left = view.held before (view.place temporary) ∨
        operations.FailedToRemove temporary after) := by
  have unchanged := obeys.createParent_held path before
  -- Without the directory nothing has been written, so what is left is what was there before.
  rcases made : createParent operations path before with ⟨_ | _, between⟩
  · rw [writeAtomically_of_parent_error made] at written
    rw [made, (Prod.mk.inj written).2] at unchanged
    exact ⟨_, by rw [unchanged, Function.update_eq_self], .inr (.inl rfl)⟩
  · rcases replaced : replaceFile operations temporary path content between with ⟨_ | _, final⟩
    · rw [writeAtomically_of_replace_error made replaced] at written
      obtain ⟨_, rfl⟩ := Prod.mk.inj written
      obtain ⟨left, traces⟩ := obeys.replaceFile_error replaced
      rw [made] at unchanged
      rw [unchanged] at traces
      obtain emptied | ⟨kept, failed⟩ := obeys.removeIfThere_held temporary final
      · exact ⟨none, by rw [emptied, traces, Function.update_idem], .inl rfl⟩
      · exact ⟨left, by rw [kept, traces], .inr (.inr failed)⟩
    · rw [writeAtomically_of_replace_ok made replaced] at written
      nomatch written

end FileOperations.Obeys

/-! ## Stores -/

/-- A module without a qualified name is refused before the file system is asked for anything. -/
theorem storeModule_of_fault
    {World : Type → Type}
    [Monad World]
    {files : FileOperations World}
    {options : StoreOptions}
    {directory reason : String}
    {module : PackedModule}
    (fault : qualifiedNameFault? module.name = some reason) :
    storeModule files options directory module = pure (.error (.invalidName module.name reason)) := by
  rw [storeModule, fault]

theorem storeModule_of_written
    {options : StoreOptions}
    {directory : String}
    {module : PackedModule}
    {before after : State}
    {result : Except FileError Unit}
    (faultless : qualifiedNameFault? module.name = none)
    (written : writeAtomically operations
      (temporaryPath (modulePath directory module.name options.extension) options.temporarySuffix)
      (modulePath directory module.name options.extension) module.bytes before = (result, after)) :
    storeModule operations options directory module before =
      (match result with
        | .ok () => .ok (modulePath directory module.name options.extension)
        | .error cause => .error (.file (modulePath directory module.name options.extension) cause),
        after) := by
  simp only [storeModule, faultless, run_bind, written]
  cases result <;> rfl

namespace FileOperations.Obeys

variable {options : StoreOptions} {directory : String} {module : PackedModule}
  {before after : State}

theorem storeModule_ok
    (obeys : operations.Obeys view)
    {found : String}
    (stored : storeModule operations options directory module before = (.ok found, after)) :
    found = modulePath directory module.name options.extension ∧
      view.held after =
        Function.update
          (Function.update (view.held before)
            (view.place (temporaryPath found options.temporarySuffix)) none)
          (view.place found) (some module.bytes) := by
  cases fault : qualifiedNameFault? module.name with
  | some reason =>
      rw [storeModule_of_fault fault] at stored
      nomatch stored
  | none =>
      rcases written : writeAtomically operations
        (temporaryPath (modulePath directory module.name options.extension)
          options.temporarySuffix)
        (modulePath directory module.name options.extension) module.bytes before with
        ⟨_ | _, final⟩
      · rw [storeModule_of_written fault written] at stored
        nomatch stored
      · rw [storeModule_of_written fault written] at stored
        obtain ⟨same, rfl⟩ := Prod.mk.inj stored
        obtain rfl := Except.ok.inj same
        exact ⟨rfl, obeys.writeAtomically_ok written⟩

theorem storeModule_error
    (obeys : operations.Obeys view)
    {fault : StoreError}
    (qualified : isQualifiedName module.name = true)
    (failed : storeModule operations options directory module before = (.error fault, after)) :
    ∃ path temporary cause left,
      path = modulePath directory module.name options.extension ∧
      temporary = temporaryPath path options.temporarySuffix ∧
      fault = .file path cause ∧
      view.held after = Function.update (view.held before) (view.place temporary) left ∧
      (left = none ∨ left = view.held before (view.place temporary) ∨
        operations.FailedToRemove temporary after) := by
  have faultless := (qualifiedNameFault?_eq_none_iff module.name).mpr qualified
  rcases written : writeAtomically operations
    (temporaryPath (modulePath directory module.name options.extension) options.temporarySuffix)
    (modulePath directory module.name options.extension) module.bytes before with
    ⟨cause | _, final⟩
  · rw [storeModule_of_written faultless written] at failed
    obtain ⟨same, rfl⟩ := Prod.mk.inj failed
    obtain ⟨left, traces, reason⟩ := obeys.writeAtomically_error written
    exact ⟨_, _, cause, left, rfl, rfl, (Except.error.inj same).symm, traces, reason⟩
  · rw [storeModule_of_written faultless written] at failed
    nomatch failed

end FileOperations.Obeys

/-- A module that has been stored in memory is read from its path. -/
theorem MemoryFiles.read_of_storeModule
    {memory after : MemoryFiles}
    {options : StoreOptions}
    {directory path : String}
    {module : PackedModule}
    (stored : storeModule MemoryFiles.operations options directory module memory =
      (.ok path, after)) :
    after.read (modulePath directory module.name options.extension) = .ok module.bytes := by
  obtain ⟨rfl, contents⟩ := operations_obeys.storeModule_ok stored
  rw [read_eq_ok_iff]
  exact (congrFun contents _).trans (Function.update_self ..)

/--
An atomic replacement of the file at a path by a content.  It touches nothing but the path and the
temporary one.  If it succeeds the content is at the path and nothing at the temporary path.  If it
fails the file at the path is what it was, and a file is at the temporary path only if it was there
before or if the last operation was a failed attempt to remove it.
-/
structure IsAtomicStore
    (view : FileView State Place)
    (path temporary : String)
    (content : Bytes)
    (before after : State)
    (result : Except StoreError String)
    (events : List FileEvent) :
    Prop where
  elsewhere : ∀ place, place ≠ view.place path → place ≠ view.place temporary →
    view.held after place = view.held before place
  stored : ∀ found, result = .ok found →
    found = path ∧ view.held after (view.place path) = some content ∧
      view.held after (view.place temporary) = none
  failed : ∀ fault, result = .error fault →
    (∃ cause, fault = .file path cause) ∧
      view.held after (view.place path) = view.held before (view.place path) ∧
      (view.held after (view.place temporary) = none ∨
        view.held after (view.place temporary) = view.held before (view.place temporary) ∨
        ∃ cause, events.getLast? = some (.remove temporary (.error cause)))

namespace IsAtomicStore

variable {path temporary : String} {content : Bytes} {before after : State}
  {events : List FileEvent}

theorem of_ok
    (apart : view.place temporary ≠ view.place path)
    (traces : view.held after =
      Function.update (Function.update (view.held before) (view.place temporary) none)
        (view.place path) (some content)) :
    IsAtomicStore view path temporary content before after (.ok path) events where
  elsewhere place other another := by
    rw [traces, Function.update_of_ne other, Function.update_of_ne another]
  stored found same := by
    refine ⟨(Except.ok.inj same).symm, ?_, ?_⟩
    · rw [traces, Function.update_self]
    · rw [traces, Function.update_of_ne apart, Function.update_self]
  failed := nofun

theorem of_error
    {cause : FileError}
    {left : Option Bytes}
    (apart : view.place temporary ≠ view.place path)
    (traces : view.held after = Function.update (view.held before) (view.place temporary) left)
    (excuse : left = none ∨ left = view.held before (view.place temporary) ∨
      ∃ cause, events.getLast? = some (.remove temporary (.error cause))) :
    IsAtomicStore view path temporary content before after (.error (.file path cause)) events where
  elsewhere place _ other := by
    rw [traces, Function.update_of_ne other]
  stored := nofun
  failed fault same := by
    refine ⟨⟨cause, (Except.error.inj same).symm⟩, ?_, ?_⟩
    · rw [traces, Function.update_of_ne apart.symm]
    · rw [traces, Function.update_self]
      exact excuse

end IsAtomicStore

/-- A recorded failure to remove a file is the last event. -/
theorem getLast?_of_failedToRemove
    {path : String}
    {after : State}
    {events : List FileEvent}
    (failed : operations.recorded.FailedToRemove path (after, events)) :
    ∃ cause, events.getLast? = some (.remove path (.error cause)) := by
  obtain ⟨⟨between, earlier⟩, cause, removed⟩ := failed
  obtain ⟨result, states⟩ := Prod.mk.inj removed
  refine ⟨cause, ?_⟩
  rw [← (Prod.mk.inj states).2, List.getLast?_concat, result]

/--
Storing a module is atomic in every file system that keeps the promise, whichever of its operations
fail.  Without a qualified name no operation is asked for.  The path of the module and the temporary
path beside it stand for two places, as they do where paths stand for themselves: one of them is longer.
-/
theorem storeModule_isAtomic
    (obeys : operations.Obeys view)
    {options : StoreOptions}
    {directory : String}
    {module : PackedModule}
    {before after : State}
    {result : Except StoreError String}
    {events : List FileEvent}
    (ran : storeModule operations.recorded options directory module (before, []) =
      (result, after, events)) :
    (∀ reason, qualifiedNameFault? module.name = some reason →
      result = .error (.invalidName module.name reason) ∧ after = before ∧ events = []) ∧
    (isQualifiedName module.name = true →
      view.place (temporaryPath (modulePath directory module.name options.extension)
          options.temporarySuffix) ≠
        view.place (modulePath directory module.name options.extension) →
      IsAtomicStore view (modulePath directory module.name options.extension)
        (temporaryPath (modulePath directory module.name options.extension)
          options.temporarySuffix)
        module.bytes before after result events) := by
  constructor
  · intro reason fault
    rw [storeModule_of_fault fault] at ran
    obtain ⟨rfl, states⟩ := Prod.mk.inj ran
    obtain ⟨rfl, rfl⟩ := Prod.mk.inj states
    exact ⟨rfl, rfl, rfl⟩
  · intro qualified apart
    cases result with
    | error fault =>
        obtain ⟨path, temporary, cause, left, rfl, rfl, rfl, traces, excuse⟩ :=
          obeys.recorded.storeModule_error qualified ran
        apply IsAtomicStore.of_error apart traces
        exact excuse.imp id (.imp id getLast?_of_failedToRemove)
    | ok found =>
        obtain ⟨rfl, traces⟩ := obeys.recorded.storeModule_ok ran
        exact IsAtomicStore.of_ok apart traces

/-- A memory with room for one more byte when a module is to be replaced. -/
def fullMemory : MemoryFiles × List Fate :=
  (⟨[("A.kiln", [75, 73]), ("notes", [33])], [], false⟩,
    [.runs, .fails [75] (.other "disk full"), .runs])

/-- The new module is removed as far as it has been written, and the old one is kept. -/
theorem storeModule_fullMemory_isAtomic :
    ∃ after events,
      storeModule MemoryFiles.operations.fated.recorded ⟨"kiln", "part"⟩ "" ⟨"A", [75, 74]⟩
          (fullMemory, []) =
        (.error (.file "A.kiln" (.other "disk full")), after, events) ∧
      events.length = 4 ∧
      isQualifiedName "A" = true ∧
      IsAtomicStore (MemoryFiles.view.beside (List Fate)) "A.kiln" "A.kiln.part" [75, 74]
        fullMemory after (.error (.file "A.kiln" (.other "disk full"))) events := by
  have ran : storeModule MemoryFiles.operations.fated.recorded ⟨"kiln", "part"⟩ "" ⟨"A", [75, 74]⟩
      (fullMemory, []) =
        (.error (.file "A.kiln" (.other "disk full")), (fullMemory.1, []),
          [.createDirectories "" (.ok ()),
            .write "A.kiln.part" [75, 74] (.error (.other "disk full")),
            .isFile "A.kiln.part" true, .remove "A.kiln.part" (.ok ())]) := by
    rfl
  have qualified : isQualifiedName "A" = true := by decide +kernel
  have path : modulePath "" "A" "kiln" = "A.kiln" := by decide +kernel
  have temporary : temporaryPath "A.kiln" "part" = "A.kiln.part" := by decide +kernel
  have atomic := (storeModule_isAtomic MemoryFiles.operations_obeys.fated ran).2 qualified
    (MemoryFiles.normalize_temporaryPath_ne _ _)
  simp only [path, temporary] at atomic
  exact ⟨_, _, ran, rfl, qualified, atomic⟩

end LateBinding
