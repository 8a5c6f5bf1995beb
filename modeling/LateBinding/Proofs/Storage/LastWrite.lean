import LateBinding.Proofs.Storage.Atomicity
import LateBinding.Proofs.Storage.Paths

/-!
# The last write wins

A memory in which modules are stored is a map from qualified names to modules.  One store changes
what is read under its own name and nothing else that is read under a name, since no two names share
a key and no temporary path has the key of a module.  Over a run of stores, the last one of a name
that succeeds is what is read under the name.
-/

namespace LateBinding

/-- Stores modules one after the other, and returns each with what came of it. -/
def storeAll
    {World : Type → Type}
    [Monad World]
    (files : FileOperations World)
    (options : StoreOptions)
    (directory : String)
    (modules : List PackedModule) :
    World (List (PackedModule × Except StoreError String)) :=
  modules.mapM fun module => do
    return (module, ← storeModule files options directory module)

theorem storeAll_cons
    {State : Type}
    {operations : FileOperations (StateM State)}
    {options : StoreOptions}
    {directory : String}
    {module : PackedModule}
    {rest : List PackedModule}
    {before between after : State}
    {result : Except StoreError String}
    {later : List (PackedModule × Except StoreError String)}
    (first : storeModule operations options directory module before = (result, between))
    (ran : storeAll operations options directory rest between = (later, after)) :
    storeAll operations options directory (module :: rest) before =
      ((module, result) :: later, after) := by
  simp only [storeAll, List.mapM_cons, run_bind, first]
  exact congrArg (fun run => ((module, result) :: run.1, run.2)) ran

/-- The bytes of the last module of a name that has been stored. -/
def lastStored?
    (name : String)
    (history : List (PackedModule × Except StoreError String)) :
    Option Bytes :=
  (history.reverse.find? fun (module, result) => module.name = name && result.isOk).map
    fun entry => entry.1.bytes

theorem lastStored?_cons
    (name : String)
    (module : PackedModule)
    (result : Except StoreError String)
    (later : List (PackedModule × Except StoreError String)) :
    lastStored? name ((module, result) :: later) =
      (lastStored? name later).or
        (if module.name = name ∧ result.isOk then some module.bytes else none) := by
  rw [lastStored?, lastStored?, List.reverse_cons, List.find?_append]
  cases later.reverse.find? fun (module, result) => module.name = name && result.isOk with
  | some entry => rfl
  | none => by_cases counts : module.name = name ∧ result.isOk <;> simp [counts]

namespace MemoryFiles

variable {options : StoreOptions} {directory name : String} {memory after : MemoryFiles}

/-- A store changes what is under its own name, if it succeeds, and nothing else under a name. -/
theorem content?_of_storeModule
    {module : PackedModule}
    {result : Except StoreError String}
    (qualified : isQualifiedName name = true)
    (stored : storeModule operations options directory module memory = (result, after)) :
    after.content? (normalize (modulePath directory name options.extension)) =
      if module.name = name ∧ result.isOk then some module.bytes
      else memory.content? (normalize (modulePath directory name options.extension)) := by
  cases fault : qualifiedNameFault? module.name with
  | some reason =>
      rw [storeModule_of_fault fault] at stored
      obtain ⟨rfl, rfl⟩ := Prod.mk.inj stored
      exact (if_neg (by simp [Except.isOk, Except.toBool])).symm
  | none =>
      have otherQualified := (qualifiedNameFault?_eq_none_iff module.name).mp fault
      have apart : normalize (modulePath directory name options.extension) ≠
          view.place (temporaryPath (modulePath directory module.name options.extension)
            options.temporarySuffix) :=
        (normalize_temporaryPath_modulePath_ne qualified otherQualified _).symm
      cases result with
      | error refusal =>
          obtain ⟨_, _, _, left, rfl, rfl, _, contents, _⟩ :=
            operations_obeys.storeModule_error otherQualified stored
          have kept := congrFun contents (normalize (modulePath directory name options.extension))
          rw [Function.update_of_ne apart] at kept
          rw [if_neg (by simp [Except.isOk, Except.toBool])]
          exact kept
      | ok path =>
          obtain ⟨rfl, contents⟩ := operations_obeys.storeModule_ok stored
          have held := congrFun contents (normalize (modulePath directory name options.extension))
          by_cases same : module.name = name
          · subst same
            rw [if_pos ⟨rfl, rfl⟩]
            exact held.trans (Function.update_self ..)
          · have elsewhere : normalize (modulePath directory name options.extension) ≠
                view.place (modulePath directory module.name options.extension) := fun equal =>
              same (normalize_modulePath_injective qualified otherQualified equal).symm
            rw [Function.update_of_ne elsewhere, Function.update_of_ne apart] at held
            rw [if_neg fun both => same both.1]
            exact held

/-- After a run of stores the last one of a name counts, or what was there before. -/
theorem content?_of_storeAll
    {modules : List PackedModule}
    {history : List (PackedModule × Except StoreError String)}
    (qualified : isQualifiedName name = true)
    (ran : storeAll operations options directory modules memory = (history, after)) :
    history.map Prod.fst = modules ∧
      after.content? (normalize (modulePath directory name options.extension)) =
        (lastStored? name history).or
          (memory.content? (normalize (modulePath directory name options.extension))) := by
  -- The first store decides what the later ones find, so the memory is arbitrary.
  induction modules generalizing memory history with
  | nil =>
      obtain ⟨rfl, rfl⟩ := Prod.mk.inj ran
      exact ⟨rfl, rfl⟩
  | cons module rest inductionHypothesis =>
      rcases stored : storeModule operations options directory module memory with ⟨result, between⟩
      rcases later : storeAll operations options directory rest between with ⟨results, final⟩
      rw [storeAll_cons stored later] at ran
      obtain ⟨rfl, rfl⟩ := Prod.mk.inj ran
      obtain ⟨modules, contents⟩ := inductionHypothesis later
      refine ⟨congrArg (module :: ·) modules, ?_⟩
      rw [contents, content?_of_storeModule qualified stored, lastStored?_cons]
      cases lastStored? name results with
      | some bytes => rfl
      | none => split <;> simp

/--
What is read under a qualified name after a run of stores is the last module of the name that has
been stored, or what was read before.  Two names never share a key, and no module lies where one is
put while it is being written.
-/
theorem storeAll_lastWriteWins
    {modules : List PackedModule}
    {history : List (PackedModule × Except StoreError String)}
    (qualified : isQualifiedName name = true)
    (ran : storeAll operations options directory modules memory = (history, after)) :
    history.map Prod.fst = modules ∧
    after.read (modulePath directory name options.extension) =
      (match lastStored? name history with
        | some bytes => .ok bytes
        | none => memory.read (modulePath directory name options.extension)) ∧
    ∀ other, isQualifiedName other = true →
      (normalize (modulePath directory other options.extension) =
          normalize (modulePath directory name options.extension) →
        other = name) ∧
      normalize (temporaryPath (modulePath directory other options.extension)
          options.temporarySuffix) ≠
        normalize (modulePath directory name options.extension) := by
  obtain ⟨order, contents⟩ := content?_of_storeAll qualified ran
  refine ⟨order, ?_, fun other otherQualified => ⟨fun same => ?_, ?_⟩⟩
  · cases last : lastStored? name history with
    | some bytes =>
        rw [last, Option.some_or] at contents
        exact read_eq_ok_iff.mpr contents
    | none =>
        rw [last, Option.none_or] at contents
        rw [read, read, contents]
  · exact normalize_modulePath_injective otherQualified qualified same
  · exact normalize_temporaryPath_modulePath_ne qualified otherQualified options.temporarySuffix

/-- A memory with a module of each of two names, of which the second lies behind a file. -/
def blockedMemory : MemoryFiles :=
  ⟨[("C.k", [1]), ("A", [9]), ("A/B.k", [5])], [], false⟩

/-- The first module has been replaced twice, and the second has been kept. -/
theorem storeAll_blockedMemory_lastWriteWins :
    ∃ history after,
      storeAll operations ⟨"k", "t"⟩ "" [⟨"C", [2]⟩, ⟨"A.B", [6]⟩, ⟨"C", [3]⟩, ⟨"", [4]⟩]
        blockedMemory = (history, after) ∧
      isQualifiedName "C" = true ∧ after.read "C.k" = .ok [3] ∧
      isQualifiedName "A.B" = true ∧ after.read "A/B.k" = .ok [5] := by
  have ran : storeAll operations ⟨"k", "t"⟩ "" [⟨"C", [2]⟩, ⟨"A.B", [6]⟩, ⟨"C", [3]⟩, ⟨"", [4]⟩]
      blockedMemory =
        ([(⟨"C", [2]⟩, .ok "C.k"),
          (⟨"A.B", [6]⟩, .error (.file "A/B.k" (.invalidPath "A" "is a file"))),
          (⟨"C", [3]⟩, .ok "C.k"),
          (⟨"", [4]⟩, .error (.invalidName "" "name is empty"))],
        ⟨[("C.k", [3]), ("A", [9]), ("A/B.k", [5])], [], false⟩) := by
    rfl
  have first : isQualifiedName "C" = true := by decide +kernel
  have second : isQualifiedName "A.B" = true := by decide +kernel
  have firstPath : modulePath "" "C" "k" = "C.k" := by decide +kernel
  have secondPath : modulePath "" "A.B" "k" = "A/B.k" := by decide +kernel
  have firstRead := (storeAll_lastWriteWins first ran).2.1
  have secondRead := (storeAll_lastWriteWins second ran).2.1
  simp only [firstPath] at firstRead
  simp only [secondPath] at secondRead
  exact ⟨_, _, ran, first, firstRead, second, secondRead⟩

end MemoryFiles
end LateBinding
