import LateBinding.Proofs.Storage.Memory
import Mathlib.Data.List.Induction

/-!
# Files apart from directories

A write is refused where a directory is, and a directory is not made where a file is, so neither puts
a file and a directory at one path.  Renaming looks at the files only.  A path is therefore both a file
and a directory exactly when a file that is still there has been renamed onto a directory.
-/

namespace LateBinding
namespace MemoryFiles

/-- A change of the files and directories in memory. -/
inductive Change where
  | write (path : String) (content : Bytes)
  | createDirectories (path : String)
  | rename (source target : String)
  | remove (path : String)

/-- The memory after a change; one that fails may have made some of its directories. -/
def after (memory : MemoryFiles) : Change → MemoryFiles
  | .write path content => (memory.write path content).2
  | .createDirectories path => (memory.createDirectories path).2
  | .rename source target => (memory.rename source target).2
  | .remove path => (memory.remove path).2

/-- What changes make of an empty memory. -/
def run (changes : List Change) : MemoryFiles :=
  changes.foldl after empty

theorem run_append (earlier later : List Change) :
    run (earlier ++ later) = later.foldl after (run earlier) :=
  List.foldl_append

/-- A path is a file and a directory at the same time. -/
def Overlaps (memory : MemoryFiles) (path : String) : Prop :=
  memory.isFile path = true ∧ memory.isDirectory path = true

/-- A file is renamed onto the directory at a path. -/
def Change.Covers (memory : MemoryFiles) (path : String) : Change → Prop
  | rename source target =>
      memory.isFile source = true ∧ memory.isDirectory target = true ∧
        normalize target = normalize path
  | _ => False

variable {memory : MemoryFiles} {path : String}

theorem Change.Covers.isDirectory
    {change : Change}
    (covers : change.Covers memory path) :
    memory.isDirectory path = true := by
  cases change with
  | rename source target =>
      obtain ⟨_, directory, same⟩ := covers
      rwa [MemoryFiles.isDirectory, ← same]
  | _ => exact covers.elim

theorem isFile_eq_true_iff :
    memory.isFile path = true ↔ memory.content? (normalize path) ≠ none := by
  rw [isFile, Option.isSome_iff_ne_none]

theorem isDirectory_eq_true_iff :
    memory.isDirectory path = true ↔ normalize path ∈ memory.directories := by
  rw [isDirectory, List.contains_iff_mem]

/-! ## Directories -/

theorem mem_insertDirectory {key other : String} {directories : List String} :
    other ∈ insertDirectory key directories ↔ other = key ∨ other ∈ directories := by
  unfold insertDirectory
  split
  · next present =>
    have among := List.contains_iff_mem.mp present
    constructor
    · exact .inr
    · rintro (rfl | old)
      · exact among
      · exact old
  · exact List.mem_cons

theorem subset_addDirectories (memory : MemoryFiles) (keys : List String) :
    memory.directories ⊆ (memory.addDirectories keys).2.directories := by
  induction keys generalizing memory with
  | nil => exact List.Subset.refl _
  | cons key rest inductionHypothesis =>
      rw [addDirectories]
      split
      · exact inductionHypothesis memory
      · split
        · exact List.Subset.refl _
        · intro other present
          apply inductionHypothesis
          exact mem_insertDirectory.mpr (.inr present)

/-- Where a directory has been made there was one before, or there is no file. -/
theorem mem_directories_of_addDirectories
    {keys : List String}
    {key : String}
    (present : key ∈ (memory.addDirectories keys).2.directories) :
    key ∈ memory.directories ∨ memory.content? key = none := by
  induction keys generalizing memory with
  | nil => exact .inl present
  | cons first rest inductionHypothesis =>
      rw [addDirectories] at present
      split at present
      · exact inductionHypothesis present
      · split at present
        · exact .inl present
        · next noFile =>
          rcases inductionHypothesis present with old | none
          · rcases mem_insertDirectory.mp old with rfl | old
            · exact .inr (Option.not_isSome_iff_eq_none.mp noFile)
            · exact .inl old
          · exact .inr none

theorem isFile_addDirectories (memory : MemoryFiles) (keys : List String) (path : String) :
    (memory.addDirectories keys).2.isFile path = memory.isFile path := by
  rw [isFile, isFile, content?_addDirectories]

/-! ## Single changes -/

/-- A file is not written where a directory is. -/
theorem isDirectory_of_write_ok
    {content : Bytes}
    {written : MemoryFiles}
    (result : memory.write path content = (.ok (), written)) :
    memory.isDirectory path = false := by
  unfold write change at result
  dsimp only at result
  split at result
  · nomatch (Prod.mk.inj result).1
  · split at result
    · nomatch (Prod.mk.inj result).1
    · next free => exact Bool.eq_false_iff.mpr free

/--
A change makes directories, none if it is refused, or it leaves the directories alone and gives a file
only to a path that has one, that is no directory, or onto which a file is renamed.
-/
theorem after_cases (memory : MemoryFiles) (change : Change) :
    (∃ keys, memory.after change = (memory.addDirectories keys).2) ∨
      (memory.after change).directories = memory.directories ∧
        ∀ path, (memory.after change).isFile path = true →
          memory.isFile path = true ∨ memory.isDirectory path = false ∨
            change.Covers memory path := by
  cases change with
  | write target content =>
      obtain ⟨cause, refused⟩ | made := memory.write_cases target content
      · have same : memory.after (.write target content) = memory := congrArg Prod.snd refused
        exact .inl ⟨[], same⟩
      · refine .inr ⟨congrArg (directories ∘ Prod.snd) made, ?_⟩
        intro path there
        have free := isDirectory_of_write_ok made
        rw [isFile_eq_true_iff, after, show memory.write target content = _ from made,
          content?_insertFile, Function.update_apply] at there
        by_cases same : normalize path = normalize target
        · rw [isDirectory, ← same] at free
          exact .inr (.inl free)
        · rw [if_neg same] at there
          exact .inl (isFile_eq_true_iff.mpr there)
  | createDirectories path =>
      obtain ⟨cause, refused⟩ | made := memory.change_cases (normalize path) _
      · have same : memory.after (.createDirectories path) = memory := congrArg Prod.snd refused
        exact .inl ⟨[], same⟩
      · exact .inl ⟨_, congrArg Prod.snd made⟩
  | rename source target =>
      obtain ⟨cause, refused⟩ | ⟨content, found, made⟩ := memory.rename_cases source target
      · have same : memory.after (.rename source target) = memory := congrArg Prod.snd refused
        exact .inl ⟨[], same⟩
      · refine .inr ⟨congrArg (directories ∘ Prod.snd) made, ?_⟩
        intro path there
        rw [isFile_eq_true_iff, after, show memory.rename source target = _ from made,
          content?_insertFile { memory with files := eraseFile _ _ }, content?_eraseFile,
          Function.update_apply, Function.update_apply] at there
        by_cases same : normalize path = normalize target
        · cases directory : memory.isDirectory path with
          | false => exact .inr (.inl rfl)
          | true =>
              have moved : memory.isFile source = true :=
                isFile_eq_true_iff.mpr (Option.ne_none_iff_exists'.mpr ⟨content, found⟩)
              rw [isDirectory, same] at directory
              exact .inr (.inr ⟨moved, directory, same.symm⟩)
        · rw [if_neg same] at there
          split at there
          · exact absurd rfl there
          · exact .inl (isFile_eq_true_iff.mpr there)
  | remove path =>
      obtain ⟨cause, refused⟩ | made := memory.remove_cases path
      · have same : memory.after (.remove path) = memory := congrArg Prod.snd refused
        exact .inl ⟨[], same⟩
      · refine .inr ⟨congrArg (directories ∘ Prod.snd) made, ?_⟩
        intro other there
        rw [isFile_eq_true_iff, after, show memory.remove path = _ from made, content?_eraseFile,
          Function.update_apply] at there
        split at there
        · exact absurd rfl there
        · exact .inl (isFile_eq_true_iff.mpr there)

/-- A directory is never taken away. -/
theorem isDirectory_after
    (there : memory.isDirectory path = true)
    (change : Change) :
    (memory.after change).isDirectory path = true := by
  rw [isDirectory_eq_true_iff] at there ⊢
  rcases memory.after_cases change with ⟨keys, added⟩ | ⟨kept, _⟩
  · rw [added]
    exact memory.subset_addDirectories keys there
  · rw [kept]
    exact there

/-- A path that has become a file and a directory has had a file renamed onto the directory. -/
theorem Overlaps.of_after
    {change : Change}
    (overlaps : (memory.after change).Overlaps path) :
    memory.Overlaps path ∨ change.Covers memory path := by
  obtain ⟨file, directory⟩ := overlaps
  rcases memory.after_cases change with ⟨keys, added⟩ | ⟨kept, fresh⟩
  · rw [added, isFile_addDirectories] at file
    rw [added, isDirectory_eq_true_iff] at directory
    rcases mem_directories_of_addDirectories directory with old | none
    · exact .inl ⟨file, isDirectory_eq_true_iff.mpr old⟩
    · exact absurd none (isFile_eq_true_iff.mp file)
  · rw [isDirectory, kept] at directory
    rcases fresh path file with old | free | covers
    · exact .inl ⟨old, directory⟩
    · rw [isDirectory, directory] at free
      nomatch free
    · exact .inr covers

/-! ## Runs of changes -/

theorem isDirectory_run_append
    {earlier : List Change}
    (there : (run earlier).isDirectory path = true)
    (later : List Change) :
    (run (earlier ++ later)).isDirectory path = true := by
  rw [run_append]
  apply List.foldlRecOn (motive := fun memory => memory.isDirectory path = true) later after there
  intro memory kept change _
  exact isDirectory_after kept change

/--
After any changes of an empty memory, a path is a file and a directory exactly when it is a file and
there has been a renaming of a file onto it while it was a directory.
-/
theorem run_overlaps_iff (changes : List Change) (path : String) :
    (run changes).Overlaps path ↔
      (run changes).isFile path = true ∧
        ∃ earlier change later, changes = earlier ++ change :: later ∧
          change.Covers (run earlier) path := by
  constructor
  · intro overlaps
    refine ⟨overlaps.1, ?_⟩
    induction changes using List.reverseRecOn with
    | nil => nomatch overlaps.1
    | append_singleton earlier change inductionHypothesis =>
        rw [run_append] at overlaps
        rcases Overlaps.of_after overlaps with before | covers
        · obtain ⟨front, first, between, rfl, covers⟩ := inductionHypothesis before
          exact ⟨front, first, between ++ [change], by simp, covers⟩
        · exact ⟨earlier, change, [], rfl, covers⟩
  · rintro ⟨file, earlier, change, later, rfl, covers⟩
    exact ⟨file, isDirectory_run_append covers.isDirectory (change :: later)⟩

/-- A file is made beside a directory and renamed onto it. -/
theorem run_overlaps_of_rename :
    (run [.createDirectories "/d", .write "/f" [], .rename "/f" "/d"]).Overlaps "/d" := by
  constructor <;> decide +kernel

end MemoryFiles
end LateBinding
