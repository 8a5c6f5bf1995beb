import LateBinding.Proofs.Storage.Paths
import LateBinding.Proofs.Storage.Separation

/-!
# Listed paths

A file is kept under the normalised form of the path that it was given, and the list of files shows that
form.  Normalising drops one slash at the end, and nothing is dropped from the paths of the files that are
there from the start.  So a listed path is normalised to itself, and is a path of its file, unless a path
was given that leaves a slash at its end.
-/

namespace LateBinding
namespace MemoryFiles

/-- The memory after some changes. -/
def runFrom (memory : MemoryFiles) (changes : List Change) : MemoryFiles :=
  changes.foldl after memory

/-- The path to which a change gives a file. -/
def Change.target? : Change → Option String
  | write path _ => some path
  | rename _ target => some target
  | _ => none

/-- There is a slash at the end of a path, and something in front of it. -/
def EndsInSlash (path : List Char) : Prop :=
  path.getLast? = some '/' ∧ path.dropLast ≠ []

/--
A path ends in a slash that was left over: a file was there under the path from the start, or a change has
given a file to the path with one more slash.
-/
def LeavesSlash (files : List (String × Bytes)) (changes : List Change) (path : String) : Prop :=
  EndsInSlash path.toList ∧
    ((∃ file ∈ files, forwardSlashes file.1.toList = path.toList) ∨
      ∃ change ∈ changes, ∃ target ∈ change.target?,
        forwardSlashes target.toList = path.toList ++ ['/'])

/-- A path under which a file is kept is a path of the file. -/
structure IsUsable (memory : MemoryFiles) (path : String) : Prop where
  isSettled : normalize path = path
  isFile : memory.isFile path = true
  reads : ∃ content, memory.content? path = some content ∧ memory.read path = .ok content

variable {memory : MemoryFiles} {files : List (String × Bytes)} {path key : String}

/-! ## Normalised paths -/

theorem toList_normalize (path : String) :
    (normalize path).toList = withoutFinalSlash (forwardSlashes path.toList) :=
  String.toList_ofList

theorem withoutFinalSlash_of_endsInSlash {path : List Char} (ends : EndsInSlash path) :
    withoutFinalSlash path = path.dropLast := by
  rw [withoutFinalSlash, if_pos (by simpa [EndsInSlash] using ends)]

theorem withoutFinalSlash_of_not_endsInSlash {path : List Char} (ends : ¬ EndsInSlash path) :
    withoutFinalSlash path = path := by
  rw [withoutFinalSlash, if_neg (by simpa [EndsInSlash] using ends)]

theorem backslash_notMem_forwardSlashes (path : List Char) : '\\' ∉ forwardSlashes path := by
  intro found
  obtain ⟨character, _, same⟩ := List.mem_map.mp found
  split at same
  · nomatch same
  · next other => exact other same

theorem backslash_notMem_normalize (path : String) : '\\' ∉ (normalize path).toList := by
  rw [toList_normalize, withoutFinalSlash]
  split
  · exact fun found => backslash_notMem_forwardSlashes _ (List.dropLast_subset _ found)
  · exact backslash_notMem_forwardSlashes _

/-- A path without backslashes is normalised to itself unless it ends in a slash. -/
theorem normalize_eq_self_iff (noBackslash : '\\' ∉ path.toList) :
    normalize path = path ↔ ¬ EndsInSlash path.toList := by
  rw [← String.toList_inj, toList_normalize, forwardSlashes_of_notMem noBackslash]
  constructor
  · intro same ends
    rw [withoutFinalSlash_of_endsInSlash ends] at same
    have shorter := congrArg List.length same
    have filled : path.toList.length ≠ 0 := fun empty => by
      rw [List.length_eq_zero_iff.mp empty] at ends
      nomatch ends.1
    rw [List.length_dropLast] at shorter
    omega
  · exact withoutFinalSlash_of_not_endsInSlash

/-- A slash that is left at the end has been followed by another one. -/
theorem forwardSlashes_of_normalize
    {target : String}
    (same : normalize target = path)
    (ends : EndsInSlash path.toList) :
    forwardSlashes target.toList = path.toList ++ ['/'] := by
  have key : withoutFinalSlash (forwardSlashes target.toList) = path.toList := by
    rw [← toList_normalize, same]
  by_cases dropped : EndsInSlash (forwardSlashes target.toList)
  · rw [withoutFinalSlash_of_endsInSlash dropped] at key
    rw [← key]
    exact (List.dropLast_append_getLast? '/' dropped.1).symm
  · rw [withoutFinalSlash_of_not_endsInSlash dropped] at key
    exact absurd (key ▸ ends) dropped

/-! ## Where the paths come from -/

/-- A change gives a file to no path but its target. -/
theorem content?_of_after
    {change : Change}
    (kept : (memory.after change).content? key ≠ none) :
    memory.content? key ≠ none ∨ ∃ target ∈ change.target?, normalize target = key := by
  cases change with
  | write target content =>
      obtain ⟨cause, refused⟩ | made := memory.write_cases target content
      · rw [after, show memory.write target content = _ from refused] at kept
        exact .inl kept
      · rw [after, show memory.write target content = _ from made, content?_insertFile,
          Function.update_apply] at kept
        split at kept
        · next same => exact .inr ⟨target, rfl, same.symm⟩
        · exact .inl kept
  | createDirectories target =>
      rw [after, content?_createDirectories] at kept
      exact .inl kept
  | rename source target =>
      obtain ⟨cause, refused⟩ | ⟨content, _, made⟩ := memory.rename_cases source target
      · rw [after, show memory.rename source target = _ from refused] at kept
        exact .inl kept
      · rw [after, show memory.rename source target = _ from made,
          content?_insertFile { memory with files := eraseFile _ _ }, content?_eraseFile,
          Function.update_apply, Function.update_apply] at kept
        split at kept
        · next same => exact .inr ⟨target, rfl, same.symm⟩
        split at kept
        · exact absurd rfl kept
        · exact .inl kept
  | remove target =>
      obtain ⟨cause, refused⟩ | made := memory.remove_cases target
      · rw [after, show memory.remove target = _ from refused] at kept
        exact .inl kept
      · rw [after, show memory.remove target = _ from made, content?_eraseFile,
          Function.update_apply] at kept
        split at kept
        · exact absurd rfl kept
        · exact .inl kept

/-- The files that are there from the start have the paths that were given, with slashes alone. -/
theorem content?_of_ofFiles (kept : (ofFiles files).content? key ≠ none) :
    ∃ file ∈ files, forwardSlashes file.1.toList = key.toList := by
  induction files using List.reverseRecOn with
  | nil => exact absurd rfl kept
  | append_singleton earlier file inductionHypothesis =>
      have added : ofFiles (earlier ++ [file]) =
          { ofFiles earlier with
            files := insertFile (String.ofList (forwardSlashes file.1.toList)) file.2
              (ofFiles earlier).files } := by
        rw [ofFiles, List.foldl_append]
        rfl
      rw [added, content?_insertFile, Function.update_apply] at kept
      split at kept
      · next same => exact ⟨file, by simp, by rw [same, String.toList_ofList]⟩
      · obtain ⟨other, among, same⟩ := inductionHypothesis kept
        exact ⟨other, List.mem_append_left _ among, same⟩

/-- The path of a file has been given to it at the start or by a change. -/
theorem content?_of_runFrom
    {changes : List Change}
    (kept : ((ofFiles files).runFrom changes).content? key ≠ none) :
    (∃ file ∈ files, forwardSlashes file.1.toList = key.toList) ∨
      ∃ change ∈ changes, ∃ target ∈ change.target?, normalize target = key := by
  induction changes using List.reverseRecOn with
  | nil => exact .inl (content?_of_ofFiles kept)
  | append_singleton earlier change inductionHypothesis =>
      rw [runFrom, List.foldl_append] at kept
      rcases content?_of_after kept with before | ⟨target, changed, same⟩
      · rcases inductionHypothesis before with initial | ⟨other, among, given⟩
        · exact .inl initial
        · exact .inr ⟨other, List.mem_append_left _ among, given⟩
      · exact .inr ⟨change, by simp, target, changed, same⟩

/-! ## Listed paths -/

theorem mem_paths_iff : path ∈ memory.paths ↔ memory.content? path ≠ none := by
  rw [paths, List.mem_mergeSort, content?, Ne, List.lookup_eq_none_iff]
  simp [List.mem_map]

theorem backslash_notMem_of_mem_paths
    {changes : List Change}
    (listed : path ∈ ((ofFiles files).runFrom changes).paths) :
    '\\' ∉ path.toList := by
  rcases content?_of_runFrom (mem_paths_iff.mp listed) with
    ⟨file, _, same⟩ | ⟨_, _, target, _, rfl⟩
  · exact same ▸ backslash_notMem_forwardSlashes file.1.toList
  · exact backslash_notMem_normalize target

/--
After any changes of any files, a listed path is a path of its file and the file is read under it, except
for the paths that end in a slash that was left over.
-/
theorem runFrom_isUsable_iff
    (files : List (String × Bytes))
    (changes : List Change)
    {path : String}
    (listed : path ∈ ((ofFiles files).runFrom changes).paths) :
    ((ofFiles files).runFrom changes).IsUsable path ↔ ¬ LeavesSlash files changes path := by
  have settled := normalize_eq_self_iff (backslash_notMem_of_mem_paths listed)
  have kept := mem_paths_iff.mp listed
  constructor
  · rintro usable ⟨ends, _⟩
    exact settled.mp usable.isSettled ends
  · intro noSlash
    have same : normalize path = path := by
      refine settled.mpr fun ends => noSlash ⟨ends, ?_⟩
      rcases content?_of_runFrom kept with initial | ⟨change, among, target, given, named⟩
      · exact .inl initial
      · exact .inr ⟨change, among, target, given, forwardSlashes_of_normalize named ends⟩
    obtain ⟨content, found⟩ := Option.ne_none_iff_exists'.mp kept
    refine ⟨same, isFile_eq_true_iff.mpr (same.symm ▸ kept), content, found, ?_⟩
    exact read_eq_ok_iff.mpr (same.symm ▸ found)

theorem runFrom_isUsable_of_renamed :
    "/c" ∈ ((ofFiles [("a\\b", [1])]).runFrom [.rename "a/b" "/c\\"]).paths ∧
      ¬ LeavesSlash [("a\\b", [1])] [.rename "a/b" "/c\\"] "/c" ∧
      ((ofFiles [("a\\b", [1])]).runFrom [.rename "a/b" "/c\\"]).IsUsable "/c" := by
  have listed : "/c" ∈ ((ofFiles [("a\\b", [1])]).runFrom [.rename "a/b" "/c\\"]).paths :=
    mem_paths_iff.mpr (Option.ne_none_iff_exists'.mpr ⟨[1], by decide +kernel⟩)
  have noSlash : ¬ LeavesSlash [("a\\b", [1])] [.rename "a/b" "/c\\"] "/c" :=
    fun leaves => absurd leaves.1.1 (by decide)
  exact ⟨listed, noSlash, (runFrom_isUsable_iff _ _ listed).mpr noSlash⟩

/-- Of two slashes at the end one is left, and of one slash at the start none is dropped. -/
theorem runFrom_loses_paths :
    (("/a/" ∈ ((ofFiles []).runFrom [.write "/a//" [1]]).paths) ∧
      ((ofFiles []).runFrom [.write "/a//" [1]]).isFile "/a/" = false ∧
      ((ofFiles []).runFrom [.write "/a//" [1]]).read "/a/" = .error (.notFound "/a")) ∧
    ("/b/" ∈ (ofFiles [("/b/", [1])]).paths ∧
      (ofFiles [("/b/", [1])]).isFile "/b/" = false ∧
      (ofFiles [("/b/", [1])]).read "/b/" = .error (.notFound "/b")) := by
  have left : ((ofFiles []).runFrom [.write "/a//" [1]]).content? "/a/" = some [1] := by decide +kernel
  have given : (ofFiles [("/b/", [1])]).content? "/b/" = some [1] := by decide +kernel
  refine ⟨⟨mem_paths_iff.mpr ?_, ?_, ?_⟩, mem_paths_iff.mpr ?_, ?_, ?_⟩
  · simp [left]
  · decide +kernel
  · decide +kernel
  · simp [given]
  · decide +kernel
  · decide +kernel

end MemoryFiles
end LateBinding
