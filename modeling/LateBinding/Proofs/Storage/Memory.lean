import LateBinding.Proofs.Lookup
import LateBinding.Proofs.Storage.Contract
import LateBinding.Storage.Memory
import LateBinding.Storage.Path

/-!
# Files in memory keep the promise

Each path stands for the key that it is normalised to.  Look-up after every change of the files is a
change of the look-up function, and a point with anything behind it makes a key longer, whatever
slashes are dropped at the end.
-/

namespace LateBinding
namespace MemoryFiles

/-! ## Keys -/

/-- A text without a slash at its end. -/
def withoutSlash (text : List Char) : List Char :=
  if text.getLast? = some '/' then text.dropLast else text

theorem forwardSlashes_append (front behind : List Char) :
    forwardSlashes (front ++ behind) = forwardSlashes front ++ forwardSlashes behind :=
  List.map_append

/-- Behind a character that is no slash nothing keeps the last slash. -/
theorem withoutFinalSlash_append_cons
    (front behind : List Char)
    {character : Char}
    (noSlash : character ≠ '/') :
    withoutFinalSlash (front ++ character :: behind) =
      front ++ character :: withoutSlash behind := by
  rcases List.eq_nil_or_concat behind with rfl | ⟨init, last, rfl⟩
  · simp [withoutFinalSlash, withoutSlash, noSlash]
  · rw [List.concat_eq_append, show front ++ character :: (init ++ [last]) =
      (front ++ character :: init) ++ [last] by simp]
    simp only [withoutFinalSlash, withoutSlash, List.getLast?_concat, List.dropLast_concat]
    by_cases slash : last = '/' <;> simp [slash]

theorem length_withoutFinalSlash_le (path : List Char) :
    (withoutFinalSlash path).length ≤ path.length := by
  unfold withoutFinalSlash
  split <;> simp

/-- A point with anything behind it makes another key. -/
theorem normalize_temporaryPath_ne (path suffix : String) :
    normalize (temporaryPath path suffix) ≠ normalize path := by
  intro same
  have keys : withoutFinalSlash (forwardSlashes (path.toList ++ '.' :: suffix.toList)) =
      withoutFinalSlash (forwardSlashes path.toList) := by
    have := congrArg String.toList same
    simpa [normalize, temporaryPath] using this
  rw [forwardSlashes_append, show forwardSlashes ('.' :: suffix.toList) =
    '.' :: forwardSlashes suffix.toList from rfl,
    withoutFinalSlash_append_cons _ _ (by decide)] at keys
  have longer := congrArg List.length keys
  have bound := length_withoutFinalSlash_le (forwardSlashes path.toList)
  simp only [List.length_append, List.length_cons] at longer
  omega

/-! ## Contents -/

/-- The contents of the files in memory, by the keys of their paths. -/
def view : FileView MemoryFiles String where
  place := normalize
  held memory := memory.content?

theorem content?_insertFile (memory : MemoryFiles) (key : String) (content : Bytes) :
    ({ memory with files := insertFile key content memory.files } : MemoryFiles).content? =
      Function.update memory.content? key (some content) := by
  funext other
  rw [Function.update_apply]
  exact lookup_of_insertion (insertFile key content) rfl (fun _ _ _ => rfl) other memory.files

theorem content?_eraseFile (memory : MemoryFiles) (key : String) :
    ({ memory with files := eraseFile key memory.files } : MemoryFiles).content? =
      Function.update memory.content? key none := by
  funext other
  rw [Function.update_apply]
  exact lookup_filter_ne key other memory.files

theorem content?_addDirectories (memory : MemoryFiles) (keys : List String) :
    (memory.addDirectories keys).2.content? = memory.content? := by
  induction keys generalizing memory with
  | nil => rfl
  | cons key rest inductionHypothesis =>
      rw [addDirectories]
      split
      · exact inductionHypothesis memory
      · split
        · rfl
        · exact inductionHypothesis _

theorem read_eq_ok_iff {memory : MemoryFiles} {path : String} {content : Bytes} :
    memory.read path = .ok content ↔ memory.content? (normalize path) = some content := by
  rw [read]
  cases memory.content? (normalize path) <;> simp

/-! ## All that an operation can do -/

theorem change_cases
    (memory : MemoryFiles)
    (key : String)
    (make : Except FileError Unit × MemoryFiles) :
    (∃ cause, memory.change key make = (.error cause, memory)) ∨ memory.change key make = make := by
  unfold change
  split
  · exact .inl ⟨_, rfl⟩
  · exact .inr rfl

theorem write_cases (memory : MemoryFiles) (path : String) (content : Bytes) :
    (∃ cause, operations.write path content memory = (.error cause, memory)) ∨
      operations.write path content memory =
        (.ok (), { memory with files := insertFile (normalize path) content memory.files }) := by
  obtain refused | made := memory.change_cases (normalize path) _
  · exact .inl refused
  · rw [show operations.write path content memory = _ from made]
    split
    · exact .inl ⟨_, rfl⟩
    · exact .inr rfl

theorem rename_cases (memory : MemoryFiles) (source target : String) :
    (∃ cause, operations.rename source target memory = (.error cause, memory)) ∨
      ∃ content, memory.content? (normalize source) = some content ∧
        operations.rename source target memory =
          (.ok (),
            { memory with
              files := insertFile (normalize target) content
                (eraseFile (normalize source) memory.files) }) := by
  obtain refused | made := memory.change_cases (normalize target) _
  · exact .inl refused
  · rw [show operations.rename source target memory = _ from made]
    split
    · exact .inl ⟨_, rfl⟩
    · next content found => exact .inr ⟨content, found, rfl⟩

theorem remove_cases (memory : MemoryFiles) (path : String) :
    (∃ cause, operations.remove path memory = (.error cause, memory)) ∨
      operations.remove path memory =
        (.ok (), { memory with files := eraseFile (normalize path) memory.files }) := by
  obtain refused | made := memory.change_cases (normalize path) _
  · exact .inl refused
  · rw [show operations.remove path memory = _ from made]
    split
    · exact .inl ⟨_, rfl⟩
    · exact .inr rfl

theorem content?_createDirectories (memory : MemoryFiles) (path : String) :
    (memory.createDirectories path).2.content? = memory.content? := by
  obtain ⟨cause, refused⟩ | made := memory.change_cases (normalize path) _
  · rw [createDirectories, refused]
  · rw [createDirectories, made, content?_addDirectories]

/-- Files in memory keep the promise of a file system. -/
theorem operations_obeys : operations.Obeys view where
  write_ok path content memory result := by
    obtain ⟨cause, refused⟩ | made := memory.write_cases path content
    · rw [refused] at result
      nomatch result
    · rw [made]
      exact memory.content?_insertFile (normalize path) content
  write_error path content memory cause result := by
    obtain ⟨cause, refused⟩ | made := memory.write_cases path content
    · exact ⟨memory.content? (normalize path),
        by rw [refused]; exact (Function.update_eq_self _ _).symm⟩
    · rw [made] at result
      nomatch result
  createDirectories_held path memory := memory.content?_createDirectories path
  rename_ok source target content memory held result := by
    obtain ⟨cause, refused⟩ | ⟨moved, found, made⟩ := memory.rename_cases source target
    · rw [refused] at result
      nomatch result
    · have same : moved = content := Option.some.inj (found.symm.trans held)
      have inserted :=
        content?_insertFile { memory with files := eraseFile (normalize source) memory.files }
          (normalize target) content
      rw [content?_eraseFile] at inserted
      rw [made, same]
      exact inserted
  rename_error source target memory cause result := by
    obtain ⟨cause, refused⟩ | ⟨moved, found, made⟩ := memory.rename_cases source target
    · rw [refused]
    · rw [made] at result
      nomatch result
  remove_ok path memory result := by
    obtain ⟨cause, refused⟩ | made := memory.remove_cases path
    · rw [refused] at result
      nomatch result
    · rw [made]
      exact memory.content?_eraseFile (normalize path)
  remove_error path memory cause result := by
    obtain ⟨cause, refused⟩ | made := memory.remove_cases path
    · rw [refused]
    · rw [made] at result
      nomatch result
  isFile_answer _ _ := rfl
  isFile_held _ _ := rfl
  isDirectory_held _ _ := rfl

end MemoryFiles
end LateBinding
