import LateBinding.Proofs.Storage.Memory
import LateBinding.Storage.Path

/-!
# Paths of modules

The path of a module consists of its directory, the segments of its name with slashes between them,
and a point with the extension.  Identifiers hold no slash, backslash or point, so in memory the
first point behind the directory is the one in front of the extension, whatever the directory, the
extension and the temporary suffix are.  A temporary path has the form of a module's path with a
longer extension.
-/

namespace LateBinding

open Text

/-! ## Identifiers -/

theorem continuesName_of_startsName {character : Char} (starts : startsName character = true) :
    continuesName character = true := by
  simp only [startsName, continuesName, Bool.or_eq_true] at starts ⊢
  exact starts.imp (.imp isAlphanumeric_of_isAlphabetic id) id

theorem continuesName_of_mem
    {segment : List Char}
    (identifier : isIdentifier segment = true)
    {character : Char}
    (present : character ∈ segment) :
    continuesName character = true := by
  cases segment with
  | nil => nomatch present
  | cons first rest =>
      rw [isIdentifier, Bool.and_eq_true] at identifier
      obtain rfl | later := List.mem_cons.mp present
      · exact continuesName_of_startsName identifier.1
      · exact List.all_eq_true.mp identifier.2 character later

theorem ne_nil_of_isIdentifier {segment : List Char} (identifier : isIdentifier segment = true) :
    segment ≠ [] := by
  rintro rfl
  nomatch identifier

/-- A character of which names cannot consist does not occur in identifiers. -/
theorem notMem_of_isIdentifier
    {segment : List Char}
    (identifier : isIdentifier segment = true)
    {character : Char}
    (foreign : continuesName character = false) :
    character ∉ segment := by
  intro present
  rw [continuesName_of_mem identifier present] at foreign
  nomatch foreign

theorem continuesName_slash : continuesName '/' = false := by decide +kernel

theorem continuesName_backslash : continuesName '\\' = false := by decide +kernel

theorem continuesName_point : continuesName '.' = false := by decide +kernel

theorem nameSegments_ne_nil (name : String) : nameSegments name ≠ [] :=
  splitOn_ne_nil '.' name.toList

/-! ## Joined paths -/

namespace Path

variable {segment : List Char}

theorem isAbsolute_append
    (identifier : isIdentifier segment = true)
    (behind : List Char) :
    isAbsolute (segment ++ behind) = false := by
  obtain ⟨first, rest, rfl⟩ := List.exists_cons_of_ne_nil (ne_nil_of_isIdentifier identifier)
  have noSlash : '/' ≠ first := fun same =>
    notMem_of_isIdentifier identifier continuesName_slash (same ▸ List.mem_cons_self)
  simp [isAbsolute, noSlash.symm]

/-- Joining with nothing shows the separator that is put in front of a relative path. -/
theorem push_eq_append {part : List Char} (relative : isAbsolute part = false) (path : List Char) :
    push path part = push path [] ++ part := by
  have relativeNil : isAbsolute [] = false := rfl
  unfold push
  rw [relative, relativeNil]
  simp only [Bool.false_eq_true, if_false]
  split <;> simp

/-- A slash is put behind a path that ends with an identifier. -/
theorem push_append_nil
    (identifier : isIdentifier segment = true)
    (front : List Char) :
    push (front ++ segment) [] = front ++ segment ++ ['/'] := by
  have nonempty : segment ≠ [] := ne_nil_of_isIdentifier identifier
  have noSlash : segment.getLast nonempty ≠ '/' := fun same =>
    notMem_of_isIdentifier identifier continuesName_slash (same ▸ List.getLast_mem nonempty)
  have last : (front ++ segment).getLast? = some (segment.getLast nonempty) := by
    rw [List.getLast?_append_of_ne_nil _ nonempty, List.getLast?_eq_some_getLast nonempty]
  simp [push, isAbsolute, last, noSlash, nonempty]

end Path

/-- Segments are put behind a directory with slashes between them. -/
theorem segmentPath_eq
    (extension directory : List Char)
    {segments : List (List Char)}
    (nonempty : segments ≠ [])
    (identifiers : ∀ segment ∈ segments, isIdentifier segment = true) :
    segmentPath extension directory segments =
      Path.push directory [] ++ joinWith '/' segments ++ '.' :: extension := by
  -- Each segment becomes part of the directory of the later ones, so the directory is arbitrary.
  induction segments generalizing directory with
  | nil => exact absurd rfl nonempty
  | cons segment later inductionHypothesis =>
      have identifier := identifiers segment List.mem_cons_self
      cases later with
      | nil =>
          rw [segmentPath, Path.push_eq_append (Path.isAbsolute_append identifier _), joinWith,
            List.append_assoc]
      | cons next later =>
          have relative := Path.isAbsolute_append identifier []
          rw [List.append_nil] at relative
          rw [segmentPath, Path.push_eq_append relative,
            inductionHypothesis _ (by simp) fun other present =>
              identifiers other (List.mem_cons_of_mem _ present),
            Path.push_append_nil identifier, joinWith_cons_cons]
          · simp
          · simp

/-! ## Keys of modules -/

/-- The segments of a name with slashes between them. -/
def namePath (name : String) : List Char :=
  joinWith '/' (nameSegments name)

section Qualified

variable {name : String}

theorem isIdentifier_of_mem_nameSegments
    (qualified : isQualifiedName name = true) :
    ∀ segment ∈ nameSegments name, isIdentifier segment = true :=
  List.all_eq_true.mp qualified

theorem toList_modulePath
    (qualified : isQualifiedName name = true)
    (directory extension : String) :
    (modulePath directory name extension).toList =
      Path.push directory.toList [] ++ namePath name ++ '.' :: extension.toList := by
  rw [modulePath, String.toList_ofList,
    segmentPath_eq _ _ (nameSegments_ne_nil name) (isIdentifier_of_mem_nameSegments qualified),
    namePath]

/-- A temporary path is the path of a module with a longer extension. -/
theorem temporaryPath_modulePath
    (qualified : isQualifiedName name = true)
    (directory extension suffix : String) :
    temporaryPath (modulePath directory name extension) suffix =
      modulePath directory name (extension ++ "." ++ suffix) := by
  apply String.toList_injective
  simp [temporaryPath, toList_modulePath qualified]

theorem notMem_joinWith
    {separator character : Char}
    {pieces : List (List Char)}
    (different : character ≠ separator)
    (absent : ∀ piece ∈ pieces, character ∉ piece) :
    character ∉ joinWith separator pieces := by
  induction pieces with
  | nil => simp [joinWith]
  | cons piece later inductionHypothesis =>
      have first := absent piece List.mem_cons_self
      have rest := inductionHypothesis fun other present =>
        absent other (List.mem_cons_of_mem _ present)
      cases later with
      | nil => exact first
      | cons next later => simp [first, different, rest]

theorem notMem_namePath
    (qualified : isQualifiedName name = true)
    {character : Char}
    (foreign : continuesName character = false)
    (different : character ≠ '/') :
    character ∉ namePath name :=
  notMem_joinWith different fun segment present =>
    notMem_of_isIdentifier (isIdentifier_of_mem_nameSegments qualified segment present) foreign

/-- Names of which the segments have the same path are the same. -/
theorem namePath_injective
    {other : String}
    (qualified : isQualifiedName name = true)
    (otherQualified : isQualifiedName other = true)
    (same : namePath name = namePath other) :
    name = other := by
  have noSlash : ∀ {name : String}, isQualifiedName name = true →
      splitOn '/' (namePath name) = nameSegments name := fun qualified =>
    splitOn_joinWith (nameSegments_ne_nil _) fun segment present =>
      notMem_of_isIdentifier (isIdentifier_of_mem_nameSegments qualified segment present)
        continuesName_slash
  have segments : nameSegments name = nameSegments other := by
    rw [← noSlash qualified, same, noSlash otherQualified]
  apply String.toList_injective
  rw [← joinWith_splitOn '.' name.toList, ← joinWith_splitOn '.' other.toList]
  exact congrArg (joinWith '.') segments

end Qualified

namespace MemoryFiles

variable {name other directory extension : String}

theorem forwardSlashes_of_notMem {path : List Char} (absent : '\\' ∉ path) :
    forwardSlashes path = path := by
  rw [forwardSlashes, List.map_congr_left (g := id), List.map_id]
  intro character present
  have noBackslash : character ≠ '\\' := fun same => absent (same ▸ present)
  exact if_neg noBackslash

/-- In the key of a module the extension follows on the first point behind the directory. -/
theorem toList_normalize_modulePath
    (qualified : isQualifiedName name = true)
    (directory extension : String) :
    (normalize (modulePath directory name extension)).toList =
      forwardSlashes (Path.push directory.toList []) ++ namePath name ++
        '.' :: withoutSlash (forwardSlashes extension.toList) := by
  rw [normalize, String.toList_ofList, toList_modulePath qualified, forwardSlashes_append,
    forwardSlashes_append,
    forwardSlashes_of_notMem (notMem_namePath qualified continuesName_backslash (by decide)),
    show forwardSlashes ('.' :: extension.toList) = '.' :: forwardSlashes extension.toList from rfl,
    withoutFinalSlash_append_cons _ _ (by decide)]

/-- Equal keys come from equal names, and from extensions that differ in slashes at most. -/
theorem eq_of_normalize_modulePath_eq
    {otherExtension : String}
    (qualified : isQualifiedName name = true)
    (otherQualified : isQualifiedName other = true)
    (same : normalize (modulePath directory name extension) =
      normalize (modulePath directory other otherExtension)) :
    name = other ∧
      withoutSlash (forwardSlashes extension.toList) =
        withoutSlash (forwardSlashes otherExtension.toList) := by
  have keys := congrArg String.toList same
  rw [toList_normalize_modulePath qualified, toList_normalize_modulePath otherQualified,
    List.append_assoc, List.append_assoc, List.append_cancel_left_eq] at keys
  -- No name holds a point, so on both sides the first one is that of the extension.
  have pieces := congrArg (splitOn '.') keys
  rw [splitOn_append_cons (notMem_namePath qualified continuesName_point (by decide)),
    splitOn_append_cons (notMem_namePath otherQualified continuesName_point (by decide))] at pieces
  have paths := (List.cons.inj pieces).1
  rw [paths, List.append_cancel_left_eq] at keys
  exact ⟨namePath_injective qualified otherQualified paths, (List.cons.inj keys).2⟩

/-- Modules of two names lie under two keys. -/
theorem normalize_modulePath_injective
    (qualified : isQualifiedName name = true)
    (otherQualified : isQualifiedName other = true)
    (same : normalize (modulePath directory name extension) =
      normalize (modulePath directory other extension)) :
    name = other :=
  (eq_of_normalize_modulePath_eq qualified otherQualified same).1

/-- No module lies where one is put while it is being written. -/
theorem normalize_temporaryPath_modulePath_ne
    (qualified : isQualifiedName name = true)
    (otherQualified : isQualifiedName other = true)
    (suffix : String) :
    normalize (temporaryPath (modulePath directory other extension) suffix) ≠
      normalize (modulePath directory name extension) := by
  intro same
  -- The temporary path is that of a module too, so the names are equal and the lengths decide.
  have sameName := same
  rw [temporaryPath_modulePath otherQualified] at sameName
  obtain rfl := (eq_of_normalize_modulePath_eq otherQualified qualified sameName).1
  exact normalize_temporaryPath_ne _ suffix same

end MemoryFiles
end LateBinding
