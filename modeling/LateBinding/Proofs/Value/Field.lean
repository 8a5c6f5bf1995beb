import LateBinding.Value.Field
import Mathlib.Data.List.Nodup

/-!
# Fields by name and by index

A name of a list of fields has an index, that of the first field of the name.  When no two fields share a
name, every field is the first of its own.
-/

namespace LateBinding

variable {fields : List Field} {field : Field} {name : String} {index : Nat}

theorem fieldIndex?_isSome_iff :
    (fieldIndex? fields name).isSome = true ↔ name ∈ fields.map Field.name := by
  rw [fieldIndex?, List.findIdx?_isSome, List.any_eq_true, List.mem_map]
  simp only [decide_eq_true_eq]

theorem findField?_eq_some_iff :
    findField? fields name = some (index, field) ↔
      fieldIndex? fields name = some index ∧ fields[index]? = some field := by
  constructor
  · intro found
    obtain ⟨first, located, found⟩ := Option.bind_eq_some_iff.mp found
    obtain ⟨other, there, same⟩ := Option.bind_eq_some_iff.mp found
    obtain ⟨rfl, rfl⟩ := Prod.mk.inj (Option.some.inj same)
    exact ⟨located, there⟩
  · rintro ⟨located, there⟩
    simp [findField?, located, there]

/-- The first field of a name has the name. -/
theorem exists_field_of_fieldIndex? (first : fieldIndex? fields name = some index) :
    ∃ field, fields[index]? = some field ∧ field.name = name := by
  obtain ⟨inside, named, _⟩ := List.findIdx?_eq_some_iff_getElem.mp first
  exact ⟨fields[index], List.getElem?_eq_getElem inside, of_decide_eq_true named⟩

theorem name_of_findField? (found : findField? fields name = some (index, field)) :
    field.name = name := by
  obtain ⟨first, there⟩ := findField?_eq_some_iff.mp found
  obtain ⟨other, same, named⟩ := exists_field_of_fieldIndex? first
  obtain rfl := Option.some.inj (there.symm.trans same)
  exact named

/-- A name that is declared is the name of a first field. -/
theorem exists_findField? (declared : name ∈ fields.map Field.name) :
    ∃ index field, findField? fields name = some (index, field) := by
  obtain ⟨index, first⟩ := Option.isSome_iff_exists.mp (fieldIndex?_isSome_iff.mpr declared)
  have inside : index < fields.length := (List.findIdx?_eq_some_iff_getElem.mp first).1
  exact ⟨index, fields[index], findField?_eq_some_iff.mpr ⟨first, List.getElem?_eq_getElem inside⟩⟩

/-- The first field of a name is the one that is found. -/
theorem find?_name_eq_some_iff :
    fields.find? (fun other => other.name = name) = some field ↔
      ∃ index, findField? fields name = some (index, field) := by
  simp only [findField?_eq_some_iff, fieldIndex?, List.find?_eq_some_iff_getElem,
    List.findIdx?_eq_some_iff_getElem, List.getElem?_eq_some_iff, Bool.not_eq_eq_eq_not, Bool.not_true,
    Bool.not_eq_true]
  constructor
  · rintro ⟨named, index, inside, rfl, earlier⟩
    exact ⟨index, ⟨inside, named, earlier⟩, inside, rfl⟩
  · rintro ⟨index, ⟨inside, named, earlier⟩, _, rfl⟩
    exact ⟨named, index, inside, rfl, earlier⟩

/-- A field is the first of its name when no two fields share a name. -/
theorem find?_name_of_mem
    (distinct : (fields.map Field.name).Nodup)
    (present : field ∈ fields) :
    fields.find? (fun other => other.name = field.name) = some field := by
  induction fields with
  | nil => simp at present
  | cons first rest inductionHypothesis =>
      rw [List.map_cons, List.nodup_cons] at distinct
      rcases List.mem_cons.mp present with rfl | later
      · simp
      · have different : first.name ≠ field.name := by
          intro equal
          apply distinct.1
          rw [equal]
          exact List.mem_map_of_mem later
        rw [List.find?_cons_of_neg (by simpa using different)]
        exact inductionHypothesis distinct.2 later

/-- A field is found at its index when no two fields share a name. -/
theorem fieldIndex?_of_getElem?
    (distinct : (fields.map Field.name).Nodup)
    (there : fields[index]? = some field) :
    fieldIndex? fields field.name = some index := by
  obtain ⟨inside, rfl⟩ := List.getElem?_eq_some_iff.mp there
  refine List.findIdx?_eq_some_iff_getElem.mpr ⟨inside, decide_eq_true rfl, ?_⟩
  intro earlier before same
  have named : (fields.map Field.name)[earlier]? = (fields.map Field.name)[index]? := by
    rw [List.getElem?_map, List.getElem?_map, there,
      List.getElem?_eq_getElem (Nat.lt_trans before inside), Option.map_some, Option.map_some,
      of_decide_eq_true same]
  have bound : earlier < (fields.map Field.name).length := by
    rw [List.length_map]
    omega
  have equal := (List.getElem?_inj bound distinct).mp named
  omega

/-- A list whose items differ under a map is extended by an item that differs from all of them. -/
theorem nodup_map_append_singleton
    {change : Item → Result}
    {items : List Item}
    {item : Item}
    (distinct : (items.map change).Nodup)
    (new : change item ∉ items.map change) :
    ((items ++ [item]).map change).Nodup := by
  rw [List.map_append, List.map_singleton, ← List.concat_eq_append]
  exact distinct.concat new

end LateBinding
