import LateBinding.Proofs.Calling.Machine
import LateBinding.Proofs.Lookup
import Mathlib.Data.List.Nodup

/-!
# The tables of modules

A table is built for a module whose methods differ in name or parameter types and whose code calls
nothing but the printing function.
-/

namespace LateBinding
namespace MethodTable

theorem find?_insert
    (table : MethodTable)
    (key other : MethodKey)
    (position : Nat) :
    (table.insert key position).find? other =
      if other = key then some position else table.find? other :=
  lookup_of_insertion (insertEntry key position) rfl (fun _ _ _ => rfl) other table.entries

/-- Methods that differ from each other and from those of a table can be added to it. -/
theorem exists_addMethods
    {table : MethodTable}
    {methods : List Member}
    (position : Nat)
    (distinct : (methods.map Member.key).Nodup)
    (absent : ∀ method ∈ methods, table.find? method.key = none) :
    ∃ larger, table.addMethods position methods = .ok larger := by
  induction methods generalizing table position with
  | nil => exact ⟨table, rfl⟩
  | cons method rest inductionHypothesis =>
      rw [List.map_cons, List.nodup_cons] at distinct
      have new := absent method List.mem_cons_self
      rw [addMethods, new]
      apply inductionHypothesis (position + 1) distinct.2
      intro other present
      have different : other.key ≠ method.key := by
        intro equal
        exact distinct.1 (equal ▸ List.mem_map_of_mem present)
      rw [find?_insert, if_neg different]
      exact absent other (List.mem_cons_of_mem method present)

/-- Methods that have been added to a table differ from each other and from those of the table. -/
theorem distinct_of_addMethods
    {table larger : MethodTable}
    {position : Nat}
    {methods : List Member}
    (added : table.addMethods position methods = .ok larger) :
    (methods.map Member.key).Nodup ∧ ∀ method ∈ methods, table.find? method.key = none := by
  induction methods generalizing table position with
  | nil => exact ⟨List.nodup_nil, fun _ impossible => nomatch impossible⟩
  | cons method rest inductionHypothesis =>
      rw [addMethods] at added
      split at added
      · nomatch added
      · next new =>
        obtain ⟨distinct, absent⟩ := inductionHypothesis added
        have other : ∀ later ∈ rest, later.key ≠ method.key ∧ table.find? later.key = none := by
          intro later present
          have unfound := absent later present
          rw [find?_insert] at unfound
          split at unfound
          · nomatch unfound
          · next different => exact ⟨different, unfound⟩
        rw [List.map_cons, List.nodup_cons]
        refine ⟨⟨?_, distinct⟩, List.forall_mem_cons.mpr ⟨?_, fun later present =>
          (other later present).2⟩⟩
        · intro repeated
          obtain ⟨later, present, same⟩ := List.mem_map.mp repeated
          exact (other later present).1 same
        · exact Option.not_isSome_iff_eq_none.mp new

theorem exists_ofImage
    {image : ModuleImage}
    (bound : ∀ member ∈ image.members, member.code.IsBound image.strings)
    (distinct : (image.methods.map Member.key).Nodup) :
    ∃ table, ofImage image = .ok table := by
  rw [ofImage, (firstUnboundCall?_eq_none_iff image).mpr bound]
  exact exists_addMethods 0 distinct fun method _ => rfl

/-- A module that has a table calls nothing but the printing function, and its methods differ. -/
theorem bound_and_distinct_of_ofImage
    {image : ModuleImage}
    {table : MethodTable}
    (complete : ofImage image = .ok table) :
    (∀ member ∈ image.members, member.code.IsBound image.strings) ∧
      (image.methods.map Member.key).Nodup := by
  unfold ofImage at complete
  split at complete
  · nomatch complete
  · next none =>
    exact ⟨(firstUnboundCall?_eq_none_iff image).mp none, (distinct_of_addMethods complete).1⟩

end MethodTable
end LateBinding
