import LateBinding.Proofs.Calling.Overloads
import LateBinding.Proofs.Loading.FirstLoad
import LateBinding.Proofs.Loading.MethodTable

/-!
# Searching the table of a type

The table of a loaded type has the position of every method under the name and parameter types of the method.
Since no two methods of the type share these, looking in the table is the same as looking through the methods
in their order, and every method is found.
-/

namespace LateBinding

namespace MethodTable

/-- A table with further methods has their positions, and for all other keys what it had. -/
theorem find?_of_addMethods
    {table larger : MethodTable}
    {position : Nat}
    {methods : List Member}
    (added : table.addMethods position methods = .ok larger)
    (key : MethodKey) :
    larger.find? key =
      ((methods.findIdx? (·.key = key)).map (position + ·)).or (table.find? key) := by
  induction methods generalizing table position with
  | nil =>
      obtain rfl := Except.ok.inj added
      rfl
  | cons method rest inductionHypothesis =>
      obtain ⟨distinct, _⟩ := distinct_of_addMethods added
      rw [List.map_cons, List.nodup_cons] at distinct
      rw [addMethods] at added
      split at added
      · exact absurd added (Outcome.error_ne_ok _ _)
      · rw [inductionHypothesis added, find?_insert, List.findIdx?_cons]
        by_cases own : method.key = key
        · -- No later method has the key, so the position that was just inserted stays.
          have later : rest.findIdx? (·.key = key) = none := by
            rw [List.findIdx?_eq_none_iff]
            intro other present
            rw [decide_eq_false_iff_not]
            rintro rfl
            exact distinct.1 (own ▸ List.mem_map_of_mem present)
          rw [later, if_pos own.symm, if_pos (decide_eq_true own)]
          rfl
        · rw [if_neg (Ne.symm own), if_neg (by simpa using own), Option.map_map]
          congr 2
          funext index
          exact Nat.add_right_comm position 1 index

/-- The table of a module has the position of the first method of a key. -/
theorem find?_of_ofImage
    {image : ModuleImage}
    {table : MethodTable}
    (complete : ofImage image = .ok table)
    (key : MethodKey) :
    table.find? key = image.methods.findIdx? (·.key = key) := by
  unfold ofImage at complete
  split at complete
  · nomatch complete
  · rw [find?_of_addMethods complete key]
    simp [empty, find?]

end MethodTable

/-- The table of a type is a faithful index of its methods. -/
structure LoadedType.IndexesMethods (type : LoadedType) : Prop where
  /-- What is found in the table is what is found by looking through the methods. -/
  scans : ∀ name parameters,
    type.findMethod? name parameters = type.image.method? name parameters
  /-- Every method is found under its own name and parameter types, at its own position. -/
  own : ∀ (position : Nat) (method : Member), type.image.methods[position]? = some method →
    type.table.find? method.key = some position ∧
      type.findMethod? method.name method.parameters = some method

theorem LoadedType.indexesMethods_of_ofImage
    {type : LoadedType}
    (complete : MethodTable.ofImage type.image = .ok type.table) :
    type.IndexesMethods := by
  have positions := MethodTable.find?_of_ofImage complete
  constructor
  · intro name parameters
    have same : ∀ method : Member, decide (method.key = (name, parameters)) =
        (method.name = name && method.parameters = parameters : Bool) := by
      intro method
      simp [Member.key, Prod.ext_iff]
    rw [findMethod?, ModuleImage.method?, List.find?_eq_bind_findIdx?_getElem?, positions]
    simp only [same]
  · intro position method there
    obtain ⟨inside, same⟩ := List.getElem?_eq_some_iff.mp there
    obtain ⟨_, distinct⟩ := MethodTable.bound_and_distinct_of_ofImage complete
    have apart := List.pairwise_iff_getElem.mp (List.pairwise_map.mp distinct)
    have found : type.table.find? method.key = some position := by
      rw [positions, List.findIdx?_eq_some_iff_getElem]
      refine ⟨inside, decide_eq_true (congrArg Member.key same), ?_⟩
      intro earlier before equal
      refine apart earlier position (Nat.lt_trans before inside) inside before ?_
      rw [same]
      exact of_decide_eq_true equal
    refine ⟨found, ?_⟩
    change (type.table.find? method.key).bind _ = _
    rw [found, Option.bind_some, there]

theorem Action.yields_indexesMethods (action : Action) :
    action.Yields LoadedType.IndexesMethods := by
  cases action with
  | load read loader name =>
      intro path name content image table _ accepted identity loader
      exact LoadedType.indexesMethods_of_ofImage (World.readModule_eq_ok_iff.mp accepted).2.2
  | _ => trivial

namespace Session

/--
In every run of a program over any files, the tables of all loaded types are faithful: of the types that the
program was given, of those that its loaders hold and of those of its objects.
-/
theorem run_indexes_methods (actions : List Action) :
    (run actions).Satisfies LoadedType.IndexesMethods fun object => object.type.IndexesMethods :=
  run_satisfies (keptByRuns_type _) fun action _ => action.yields_indexesMethods

/-- A module whose methods have the same text of their parameters, but not the same parameters. -/
def homonymousImage : ModuleImage where
  name := "A"
  fields := []
  explicitConstructor := false
  constructor := ⟨constructorName, .void, [], [.returnVoid]⟩
  methods :=
    [⟨"f", .void, [.int], [.returnVoid]⟩, ⟨"f", .int, [.named "int"], [.pushInt 7, .returnValue]⟩]
  strings := ⟨[]⟩

theorem run_homonymousImage_indexes_methods :
    let actions : List Action :=
      [.openLoader "d" ".kiln", .load (fun _ => .ok homonymousImage.encode) ⟨1⟩ "A"]
    ∃ type ∈ (run actions).types, type.image.methods = homonymousImage.methods ∧
      type.IndexesMethods ∧ (type.findMethod? "f" [.named "int"]).map Member.result = some .int ∧
      type.findMethod? "f" [.string] = none := by
  intro actions
  have loaded : (run actions).types[0]?.map (·.image.methods) = some homonymousImage.methods := by
    decide +kernel
  obtain ⟨type, first, methods⟩ := Option.map_eq_some_iff.mp loaded
  have given := List.mem_of_getElem? first
  have indexes := (run_indexes_methods actions).types type given
  refine ⟨type, given, methods, indexes, ?_, ?_⟩
  · rw [indexes.scans, ModuleImage.method?, methods]
    decide
  · rw [indexes.scans, ModuleImage.method?, methods]
    decide

end Session
end LateBinding
