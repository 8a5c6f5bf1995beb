import LateBinding.Proofs.Calling.Session
import LateBinding.Proofs.Loading.FirstLoad

/-!
# Calls among overloads

A call runs the one method that takes its arguments.  If several do it is ambiguous, and one of the
arguments is `null`: any other value is accepted by one type only, and no two methods of a loaded type
share a name and parameter types.  If none does, the call is answered with the first parameter of the
first candidate that refuses its argument, or there is no candidate at all.
-/

namespace LateBinding

/-- A method takes the arguments of a call of its name when its parameters accept them. -/
def Member.Takes
    (loader : LoaderId)
    (name : String)
    (arguments : List Value)
    (method : Member) : Prop :=
  method.name = name ∧ Accepting loader method.parameters arguments

instance (loader : LoaderId) (name : String) (arguments : List Value) :
    DecidablePred (Member.Takes loader name arguments) := fun method =>
  inferInstanceAs (Decidable (method.name = name ∧ Accepting loader method.parameters arguments))

/-- The methods of a type that take arguments, in the order of their declaration. -/
def LoadedType.takers (type : LoadedType) (name : String) (arguments : List Value) : List Member :=
  type.image.methods.filter fun method => method.Takes type.loader name arguments

/-- A parameter is the first that refuses its argument. -/
structure RefusesFirst
    (loader : LoaderId)
    (parameters : List ValueType)
    (arguments : List Value)
    (index : Nat)
    (type : ValueType)
    (value : Value) : Prop where
  parameter : parameters[index]? = some type
  argument : arguments[index]? = some value
  refuses : value.isAccepted type loader = false
  /-- All parameters before it accept their arguments. -/
  before : Accepting loader (parameters.take index) (arguments.take index)

variable {loader : LoaderId} {parameters : List ValueType} {arguments : List Value}

/-! ## Which parameters accept arguments -/

/-- Only `null` is accepted by two types. -/
theorem Value.type_unique
    {type other : ValueType}
    {value : Value}
    (notNull : value ≠ null)
    (accepted : value.isAccepted type loader = true)
    (acceptedToo : value.isAccepted other loader = true) :
    type = other := by
  cases value with
  | null => exact absurd rfl notNull
  | object reference =>
      rw [isAccepted, Bool.and_eq_true, decide_eq_true_eq] at accepted acceptedToo
      exact accepted.1.trans acceptedToo.1.symm
  | _ => exact (of_decide_eq_true accepted).trans (of_decide_eq_true acceptedToo).symm

/-- Arguments without `null` are accepted by one list of parameters only. -/
theorem Accepting.parameters_unique
    {others : List ValueType}
    (noNull : Value.null ∉ arguments)
    (accepting : Accepting loader parameters arguments)
    (acceptingToo : Accepting loader others arguments) :
    parameters = others := by
  induction accepting generalizing others with
  | nil => exact (List.forall₂_nil_right_iff.mp acceptingToo).symm
  | cons accepted _ inductionHypothesis =>
      obtain ⟨other, rest, acceptedToo, acceptingRest, rfl⟩ :=
        List.forall₂_cons_right_iff.mp acceptingToo
      rw [List.mem_cons, not_or] at noNull
      rw [Value.type_unique (Ne.symm noNull.1) accepted acceptedToo,
        inductionHypothesis noNull.2 acceptingRest]

/-- As many parameters as arguments that do not accept them have a first one that refuses. -/
theorem exists_refusesFirst
    (label : String)
    (offset : Nat)
    (asMany : parameters.length = arguments.length)
    (refused : ¬ acceptsAll loader parameters arguments = true) :
    ∃ index type value, RefusesFirst loader parameters arguments index type value ∧
      firstRefusal? loader label offset parameters arguments =
        some (.argumentType label (offset + index) type.text (refusedType loader value)) := by
  induction parameters generalizing arguments offset with
  | nil => exact absurd (acceptsAll_nil_left loader arguments) refused
  | cons type rest inductionHypothesis =>
      cases arguments with
      | nil => exact absurd (acceptsAll_nil_right loader _) refused
      | cons value later =>
          rw [firstRefusal?]
          by_cases accepted : value.isAccepted type loader = true
          · rw [acceptsAll_cons, accepted, Bool.true_and] at refused
            obtain ⟨index, other, found, first, answer⟩ :=
              inductionHypothesis (offset + 1) (Nat.succ.inj asMany) refused
            refine ⟨index + 1, other, found, ?_, ?_⟩
            · exact ⟨first.parameter, first.argument, first.refuses, .cons accepted first.before⟩
            · rw [if_pos accepted, answer, Nat.add_assoc, Nat.add_comm 1 index]
          · refine ⟨0, type, value, ⟨rfl, rfl, (Bool.not_eq_true _).mp accepted, .nil⟩, ?_⟩
            rw [if_neg accepted]
            rfl

/-! ## Dispatch on a loaded type -/

namespace LoadedType

variable {type : LoadedType} {name : String}

theorem acceptingMethods_eq_takers (type : LoadedType) (name : String) (arguments : List Value) :
    type.acceptingMethods name arguments = type.takers name arguments := by
  unfold acceptingMethods methodsOfArity takers
  rw [List.filter_filter]
  apply List.filter_congr
  intro method _
  rw [Bool.eq_iff_iff]
  simp only [Member.Takes, accepting_iff, Bool.and_eq_true, decide_eq_true_eq]
  tauto

theorem dispatch_of_missing (missing : type.methodsOfArity name arguments.length = []) :
    type.dispatch name arguments =
      .error (.methodNotFound type.name name arguments.length) := by
  simp only [dispatch, missing]

theorem dispatch_of_several (several : 2 ≤ (type.takers name arguments).length) :
    type.dispatch name arguments =
      .error (.ambiguous type.name name arguments.length
        ((type.takers name arguments).map Member.signature)) := by
  rw [← acceptingMethods_eq_takers] at several ⊢
  cases candidates : type.methodsOfArity name arguments.length with
  | nil => simp [acceptingMethods, candidates] at several
  | cons candidate rest =>
      cases accepting : type.acceptingMethods name arguments with
      | nil => simp [accepting] at several
      | cons first more =>
          cases more with
          | nil => simp [accepting] at several
          | cons second later => simp only [dispatch, candidates, accepting]

/-- A call that no method takes is answered with what the first candidate refuses. -/
theorem dispatch_of_refused
    (none : type.takers name arguments = [])
    {first : Member}
    {rest : List Member}
    (candidates : type.methodsOfArity name arguments.length = first :: rest) :
    ∃ index parameter argument,
      RefusesFirst type.loader first.parameters arguments index parameter argument ∧
      type.dispatch name arguments =
        .error (.argumentType (type.memberLabel first) index parameter.text
          (refusedType type.loader argument)) := by
  have candidate : first ∈ type.methodsOfArity name arguments.length := by
    rw [candidates]
    exact List.mem_cons_self
  have asMany := (Bool.and_eq_true_iff.mp (List.mem_filter.mp candidate).2).2
  rw [← acceptingMethods_eq_takers] at none
  have refused := List.filter_eq_nil_iff.mp none first candidate
  obtain ⟨index, parameter, argument, refusesFirst, answer⟩ :=
    exists_refusesFirst (type.memberLabel first) 0 (of_decide_eq_true asMany) refused
  refine ⟨index, parameter, argument, refusesFirst, ?_⟩
  simp only [dispatch, candidates, none]
  rw [answer, Nat.zero_add, Option.getD_some]

/-- Dispatch finds no method only when there is no candidate. -/
theorem methodsOfArity_eq_nil_of_dispatch
    {typeName method : String}
    {arity : Nat}
    (failed : type.dispatch name arguments = .error (.methodNotFound typeName method arity)) :
    type.methodsOfArity name arguments.length = [] := by
  cases candidates : type.methodsOfArity name arguments.length with
  | nil => rfl
  | cons first rest =>
      exfalso
      match takers : type.takers name arguments with
      | [] =>
          obtain ⟨_, _, _, _, answer⟩ := dispatch_of_refused takers candidates
          nomatch answer.symm.trans failed
      | [only] =>
          rw [← acceptingMethods_eq_takers] at takers
          nomatch (dispatch_eq_ok_iff.mpr takers).symm.trans failed
      | first :: second :: later =>
          nomatch (dispatch_of_several (by simp [takers])).symm.trans failed

/-- The methods of a type differ in name or parameter types. -/
def HasDistinctMethods (type : LoadedType) : Prop :=
  (type.image.methods.map Member.key).Nodup

/-- Two methods that take the same arguments take a `null`, since their parameters differ. -/
theorem HasDistinctMethods.null_mem
    (distinct : type.HasDistinctMethods)
    (several : 2 ≤ (type.takers name arguments).length) :
    Value.null ∈ arguments := by
  by_contra noNull
  have different : ((type.takers name arguments).map Member.key).Nodup :=
    distinct.sublist (List.filter_sublist.map Member.key)
  match takers : type.takers name arguments, several with
  | first :: second :: rest, _ =>
    have takes : ∀ method ∈ type.takers name arguments,
        method.Takes type.loader name arguments := by
      intro method taker
      exact of_decide_eq_true (List.mem_filter.mp taker).2
    obtain ⟨named, accepting⟩ := takes first (by simp [takers])
    obtain ⟨namedToo, acceptingToo⟩ := takes second (by simp [takers])
    have same : first.key = second.key :=
      Prod.ext (named.trans namedToo.symm) (accepting.parameters_unique noNull acceptingToo)
    rw [takers] at different
    simp [same] at different

end LoadedType

theorem Action.yields_hasDistinctMethods (action : Action) :
    action.Yields LoadedType.HasDistinctMethods := by
  cases action with
  | load read loader name =>
      intro path name content image table _ accepted identity loader
      obtain ⟨_, _, complete⟩ := World.readModule_eq_ok_iff.mp accepted
      exact (MethodTable.bound_and_distinct_of_ofImage complete).2
  | _ => trivial

/-- What holds of the type of an object is not changed by its constructor and its methods. -/
theorem keptByRuns_type (ofType : LoadedType → Prop) :
    KeptByRuns ofType fun object => ofType object.type where
  made _ _ _ _ _ has _ _ := has
  changed _ _ _ _ _ has _ := has

/-! ## Calls of objects -/

namespace World

variable {world : World} {reference : Reference} {object : Object} {name : String}

/-- What a call of an object comes to, by the methods that take its arguments. -/
structure Dispatches
    (world : World)
    (reference : Reference)
    (object : Object)
    (name : String)
    (arguments : List Value) : Prop where
  /-- The only method that takes the arguments runs. -/
  single : ∀ method, object.type.takers name arguments = [method] →
    world.invoke reference name arguments = world.runMethod reference object method arguments
  /-- Several methods make the call ambiguous, and need a `null` to do so. -/
  several : 2 ≤ (object.type.takers name arguments).length →
    world.invoke reference name arguments =
      (.error (.ambiguous object.type.name name arguments.length
        ((object.type.takers name arguments).map Member.signature)), world) ∧
    .null ∈ arguments
  /-- Without a method that takes the arguments, the first candidate tells what it refuses. -/
  refused : object.type.takers name arguments = [] →
    ∀ first rest, object.type.methodsOfArity name arguments.length = first :: rest →
      ∃ index parameter argument,
        RefusesFirst object.type.loader first.parameters arguments index parameter argument ∧
        world.invoke reference name arguments =
          (.error (.argumentType (object.type.memberLabel first) index parameter.text
            (refusedType object.type.loader argument)), world)
  /-- Without a candidate, the method is not found. -/
  missing : object.type.methodsOfArity name arguments.length = [] →
    world.invoke reference name arguments =
      (.error (.methodNotFound object.type.name name arguments.length), world)
  /-- It is for want of a candidate only that a method is not found. -/
  onlyMissing : ∀ typeName method arity,
    (world.invoke reference name arguments).1 = .error (.methodNotFound typeName method arity) →
      object.type.methodsOfArity name arguments.length = []

theorem dispatches
    (found : world.object? reference = some object)
    (opened : world.isOpen object.type.loader = true)
    (distinct : object.type.HasDistinctMethods)
    (name : String)
    (arguments : List Value) :
    world.Dispatches reference object name arguments where
  single method alone := by
    rw [← LoadedType.acceptingMethods_eq_takers] at alone
    simp only [invoke, found, opened, LoadedType.dispatch_eq_ok_iff.mpr alone]
    rfl
  several several :=
    ⟨invoke_of_dispatch_error found opened (LoadedType.dispatch_of_several several),
      distinct.null_mem several⟩
  refused none first rest candidates := by
    obtain ⟨index, parameter, argument, refusesFirst, failed⟩ :=
      LoadedType.dispatch_of_refused none candidates
    exact ⟨index, parameter, argument, refusesFirst,
      invoke_of_dispatch_error found opened failed⟩
  missing missing :=
    invoke_of_dispatch_error found opened (LoadedType.dispatch_of_missing missing)
  onlyMissing typeName method arity failed := by
    cases meant : object.type.dispatch name arguments with
    | error error =>
        rw [invoke_of_dispatch_error found opened meant] at failed
        obtain rfl := Except.error.inj failed
        exact LoadedType.methodsOfArity_eq_nil_of_dispatch meant
    | ok method =>
        -- The method runs, and a run that fails says so.
        rw [invoke_of_dispatch found opened meant] at failed
        cases run : (world.methodRun object method arguments).1 with
        | ok value =>
            rw [run] at failed
            cases failed
        | error reason =>
            rw [run] at failed
            cases Except.error.inj failed

end World

namespace Session

/--
In every run of a program over any files, a call of an object whose loader is open comes to what the
methods that take its arguments decide.
-/
theorem run_dispatches
    (actions : List Action)
    {reference : Reference}
    {object : Object}
    (found : (run actions).world.object? reference = some object)
    (opened : (run actions).world.isOpen object.type.loader = true)
    (name : String)
    (arguments : List Value) :
    (run actions).world.Dispatches reference object name arguments := by
  have distinct : (run actions).Satisfies LoadedType.HasDistinctMethods
      fun object => object.type.HasDistinctMethods :=
    run_satisfies (keptByRuns_type _) fun action _ => action.yields_hasDistinctMethods
  exact World.dispatches found opened (distinct.world.objects object (World.object_mem found)) name
    arguments

/-- A module with overloads that differ in the types of their parameters. -/
def overloadedImage : ModuleImage where
  name := "A"
  fields := []
  explicitConstructor := false
  constructor := ⟨constructorName, .void, [], [.returnVoid]⟩
  methods :=
    [⟨"f", .void, [.string, .int], [.returnVoid]⟩, ⟨"f", .void, [.named "A", .int], [.returnVoid]⟩]
  strings := ⟨[]⟩

/-- A program that loads the module and constructs an object. -/
def overloadedActions : List Action :=
  [.openLoader "d" ".kiln", .load (fun _ => .ok overloadedImage.encode) ⟨1⟩ "A", .construct 0 []]

theorem run_overloadedActions_dispatches :
    ∃ object, (run overloadedActions).world.object? ⟨0, "A", ⟨1⟩⟩ = some object ∧
      (run overloadedActions).world.isOpen object.type.loader = true ∧
      (object.type.takers "f" [.null, .int 1]).map Member.signature =
        ["f(string,int)", "f(A,int)"] ∧
      (run overloadedActions).world.Dispatches ⟨0, "A", ⟨1⟩⟩ object "f" [.null, .int 1] := by
  have known : ((run overloadedActions).world.object? ⟨0, "A", ⟨1⟩⟩).map
      (fun object => ((run overloadedActions).world.isOpen object.type.loader,
        (object.type.takers "f" [.null, .int 1]).map Member.signature)) =
      some (true, ["f(string,int)", "f(A,int)"]) := by
    decide +kernel
  obtain ⟨object, found, known⟩ := Option.map_eq_some_iff.mp known
  obtain ⟨opened, takers⟩ := Prod.mk.inj known
  exact ⟨object, found, opened, takers, run_dispatches overloadedActions found opened "f" _⟩

end Session
end LateBinding
