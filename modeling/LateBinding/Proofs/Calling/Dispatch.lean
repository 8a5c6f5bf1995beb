import LateBinding.Calling.Dispatch
import LateBinding.Proofs.Outcome
import Mathlib.Data.List.Forall2

/-!
# What dispatch decides

A constructor takes arguments exactly when they are as many as its parameters and each parameter accepts
its argument.  A call means a method exactly when it is the only one that accepts the arguments.  All
that is refused is refused before any code runs.
-/

namespace LateBinding

/-- A call is refused when it fails before any code runs. -/
def CallError.IsRefusal : CallError → Prop
  | execution _ _ => False
  | _ => True

@[simp] theorem acceptsAll_nil_right (loader : LoaderId) (parameters : List ValueType) :
    acceptsAll loader parameters [] = true := by
  simp [acceptsAll]

@[simp] theorem acceptsAll_nil_left (loader : LoaderId) (arguments : List Value) :
    acceptsAll loader [] arguments = true := by
  simp [acceptsAll]

@[simp] theorem acceptsAll_cons
    (loader : LoaderId)
    (type : ValueType)
    (parameters : List ValueType)
    (value : Value)
    (arguments : List Value) :
    acceptsAll loader (type :: parameters) (value :: arguments) =
      (value.isAccepted type loader && acceptsAll loader parameters arguments) := rfl

/-- Parameters accept arguments one by one. -/
def Accepting (loader : LoaderId) (parameters : List ValueType) (arguments : List Value) : Prop :=
  List.Forall₂ (fun type value => Value.isAccepted type loader value = true) parameters arguments

instance (loader : LoaderId) (parameters : List ValueType) (arguments : List Value) :
    Decidable (Accepting loader parameters arguments) :=
  inferInstanceAs (Decidable (List.Forall₂ _ parameters arguments))

theorem accepting_iff
    {loader : LoaderId}
    {parameters : List ValueType}
    {arguments : List Value} :
    Accepting loader parameters arguments ↔
      parameters.length = arguments.length ∧ acceptsAll loader parameters arguments = true := by
  rw [Accepting, List.forall₂_iff_zip, acceptsAll, List.all_eq_true, Prod.forall]

theorem firstRefusal?_eq_none_iff
    {loader : LoaderId}
    {label : String}
    {index : Nat}
    {parameters : List ValueType}
    {arguments : List Value} :
    firstRefusal? loader label index parameters arguments = none ↔
      acceptsAll loader parameters arguments = true := by
  induction parameters generalizing index arguments with
  | nil => simp [firstRefusal?]
  | cons type rest inductionHypothesis =>
      cases arguments with
      | nil => simp [firstRefusal?]
      | cons value later =>
          rw [firstRefusal?, acceptsAll_cons]
          by_cases accepted : value.isAccepted type loader = true
          · rw [if_pos accepted, accepted, Bool.true_and]
            exact inductionHypothesis
          · rw [if_neg accepted]
            simp [accepted]

theorem isRefusal_of_firstRefusal?
    {loader : LoaderId}
    {label : String}
    {index : Nat}
    {parameters : List ValueType}
    {arguments : List Value}
    {error : CallError}
    (refused : firstRefusal? loader label index parameters arguments = some error) :
    error.IsRefusal := by
  induction parameters generalizing index arguments with
  | nil => simp [firstRefusal?] at refused
  | cons type rest inductionHypothesis =>
      cases arguments with
      | nil => simp [firstRefusal?] at refused
      | cons value later =>
          rw [firstRefusal?] at refused
          split at refused
          · exact inductionHypothesis refused
          · obtain rfl := Option.some.inj refused
            trivial

namespace LoadedType

variable {type : LoadedType} {name : String} {arguments : List Value}

theorem requireConstructorArguments_eq_ok_iff :
    type.requireConstructorArguments arguments = .ok () ↔
      arguments.length = type.image.constructor.parameters.length ∧
        acceptsAll type.loader type.image.constructor.parameters arguments = true := by
  unfold requireConstructorArguments
  by_cases asMany : arguments.length = type.image.constructor.parameters.length
  · simp only [asMany, ne_eq, not_true_eq_false, if_false, true_and]
    split
    · next error refused =>
      have rejects :
          ¬ acceptsAll type.loader type.image.constructor.parameters arguments = true := by
        intro accepts
        rw [firstRefusal?_eq_none_iff.mpr accepts] at refused
        nomatch refused
      simp [rejects]
    · next none =>
      simp [firstRefusal?_eq_none_iff.mp none]
  · simp [asMany]

theorem isRefusal_of_requireConstructorArguments
    {error : CallError}
    (refused : type.requireConstructorArguments arguments = .error error) :
    error.IsRefusal := by
  unfold requireConstructorArguments at refused
  dsimp only at refused
  split at refused
  · obtain rfl := Except.error.inj refused
    trivial
  · split at refused
    · next found =>
      obtain rfl := Except.error.inj refused
      exact isRefusal_of_firstRefusal? found
    · simp at refused

theorem mem_acceptingMethods_iff {method : Member} :
    method ∈ type.acceptingMethods name arguments ↔
      method ∈ type.image.methods ∧ method.name = name ∧
        method.parameters.length = arguments.length ∧
        acceptsAll type.loader method.parameters arguments = true := by
  simp only [acceptingMethods, methodsOfArity, List.mem_filter, Bool.and_eq_true, decide_eq_true_eq,
    and_assoc]

/-- A call means the method that alone accepts the arguments. -/
theorem dispatch_eq_ok_iff {method : Member} :
    type.dispatch name arguments = .ok method ↔
      type.acceptingMethods name arguments = [method] := by
  unfold dispatch
  dsimp only
  split
  · next noCandidate =>
    simp [acceptingMethods, noCandidate]
  · next first rest candidates =>
    split
    · next none => simp [none]
    · next only one => simp [one]
    · next methods notNone notOne =>
      constructor
      · intro impossible
        nomatch impossible
      · intro one
        exact absurd one (notOne method)

theorem isRefusal_of_dispatch
    {error : CallError}
    (refused : type.dispatch name arguments = .error error) :
    error.IsRefusal := by
  unfold dispatch at refused
  dsimp only at refused
  split at refused
  · obtain rfl := Except.error.inj refused
    trivial
  · next first rest candidates =>
    split at refused
    · obtain rfl := Except.error.inj refused
      cases found : firstRefusal? type.loader (type.memberLabel first) 0 first.parameters
        arguments with
      | none => trivial
      | some error => exact isRefusal_of_firstRefusal? found
    · nomatch refused
    · obtain rfl := Except.error.inj refused
      trivial

theorem mem_acceptingMethods_of_dispatch
    {method : Member}
    (meant : type.dispatch name arguments = .ok method) :
    method ∈ type.acceptingMethods name arguments := by
  rw [dispatch_eq_ok_iff.mp meant]
  exact List.mem_singleton.mpr rfl

/-- A method that is called is one of the type's, with as many parameters as there are arguments. -/
theorem mem_methods_of_dispatch
    {method : Member}
    (meant : type.dispatch name arguments = .ok method) :
    method ∈ type.image.methods ∧ method.parameters.length = arguments.length := by
  obtain ⟨inMethods, _, asMany, _⟩ :=
    mem_acceptingMethods_iff.mp (mem_acceptingMethods_of_dispatch meant)
  exact ⟨inMethods, asMany⟩

/-- The parameters of a method that is called accept the arguments. -/
theorem accepts_of_dispatch
    {method : Member}
    (meant : type.dispatch name arguments = .ok method) :
    acceptsAll type.loader method.parameters arguments = true :=
  (mem_acceptingMethods_iff.mp (mem_acceptingMethods_of_dispatch meant)).2.2.2

end LoadedType
end LateBinding
