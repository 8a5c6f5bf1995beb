import LateBinding.Lowering

/-!
# Taking successes apart

A computation that may be refused and has succeeded is taken apart into the steps of which it consists,
each of which has succeeded.
-/

namespace LateBinding
namespace Outcome

variable {Fault Refusal Item Result : Type}

theorem error_ne_ok (fault : Fault) (item : Item) : Except.error fault ≠ Except.ok item := nofun

/-- What stands behind a guard has been reached past the guard. -/
theorem of_guard
    {condition : Prop}
    [Decidable condition]
    {fault : Fault}
    {rest : Except Fault Item}
    {item : Item}
    (passed : (if condition then .error fault else rest) = .ok item) :
    ¬ condition ∧ rest = .ok item := by
  split at passed
  · exact absurd passed (error_ne_ok fault item)
  · next past => exact ⟨past, passed⟩

@[simp] theorem bind_eq_ok_iff
    {first : Except Fault Item}
    {next : Item → Except Fault Result}
    {result : Result} :
    (first >>= next) = .ok result ↔ ∃ item, first = .ok item ∧ next item = .ok result := by
  cases first with
  | error fault =>
      change Except.error fault = _ ↔ _
      simp
  | ok item =>
      change next item = _ ↔ _
      simp

@[simp] theorem mapError_eq_ok_iff
    {change : Fault → Refusal}
    {outcome : Except Fault Item}
    {item : Item} :
    outcome.mapError change = .ok item ↔ outcome = .ok item := by
  cases outcome with
  | error fault => exact ⟨nofun, nofun⟩
  | ok result =>
      change Except.ok result = Except.ok item ↔ _
      rw [Except.ok.injEq, Except.ok.injEq]

@[simp] theorem map_eq_ok_iff
    {change : Item → Result}
    {outcome : Except Fault Item}
    {result : Result} :
    outcome.map change = .ok result ↔ ∃ item, outcome = .ok item ∧ change item = result := by
  cases outcome <;> simp [Except.map]

theorem map_eq_error_iff
    {change : Item → Result}
    {outcome : Except Fault Item}
    {fault : Fault} :
    outcome.map change = .error fault ↔ outcome = .error fault := by
  cases outcome <;> simp [Except.map]

theorem mapError_map
    (outcome : Except Fault Item)
    (change : Item → Result)
    (refuse : Fault → Refusal) :
    (outcome.map change).mapError refuse = (outcome.mapError refuse).map change := by
  cases outcome <;> rfl

end Outcome

namespace Lowering

variable {Item Result : Type} {pool later : StringPool}

@[simp] theorem bind_eq_ok_iff
    {first : Lowering Item}
    {next : Item → Lowering Result}
    {result : Result} :
    (first >>= next) pool = .ok (result, later) ↔
      ∃ item between, first pool = .ok (item, between) ∧
        next item between = .ok (result, later) := by
  change Except.bind (first pool) (fun (item, between) => next item between) = _ ↔ _
  cases first pool with
  | error fault => simp [Except.bind]
  | ok both =>
      obtain ⟨item, between⟩ := both
      constructor
      · intro second
        exact ⟨item, between, rfl, second⟩
      · rintro ⟨found, middle, same, second⟩
        obtain ⟨rfl, rfl⟩ := Prod.mk.inj (Except.ok.inj same)
        exact second

@[simp] theorem pure_eq_ok_iff {item result : Item} :
    (pure item : Lowering Item) pool = .ok (result, later) ↔ item = result ∧ pool = later := by
  change Except.ok (item, pool) = _ ↔ _
  simp

@[simp] theorem lift_eq_ok_iff
    {outcome : Except BuildError Item}
    {result : Item} :
    (liftM outcome : Lowering Item) pool = .ok (result, later) ↔
      outcome = .ok result ∧ pool = later := by
  cases outcome with
  | error fault =>
      change Except.error fault = _ ↔ _
      simp
  | ok item =>
      change Except.ok (item, pool) = _ ↔ _
      simp

/-- A member that does not fit is never lowered. -/
@[simp] theorem mismatch_ne_ok
    (context : MemberContext)
    (reason : String)
    (result : Item) :
    (context.mismatch reason : Lowering Item) pool ≠ .ok (result, later) :=
  fun impossible => nomatch impossible

@[simp] theorem unsupported_ne_ok
    (context : MemberContext)
    (piece : String)
    (result : Item) :
    (context.unsupported piece : Lowering Item) pool ≠ .ok (result, later) :=
  fun impossible => nomatch impossible

end Lowering
end LateBinding
