import LateBinding.Proofs.Calling.Session
import LateBinding.Proofs.Loading.FirstLoad
import LateBinding.Proofs.Module.Decoded

/-!
# Calls of loaded types fail safely

Whatever a file holds that was loaded, calls of the type and its objects never refer to an argument, a
field, a text or an external function that is not there, and never run past the end of the code.  Loading
has checked the code against the fields of the type, and objects have as many values all along.
-/

namespace LateBinding

/--
How a call that has failed leaves the world.  A call that was carried out has run out of values on the
stack; every other call has changed nothing.
-/
def CallError.FailsSafely (before after : World) : CallError → Prop
  | execution _ reason => reason = "stack underflow"
  | _ => after = before

theorem CallError.IsRefusal.failsSafely
    {error : CallError}
    (refusal : error.IsRefusal)
    (world : World) :
    error.FailsSafely world world := by
  cases error with
  | execution member reason => exact refusal.elim
  | _ => rfl

/-- An object has as many values as its verified type has fields. -/
structure Object.IsVerified (object : Object) : Prop where
  /-- The type is verified. -/
  type : object.type.IsVerified
  /-- Every field has a value. -/
  complete : object.fields.length = object.type.image.fields.length

/-- A file that is accepted gives a verified type. -/
theorem LoadedType.isVerified_of_readModule
    {name : String}
    {content : Bytes}
    {image : ModuleImage}
    {table : MethodTable}
    (accepted : World.readModule name content = .ok (image, table))
    (identity : Nat)
    (loader : LoaderId)
    (path : String) :
    IsVerified ⟨identity, loader, path, image, table⟩ := by
  obtain ⟨decoded, _, complete⟩ := World.readModule_eq_ok_iff.mp accepted
  exact ⟨(ModuleImage.isReadable_of_decode decoded).sound,
    (MethodTable.bound_and_distinct_of_ofImage complete).1⟩

theorem Action.yields_isVerified (action : Action) : action.Yields LoadedType.IsVerified := by
  cases action with
  | load read loader name =>
      intro path name content image table _ accepted identity loader
      exact LoadedType.isVerified_of_readModule accepted identity loader path
  | _ => trivial

namespace World

variable {world : World}

theorem constructorRun_isSafe
    (world : World)
    {type : LoadedType}
    (verified : type.IsVerified)
    {arguments : List Value}
    (required : type.requireConstructorArguments arguments = .ok ()) :
    (world.constructorRun type arguments).2.fields.length = type.image.fields.length ∧
      ∀ reason, (world.constructorRun type arguments).1 = .error reason →
        reason = "stack underflow" := by
  have asMany := (LoadedType.requireConstructorArguments_eq_ok_iff.mp required).1
  exact verified.execute List.mem_cons_self asMany.symm (List.length_map _)

theorem methodRun_isSafe
    (world : World)
    {object : Object}
    (verified : object.IsVerified)
    {name : String}
    {arguments : List Value}
    {method : Member}
    (meant : object.type.dispatch name arguments = .ok method) :
    (world.methodRun object method arguments).2.fields.length = object.type.image.fields.length ∧
      ∀ reason, (world.methodRun object method arguments).1 = .error reason →
        reason = "stack underflow" := by
  obtain ⟨present, asMany⟩ := LoadedType.mem_methods_of_dispatch meant
  exact verified.type.execute (List.mem_cons_of_mem _ present) asMany verified.complete

theorem construct_failsSafely
    {type : LoadedType}
    (verified : type.IsVerified)
    {arguments : List Value}
    {error : CallError}
    {after : World}
    (failed : world.construct type arguments = (.error error, after)) :
    error.FailsSafely world after := by
  rcases world.construct_cases type arguments with ⟨refusal, refused, same⟩ | ⟨opened, required⟩
  · rw [same] at failed
    obtain ⟨⟨rfl⟩, rfl⟩ := Prod.mk.inj failed
    exact refused.failsSafely world
  · obtain ⟨_, underflow⟩ := constructorRun_isSafe world verified required
    rcases run : world.constructorRun type arguments with ⟨result, machine⟩
    cases result with
    | ok value =>
        rw [construct_of_ok opened required run] at failed
        nomatch failed
    | error reason =>
        rw [construct_of_error opened required run] at failed
        obtain ⟨⟨rfl⟩, _⟩ := Prod.mk.inj failed
        rw [run] at underflow
        exact underflow reason rfl

theorem invoke_failsSafely
    (satisfies : world.Satisfies LoadedType.IsVerified Object.IsVerified)
    {reference : Reference}
    {name : String}
    {arguments : List Value}
    {error : CallError}
    {after : World}
    (failed : world.invoke reference name arguments = (.error error, after)) :
    error.FailsSafely world after := by
  rcases world.invoke_cases reference name arguments with
    ⟨refusal, refused, same⟩ | ⟨object, method, found, opened, meant⟩
  · rw [same] at failed
    obtain ⟨⟨rfl⟩, rfl⟩ := Prod.mk.inj failed
    exact refused.failsSafely world
  · have verified := satisfies.objects object (object_mem found)
    obtain ⟨_, underflow⟩ := methodRun_isSafe world verified meant
    rw [invoke_of_dispatch found opened meant] at failed
    obtain ⟨failure, _⟩ := Prod.mk.inj failed
    cases run : (world.methodRun object method arguments).1 with
    | ok value =>
        rw [run] at failure
        nomatch failure
    | error reason =>
        rw [run] at failure
        obtain rfl := Except.error.inj failure
        exact underflow reason run

end World

/-- Verified types make verified objects, and their methods leave them verified. -/
theorem keptByRuns_isVerified : KeptByRuns LoadedType.IsVerified Object.IsVerified where
  made world type arguments value machine verified required run := by
    obtain ⟨kept, _⟩ := World.constructorRun_isSafe world verified required
    rw [run] at kept
    exact ⟨verified, kept⟩
  changed world object method name arguments verified meant :=
    ⟨verified.type, (World.methodRun_isSafe world verified meant).1⟩

namespace Session

/-- In every run of a program over any files, each call that fails does so safely. -/
theorem run_calls_fail_safely (actions : List Action) :
    (∀ type ∈ (run actions).types, ∀ arguments error after,
      (run actions).world.construct type arguments = (.error error, after) →
        error.FailsSafely (run actions).world after) ∧
    ∀ reference method arguments error after,
      (run actions).world.invoke reference method arguments = (.error error, after) →
        error.FailsSafely (run actions).world after := by
  have verified : (run actions).Satisfies LoadedType.IsVerified Object.IsVerified :=
    run_satisfies keptByRuns_isVerified fun action _ => action.yields_isVerified
  constructor
  · intro type given arguments error after failed
    exact World.construct_failsSafely (verified.types type given) failed
  · intro reference method arguments error after failed
    exact World.invoke_failsSafely verified.world failed

/-- A module whose method returns a value that nothing has pushed. -/
def underflowingImage : ModuleImage where
  name := "A"
  fields := []
  explicitConstructor := false
  constructor := ⟨constructorName, .void, [], [.returnVoid]⟩
  methods := [⟨"f", .int, [], [.returnValue]⟩]
  strings := ⟨[]⟩

/-- A program that loads the module and constructs an object. -/
def underflowingActions : List Action :=
  [.openLoader "d" ".kiln", .load (fun _ => .ok underflowingImage.encode) ⟨1⟩ "A",
    .construct 0 []]

theorem run_underflowing_fails_safely :
    ∃ type ∈ (run underflowingActions).types, ∃ refusal failure after,
      (run underflowingActions).world.construct type [.null] =
        (.error refusal, (run underflowingActions).world) ∧
      refusal.FailsSafely (run underflowingActions).world (run underflowingActions).world ∧
      (run underflowingActions).world.invoke ⟨0, "A", ⟨1⟩⟩ "f" [] = (.error failure, after) ∧
      failure.FailsSafely (run underflowingActions).world after := by
  have refused : ((run underflowingActions).types[0]?).map
      (fun type => (run underflowingActions).world.construct type [.null]) =
        some (.error (.argumentCount "A.<init>()" 0 1), (run underflowingActions).world) := by
    decide +kernel
  have failed : ((run underflowingActions).world.invoke ⟨0, "A", ⟨1⟩⟩ "f" []).1 =
      .error (.execution "A.f()" "stack underflow") := by
    decide +kernel
  obtain ⟨type, first, refused⟩ := Option.map_eq_some_iff.mp refused
  have given := List.mem_of_getElem? first
  obtain ⟨constructions, calls⟩ := run_calls_fail_safely underflowingActions
  exact ⟨type, given, _, _, _, refused, constructions type given _ _ _ refused,
    Prod.ext failed rfl, calls _ _ _ _ _ (Prod.ext failed rfl)⟩

end Session
end LateBinding
