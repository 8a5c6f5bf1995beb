import LateBinding.Engine
import LateBinding.Proofs.Client.Isolation
import LateBinding.Storage.Memory

/-!
# Calls in one go

A loader that is opened for one call has produced nothing, so no object that is there already comes from it.
Its members accept no object and the fields of the object that it constructs hold none.  So the method returns
none, whatever code the module holds.
-/

namespace LateBinding

/-- What a loader accepts refers to no object if no object among it comes from the loader. -/
theorem isPlain_of_acceptsAll
    {loader : LoaderId}
    {parameters : List ValueType}
    {arguments : List Value}
    (asMany : arguments.length = parameters.length)
    (accepts : acceptsAll loader parameters arguments = true)
    (foreign : ∀ value ∈ arguments, value.Refers fun reference => reference.loader ≠ loader) :
    ∀ value ∈ arguments, value.IsPlain := by
  intro value present
  apply ((foreign value present).and (refers_of_acceptsAll asMany accepts value present)).mono
  rintro reference ⟨other, same⟩
  exact other same

namespace World

variable {world after : World} {type : LoadedType} {constructorArguments arguments : List Value}
  {method : String} {reference : Reference} {value : Value}

/-! ## Calls without objects of their loader -/

/-- An object that is constructed without objects of its loader has none in its fields. -/
theorem isPlain_of_construct
    (foreign : ∀ value ∈ arguments, value.Refers fun reference => reference.loader ≠ type.loader)
    (constructed : world.construct type arguments = (.ok reference, after)) :
    (∀ argument ∈ arguments, argument.IsPlain) ∧
      ∃ object, after.object? reference = some object ∧ object.type = type ∧
        ∀ value ∈ object.fields, value.IsPlain := by
  rcases world.construct_cases type arguments with ⟨error, _, refused⟩ | ⟨opened, required⟩
  · rw [refused] at constructed
    nomatch constructed
  obtain ⟨asMany, accepts⟩ := LoadedType.requireConstructorArguments_eq_ok_iff.mp required
  have plain := isPlain_of_acceptsAll asMany accepts foreign
  have fields := world.constructorRun_refers type plain
  rcases run : world.constructorRun type arguments with ⟨result, machine⟩
  rw [run] at fields
  cases result with
  | error reason =>
      rw [construct_of_error opened required run] at constructed
      nomatch constructed
  | ok _ =>
      rw [construct_of_ok opened required run] at constructed
      obtain ⟨rfl, rfl⟩ : _ ∧ _ := by simpa using constructed
      exact ⟨plain, _, List.getElem?_concat_length, rfl, fields⟩

/-- An object without objects in its fields returns none when it is given none of its loader. -/
theorem isPlain_of_invoke
    {object : Object}
    (found : world.object? reference = some object)
    (fields : ∀ value ∈ object.fields, value.IsPlain)
    (foreign : ∀ value ∈ arguments, value.Refers fun reference =>
      reference.loader ≠ object.type.loader)
    (returned : (world.invoke reference method arguments).1 = .ok value) :
    (∀ argument ∈ arguments, argument.IsPlain) ∧ value.IsPlain := by
  rcases world.invoke_cases reference method arguments with
    ⟨error, _, refused⟩ | ⟨called, member, there, opened, meant⟩
  · rw [refused] at returned
    nomatch returned
  obtain rfl := Option.some.inj (there.symm.trans found)
  have asMany := (LoadedType.mem_methods_of_dispatch meant).2.symm
  have plain := isPlain_of_acceptsAll asMany (LoadedType.accepts_of_dispatch meant) foreign
  rw [invoke_of_dispatch found opened meant] at returned
  exact ⟨plain, (world.methodRun_refers fields plain member).2 value
    (Outcome.mapError_eq_ok_iff.mp returned)⟩

theorem isPlain_of_constructAndInvoke
    (foreignGiven : ∀ value ∈ constructorArguments, value.Refers fun reference =>
      reference.loader ≠ type.loader)
    (foreign : ∀ value ∈ arguments, value.Refers fun reference => reference.loader ≠ type.loader)
    (returned : (world.constructAndInvoke type constructorArguments method arguments).1 = .ok value) :
    value.IsPlain ∧ ∀ argument ∈ constructorArguments ++ arguments, argument.IsPlain := by
  rw [constructAndInvoke] at returned
  split at returned
  · nomatch returned
  · next reference after constructed =>
    obtain ⟨plainGiven, object, found, rfl, fields⟩ := isPlain_of_construct foreignGiven constructed
    obtain ⟨plain, plainValue⟩ := isPlain_of_invoke found fields foreign returned
    exact ⟨plainValue, List.forall_mem_append.mpr ⟨plainGiven, plain⟩⟩

/-! ## The loader of a call -/

section Loading

variable {State : Type} {operations : FileOperations (StateM State)} {files : State}
  {name directory ending : String}

/-- Loading reads a file as it is at the start. -/
theorem fst_loadFile
    (world : World)
    (operations : FileOperations (StateM State))
    (id : LoaderId)
    (name : String)
    (files : State) :
    (world.loadFile operations id name files).1 =
      world.load (fun path => (operations.read path files).1) id name := by
  unfold loadFile load
  cases world.request id name with
  | error error => rfl
  | ok request => cases request <;> rfl

/-- A loader that has just been opened produces the type that it gives. -/
theorem loader_of_load_openLoader
    {read : String → Except FileError Bytes}
    (loads : (world.openLoader directory ending).2.load read (world.openLoader directory ending).1 name =
      (.ok type, after)) :
    type.loader = (world.openLoader directory ending).1 := by
  rcases (world.openLoader directory ending).2.load_cases read _ name with
    ⟨error, failed⟩ | ⟨loader, known, there, _, cached, _⟩ | ⟨loader, image, table, finds⟩
  · rw [failed] at loads
    nomatch loads
  · rw [loader?_openLoader] at there
    obtain rfl := Option.some.inj there
    nomatch cached
  · rw [finds.load] at loads
    obtain ⟨same, _⟩ := Prod.mk.inj loads
    obtain rfl := Except.ok.inj same
    rfl

theorem fst_run
    (world : World)
    (operations : FileOperations (StateM State))
    (settings : Settings)
    (name : String)
    (constructorArguments : List Value)
    (method : String)
    (arguments : List Value)
    (files : State) :
    (world.run operations settings name constructorArguments method arguments files).1.1 =
      match (world.openLoader settings.moduleDirectory settings.moduleExtension).2.load
        (fun path => (operations.read path files).1)
        (world.openLoader settings.moduleDirectory settings.moduleExtension).1 name with
      | (.error error, _) => .error (.load error)
      | (.ok type, loaded) =>
          (loaded.constructAndInvoke type constructorArguments method arguments).1.mapError
            EngineError.call := by
  rw [← fst_loadFile]
  simp only [run, bind, StateT.bind]
  rcases (world.openLoader settings.moduleDirectory settings.moduleExtension).2.loadFile operations
    (world.openLoader settings.moduleDirectory settings.moduleExtension).1 name files with
    ⟨⟨result, loaded⟩, rest⟩
  cases result <;> rfl

/-- A call in one go that returns has called an object of a loader that was not open before. -/
theorem constructAndInvoke_of_run
    {settings : Settings}
    (returned : (world.run operations settings name constructorArguments method arguments files).1.1 =
      .ok value) :
    ∃ (type : LoadedType) (loaded : World), world.loader? type.loader = none ∧
      (loaded.constructAndInvoke type constructorArguments method arguments).1 = .ok value := by
  rw [fst_run] at returned
  split at returned
  · nomatch returned
  · next type loaded loads =>
    refine ⟨type, loaded, ?_, Outcome.mapError_eq_ok_iff.mp returned⟩
    rw [loader_of_load_openLoader loads]
    exact world.loader?_fst_openLoader _ _

end Loading

end World

namespace Client

variable {client : Client}

/-- The objects that a client has come from loaders that have been opened. -/
theorem IsConsistent.opened_of_arguments
    (consistent : client.IsConsistent)
    {arguments : List Argument}
    {values : List Value}
    (evaluated : arguments.mapM client.argument? = some values) :
    ∀ value ∈ values, value.Refers fun reference =>
      (client.world.loader? reference.loader).isSome = true := by
  intro value present
  apply (consistent.refers_of_arguments evaluated value present).mono
  rintro reference ⟨owner, object, found, fromOwner, same, _⟩
  rw [same, ← fromOwner]
  exact consistent.knows.opened object.type (consistent.objects object (World.object_mem found)).1

/-- No object that a client has comes from a loader that has not been opened. -/
theorem IsConsistent.foreign_of_arguments
    (consistent : client.IsConsistent)
    {arguments : List Argument}
    {values : List Value}
    (evaluated : arguments.mapM client.argument? = some values)
    {loader : LoaderId}
    (new : client.world.loader? loader = none) :
    ∀ value ∈ values, value.Refers fun reference => reference.loader ≠ loader := by
  intro value present
  apply (consistent.opened_of_arguments evaluated value present).mono
  rintro reference opened rfl
  rw [new] at opened
  nomatch opened

/--
Whatever a client has done, whatever the files are and whatever values and objects it passes, a call in one
go that returns has been given no object and returns none.
-/
theorem runInOneGo_returns_no_object
    {State : Type}
    (operations : FileOperations (StateM State))
    (files : State)
    (commands : List Command)
    (settings : Settings)
    (name method : String)
    {constructorArguments arguments : List Argument}
    {given values : List Value}
    (constructed : constructorArguments.mapM (run commands).argument? = some given)
    (passed : arguments.mapM (run commands).argument? = some values)
    {value : Value}
    (returned :
      ((run commands).world.run operations settings name given method values files).1.1 = .ok value) :
    (∀ reference, value ≠ .object reference) ∧ ∀ argument ∈ given ++ values, argument.IsPlain := by
  have consistent := run_isConsistent commands
  obtain ⟨type, loaded, new, called⟩ := World.constructAndInvoke_of_run returned
  obtain ⟨plain, accepted⟩ := World.isPlain_of_constructAndInvoke
    (consistent.foreign_of_arguments constructed new) (consistent.foreign_of_arguments passed new) called
  refine ⟨?_, accepted⟩
  rintro reference rfl
  exact plain

/-- Files with the module of the method that returns its argument. -/
def linkingFiles : MemoryFiles :=
  .ofFiles [("output/A.kmod", linkingImage.encode)]

theorem runInOneGo_of_null :
    [Argument.given ⟨1⟩ 2].mapM (run linkingCommands).argument? = some [.object ⟨1, "A", ⟨1⟩⟩] ∧
    ((run linkingCommands).world.run MemoryFiles.operations .standard "A" [] "link"
      [.object ⟨1, "A", ⟨1⟩⟩] linkingFiles).1.1.toOption = none ∧
    ((run linkingCommands).world.run MemoryFiles.operations .standard "A" [] "link" [.null]
      linkingFiles).1.1 = .ok .null ∧
    ∀ reference, Value.null ≠ .object reference := by
  have object : [Argument.given ⟨1⟩ 2].mapM (run linkingCommands).argument? =
      some [.object ⟨1, "A", ⟨1⟩⟩] := by
    decide +kernel
  have refused : ((run linkingCommands).world.run MemoryFiles.operations .standard "A" [] "link"
      [.object ⟨1, "A", ⟨1⟩⟩] linkingFiles).1.1.toOption = none := by
    decide +kernel
  have returned : ((run linkingCommands).world.run MemoryFiles.operations .standard "A" [] "link" [.null]
      linkingFiles).1.1 = .ok .null := by
    decide +kernel
  have constructed : ([] : List Argument).mapM (run linkingCommands).argument? = some [] := rfl
  have passed : [Argument.plain .null trivial].mapM (run linkingCommands).argument? = some [.null] := rfl
  exact ⟨object, refused, returned,
    (runInOneGo_returns_no_object MemoryFiles.operations linkingFiles linkingCommands .standard "A" "link"
      constructed passed returned).1⟩

end Client
end LateBinding
