import LateBinding.Proofs.Client.Basic
import LateBinding.Proofs.Loading.Types

/-!
# Loaders do not share objects

Whatever code the modules hold and whatever objects a client passes around, the fields of an object refer
only to objects of its own loader, and its methods return no others.  The only barrier is the check of
arguments: an object of another loader is refused, and code cannot make a reference of its own.  Since a
loader produces one type under a name, the type of such an object is the one of its name.
-/

namespace LateBinding

/-! ## Accepted arguments -/

theorem Value.Refers.and
    {property other : Reference → Prop}
    {value : Value}
    (refers : value.Refers property)
    (also : value.Refers other) :
    value.Refers fun reference => property reference ∧ other reference := by
  cases value with
  | object reference => exact ⟨refers, also⟩
  | _ => trivial

/-- An object that is accepted comes from the loader of the member. -/
theorem Value.refers_of_isAccepted
    {type : ValueType}
    {loader : LoaderId}
    {value : Value}
    (accepted : value.isAccepted type loader = true) :
    value.Refers fun reference => reference.loader = loader := by
  cases value with
  | object reference =>
      obtain ⟨_, same⟩ := Bool.and_eq_true_iff.mp accepted
      have equal : reference.loader = loader := of_decide_eq_true same
      exact equal
  | _ => trivial

theorem refers_of_acceptsAll
    {loader : LoaderId}
    {parameters : List ValueType}
    {arguments : List Value}
    (asMany : arguments.length = parameters.length)
    (accepts : acceptsAll loader parameters arguments = true) :
    ∀ value ∈ arguments, value.Refers fun reference => reference.loader = loader := by
  intro value present
  obtain ⟨index, inside, rfl⟩ := List.getElem_of_mem present
  have together : (parameters[index], arguments[index]) ∈ parameters.zip arguments := by
    apply List.mem_of_getElem?
    exact List.getElem?_zip_eq_some.mpr
      ⟨List.getElem?_eq_getElem (asMany ▸ inside), List.getElem?_eq_getElem inside⟩
  exact Value.refers_of_isAccepted (List.all_eq_true.mp accepts _ together)

namespace World

variable {world after : World}

/-- A loader owns the object of a reference when the object's type comes from the loader. -/
def Owns (world : World) (loader : LoaderId) (reference : Reference) : Prop :=
  ∃ object, world.object? reference = some object ∧ object.type.loader = loader ∧
    reference.loader = loader ∧ reference.typeName = object.type.name

/-- Objects stay and keep their types. -/
def KeepsObjects (world after : World) : Prop :=
  ∀ (number : Nat) object, world.objects[number]? = some object →
    ∃ changed, after.objects[number]? = some changed ∧ changed.type = object.type

theorem KeepsObjects.of_eq (same : after.objects = world.objects) : world.KeepsObjects after := by
  intro number object there
  exact ⟨object, same ▸ there, rfl⟩

theorem Owns.keep
    {loader : LoaderId}
    {reference : Reference}
    (owns : world.Owns loader reference)
    (keeps : world.KeepsObjects after) :
    after.Owns loader reference := by
  obtain ⟨object, found, fromLoader, same, named⟩ := owns
  obtain ⟨changed, foundAfter, sameType⟩ := keeps reference.object object found
  refine ⟨changed, foundAfter, ?_, same, ?_⟩
  · rw [sameType]
    exact fromLoader
  · rw [sameType]
    exact named

theorem refers_owns_keep
    {loader : LoaderId}
    {values : List Value}
    (refers : ∀ value ∈ values, value.Refers (world.Owns loader))
    (keeps : world.KeepsObjects after) :
    ∀ value ∈ values, value.Refers (after.Owns loader) :=
  fun value present => (refers value present).mono fun _ owns => owns.keep keeps

/-- An accepted object that some loader owns is owned by the loader that accepts it. -/
theorem refers_owns_of_accepted
    {loader : LoaderId}
    {arguments : List Value}
    (genuine : ∀ value ∈ arguments, value.Refers fun reference =>
      ∃ owner, world.Owns owner reference)
    (accepted : ∀ value ∈ arguments, value.Refers fun reference => reference.loader = loader) :
    ∀ value ∈ arguments, value.Refers (world.Owns loader) := by
  intro value present
  apply ((genuine value present).and (accepted value present)).mono
  rintro reference ⟨⟨owner, owns⟩, fromLoader⟩
  obtain ⟨object, found, ownerOfType, same, named⟩ := owns
  obtain rfl := same.symm.trans fromLoader
  exact ⟨object, found, ownerOfType, same, named⟩

/-! ## Objects after a step -/

@[simp] theorem objects_load
    (world : World)
    (read : String → Except FileError Bytes)
    (id : LoaderId)
    (name : String) :
    (world.load read id name).2.objects = world.objects := by
  rcases world.load_cases read id name with ⟨error, failed⟩ | ⟨_, _, _, _, _, loads⟩ |
    ⟨_, _, _, finds⟩
  · rw [failed]
  · rw [loads]
  · rw [finds.load]
    rfl

theorem keepsObjects_withObject (world : World) (type : LoadedType) (machine : Machine) :
    world.KeepsObjects (world.withObject type machine) := by
  intro number object there
  have inside := (List.getElem?_eq_some_iff.mp there).1
  exact ⟨object, (List.getElem?_append_left inside).trans there, rfl⟩

theorem keepsObjects_withRun
    {reference : Reference}
    {object : Object}
    (found : world.object? reference = some object)
    (machine : Machine) :
    world.KeepsObjects (world.withRun reference object machine) := by
  intro number other there
  rw [getElem?_withRun found]
  split
  · next same =>
    subst same
    obtain rfl := Option.some.inj (found.symm.trans there)
    exact ⟨_, rfl, rfl⟩
  · exact ⟨other, there, rfl⟩

theorem mem_fields_of_fieldValue
    {reference : Reference}
    {name : String}
    {value : Value}
    (read : world.fieldValue reference name = .ok value) :
    ∃ object, world.object? reference = some object ∧ value ∈ object.fields := by
  unfold fieldValue at read
  split at read
  · nomatch read
  · next object found =>
    split at read
    · nomatch read
    · split at read
      · nomatch read
      · next there =>
        obtain rfl := Except.ok.inj read
        obtain ⟨index, _, present⟩ := Option.bind_eq_some_iff.mp there
        exact ⟨object, found, List.mem_of_getElem? present⟩

end World

namespace Client

variable {client : Client} {loader : LoaderId}

/-! ## What holds of every client -/

/-- The types that the tasks of a client have loaded. -/
def types (client : Client) : Set LoadedType :=
  {type | ∃ event ∈ client.events, event.answer.type? = some type}

/-- What holds of every client, whatever it has done. -/
structure IsConsistent (client : Client) : Prop where
  /-- The loaders hold what the tasks have loaded. -/
  knows : client.world.Knows client.types
  /-- A task loads the type of the name that it asks for, from its own loader. -/
  loaded : ∀ event ∈ client.events, ∀ type, event.answer.type? = some type →
    type.loader = event.loader ∧ event.task = .load type.name
  /-- Objects are of loaded types, and their fields refer to objects of their own loader. -/
  objects : ∀ object ∈ client.world.objects, object.type ∈ client.types ∧
    ∀ value ∈ object.fields, value.Refers (client.world.Owns object.type.loader)
  /-- A task gives no objects but those of its loader. -/
  given : ∀ event ∈ client.events, ∀ value, event.answer.value? = some value →
    value.Refers (client.world.Owns event.loader)

theorem types_after
    (client : Client)
    (loader : LoaderId)
    (task : Task)
    (answer : Answer)
    (world : World) :
    (client.after loader task (answer, world)).types =
      {type | answer.type? = some type} ∪ client.types := by
  ext type
  simp only [types, after, List.mem_append, List.mem_singleton, Set.mem_union, Set.mem_ofPred_eq]
  constructor
  · rintro ⟨event, before | rfl, loaded⟩
    · exact .inr ⟨event, before, loaded⟩
    · exact .inl loaded
  · rintro (loaded | ⟨event, before, loaded⟩)
    · exact ⟨_, .inr rfl, loaded⟩
    · exact ⟨event, .inl before, loaded⟩

theorem isConsistent_start : start.IsConsistent := by
  have none : start.types = ∅ := by simp [types, start]
  constructor
  · rw [none]
    exact World.knows_empty
  · intro event impossible
    nomatch impossible
  · intro object impossible
    nomatch impossible
  · intro event impossible
    nomatch impossible

namespace IsConsistent

variable (consistent : client.IsConsistent)

include consistent

/-- A type that a task has loaded comes from the loader of the task. -/
theorem type?_eq_some
    {number : Nat}
    {type : LoadedType}
    (named : client.type? loader number = some type) :
    type ∈ client.types ∧ type.loader = loader := by
  obtain ⟨answer, answered, loads⟩ := Option.bind_eq_some_iff.mp named
  obtain ⟨event, present, rfl, rfl⟩ := exists_event_of_answer? answered
  exact ⟨⟨event, present, loads⟩, (consistent.loaded event present type loads).1⟩

/-- An object that a task has given is owned by the loader of the task. -/
theorem reference?_eq_some
    {number : Nat}
    {reference : Reference}
    (named : client.reference? loader number = some reference) :
    client.world.Owns loader reference := by
  obtain ⟨answer, answered, gives⟩ := Option.bind_eq_some_iff.mp named
  obtain ⟨event, present, rfl, rfl⟩ := exists_event_of_answer? answered
  rw [Answer.reference?] at gives
  split at gives
  · next same =>
    obtain rfl := Option.some.inj gives
    exact consistent.given event present _ same
  · nomatch gives

/-- Every argument is plain or an object that some loader owns. -/
theorem refers_of_arguments
    {arguments : List Argument}
    {values : List Value}
    (evaluated : arguments.mapM client.argument? = some values) :
    ∀ value ∈ values, value.Refers fun reference => ∃ owner, client.world.Owns owner reference := by
  intro value present
  obtain ⟨argument, _, known⟩ := exists_argument_of_mapM evaluated present
  cases argument with
  | plain value isPlain =>
      obtain rfl := Option.some.inj known
      exact isPlain.refers
  | given owner number =>
      obtain ⟨answer, answered, gives⟩ := Option.bind_eq_some_iff.mp known
      obtain ⟨event, among, rfl, rfl⟩ := exists_event_of_answer? answered
      exact (consistent.given event among _ gives).mono fun reference owns => ⟨_, owns⟩

/-- The objects stay as they are in a world that has the same ones. -/
theorem objects_of_eq
    {world : World}
    (same : world.objects = client.world.objects) :
    ∀ object ∈ world.objects, object.type ∈ client.types ∧
      ∀ value ∈ object.fields, value.Refers (world.Owns object.type.loader) := by
  rw [same]
  intro object present
  obtain ⟨ofType, refers⟩ := consistent.objects object present
  exact ⟨ofType, World.refers_owns_keep refers (.of_eq same)⟩

/-- A task that keeps the objects and gives what its loader owns leaves the client consistent. -/
theorem after
    {task : Task}
    {answer : Answer}
    {world : World}
    (keeps : client.world.KeepsObjects world)
    (knows : world.Knows ({type | answer.type? = some type} ∪ client.types))
    (loaded : ∀ type, answer.type? = some type → type.loader = loader ∧ task = .load type.name)
    (objects : ∀ object ∈ world.objects, object.type ∈ client.types ∧
      ∀ value ∈ object.fields, value.Refers (world.Owns object.type.loader))
    (given : ∀ value, answer.value? = some value → value.Refers (world.Owns loader)) :
    (client.after loader task (answer, world)).IsConsistent := by
  constructor
  · rw [types_after]
    exact knows
  · intro event present
    rcases List.mem_append.mp present with before | last
    · exact consistent.loaded event before
    · obtain rfl := List.mem_singleton.mp last
      exact loaded
  · intro object present
    obtain ⟨ofType, refers⟩ := objects object present
    rw [types_after]
    exact ⟨.inr ofType, refers⟩
  · intro event present value gives
    rcases List.mem_append.mp present with before | last
    · exact (consistent.given event before value gives).mono fun reference owns => owns.keep keeps
    · obtain rfl := List.mem_singleton.mp last
      exact given value gives

/-- A call that produces no type leaves the client consistent if it keeps the loaders. -/
theorem after_call
    {task : Task}
    {answer : Answer}
    {world : World}
    (noType : answer.type? = none)
    (loaders : world.loaders = client.world.loaders)
    (typeCount : world.typeCount = client.world.typeCount)
    (keeps : client.world.KeepsObjects world)
    (objects : ∀ object ∈ world.objects, object.type ∈ client.types ∧
      ∀ value ∈ object.fields, value.Refers (world.Owns object.type.loader))
    (given : ∀ value, answer.value? = some value → value.Refers (world.Owns loader)) :
    (client.after loader task (answer, world)).IsConsistent := by
  apply consistent.after keeps _ _ objects given
  · simpa [noType] using consistent.knows.congr loaders typeCount
  · simp [noType]

/-- A task that comes to nothing new leaves the client consistent. -/
theorem after_unchanged
    {task : Task}
    {answer : Answer}
    (noType : answer.type? = none)
    (given : ∀ value, answer.value? = some value → value.Refers (client.world.Owns loader)) :
    (client.after loader task (answer, client.world)).IsConsistent :=
  consistent.after_call noType rfl rfl (.of_eq rfl) consistent.objects given

theorem load (name : String) :
    (client.perform (.perform loader (.load name))).IsConsistent := by
  rw [perform, attempt]
  rcases consistent.knows.load with ⟨error, failed⟩ | ⟨type, world, loads, fromLoader, named, knows⟩
  · rw [failed]
    exact consistent.after_unchanged rfl nofun
  · have same : world.objects = client.world.objects := by
      rw [← client.world.objects_load client.files loader name, loads]
    rw [loads]
    change (client.after loader _ (.type (.ok type), world)).IsConsistent
    refine consistent.after (.of_eq same) ?_ ?_ (consistent.objects_of_eq same)
      (fun value impossible => nomatch impossible)
    · rw [Set.insert_eq, ← Set.ofPred_eq_eq_singleton] at knows
      simpa [Answer.type?] using knows
    · intro other gives
      obtain rfl := Option.some.inj gives
      exact ⟨fromLoader, named ▸ rfl⟩

theorem construct (number : Nat) (arguments : List Argument) :
    (client.perform (.perform loader (.construct number arguments))).IsConsistent := by
  rw [perform, attempt]
  split
  · next type values named evaluated =>
    obtain ⟨ofType, rfl⟩ := consistent.type?_eq_some named
    rcases client.world.construct_cases type values with
      ⟨error, _, refused⟩ | ⟨opened, required⟩
    · rw [refused]
      exact consistent.after_unchanged rfl nofun
    · obtain ⟨asMany, accepts⟩ := LoadedType.requireConstructorArguments_eq_ok_iff.mp required
      have owned := World.refers_owns_of_accepted (consistent.refers_of_arguments evaluated)
        (refers_of_acceptsAll asMany accepts)
      have stored := client.world.constructorRun_refers type owned
      rcases run : client.world.constructorRun type values with ⟨result, machine⟩
      rw [run] at stored
      cases result with
      | error reason =>
          rw [World.construct_of_error opened required run]
          exact consistent.after_call rfl rfl rfl (.of_eq rfl) consistent.objects nofun
      | ok value =>
          rw [World.construct_of_ok opened required run]
          have keeps := client.world.keepsObjects_withObject type machine
          change (client.after type.loader _ (.object (.ok _), client.world.withObject _ _)).IsConsistent
          refine consistent.after_call rfl rfl rfl keeps ?_ ?_
          · intro object present
            rcases List.mem_append.mp present with before | new
            · obtain ⟨ofType, refers⟩ := consistent.objects object before
              exact ⟨ofType, World.refers_owns_keep refers keeps⟩
            · obtain rfl := List.mem_singleton.mp new
              exact ⟨ofType, World.refers_owns_keep stored keeps⟩
          · intro value gives
            obtain rfl := Option.some.inj gives
            exact ⟨_, List.getElem?_concat_length, rfl, rfl, rfl⟩
  · exact consistent.after_unchanged rfl nofun

theorem invoke (number : Nat) (method : String) (arguments : List Argument) :
    (client.perform (.perform loader (.invoke number method arguments))).IsConsistent := by
  rw [perform, attempt]
  split
  · next reference values named evaluated =>
    rcases client.world.invoke_cases reference method values with
      ⟨error, _, refused⟩ | ⟨object, member, found, opened, meant⟩
    · rw [refused]
      exact consistent.after_unchanged rfl nofun
    · obtain ⟨other, foundOther, fromLoader, _⟩ := consistent.reference?_eq_some named
      obtain rfl := Option.some.inj (found.symm.trans foundOther)
      subst fromLoader
      obtain ⟨ofType, refers⟩ := consistent.objects object (World.object_mem found)
      have asMany := (LoadedType.mem_methods_of_dispatch meant).2.symm
      have owned := World.refers_owns_of_accepted (consistent.refers_of_arguments evaluated)
        (refers_of_acceptsAll asMany (LoadedType.accepts_of_dispatch meant))
      obtain ⟨stored, returned⟩ := client.world.methodRun_refers refers owned member
      have keeps := World.keepsObjects_withRun found
        (client.world.methodRun object member values).2
      rw [World.invoke_of_dispatch found opened meant]
      change (client.after object.type.loader _ (.value (Except.mapError _ _),
        client.world.withRun _ _ _)).IsConsistent
      refine consistent.after_call rfl rfl rfl keeps ?_ ?_
      · intro changed present
        rcases List.mem_or_eq_of_mem_set present with before | rfl
        · obtain ⟨ofType, refers⟩ := consistent.objects changed before
          exact ⟨ofType, World.refers_owns_keep refers keeps⟩
        · exact ⟨ofType, World.refers_owns_keep stored keeps⟩
      · intro value gives
        cases result : (client.world.methodRun object member values).1 with
        | error reason =>
            rw [result] at gives
            nomatch gives
        | ok given =>
            rw [result] at gives
            obtain rfl := Option.some.inj gives
            exact (returned given result).mono fun reference owns => owns.keep keeps
  · exact consistent.after_unchanged rfl nofun

/-- Reading a field gives one of the values of the object's fields. -/
theorem readField (number : Nat) (name : String) :
    (client.perform (.perform loader (.readField number name))).IsConsistent := by
  rw [perform, attempt]
  split
  · next reference named =>
    apply consistent.after_unchanged rfl
    intro value gives
    cases result : client.world.fieldValue reference name with
    | error error =>
        rw [result] at gives
        nomatch gives
    | ok given =>
        rw [result] at gives
        obtain rfl := Option.some.inj gives
        obtain ⟨object, found, present⟩ := World.mem_fields_of_fieldValue result
        obtain ⟨other, foundOther, fromLoader, _⟩ := consistent.reference?_eq_some named
        obtain rfl := Option.some.inj (found.symm.trans foundOther)
        subst fromLoader
        exact (consistent.objects object (World.object_mem found)).2 given present
  · exact consistent.after_unchanged rfl nofun

theorem close :
    (client.perform (.perform loader .close)).IsConsistent := by
  rw [perform, attempt]
  have same := client.world.objects_closeLoader loader
  refine consistent.after (.of_eq same) ?_ (fun type impossible => nomatch impossible)
    (consistent.objects_of_eq same) (fun value impossible => nomatch impossible)
  simpa [Answer.type?] using consistent.knows.closeLoader loader

theorem openLoader (directory ending : String) :
    (client.perform (.openLoader directory ending)).IsConsistent where
  knows := consistent.knows.openLoader directory ending
  loaded := consistent.loaded
  objects := consistent.objects
  given := consistent.given

theorem changeFiles (read : String → Except FileError Bytes) :
    (client.perform (.changeFiles read)).IsConsistent where
  knows := consistent.knows
  loaded := consistent.loaded
  objects := consistent.objects
  given := consistent.given

/-- Every step leaves the client consistent. -/
theorem perform (command : Command) : (client.perform command).IsConsistent := by
  cases command with
  | openLoader directory ending => exact consistent.openLoader directory ending
  | changeFiles read => exact consistent.changeFiles read
  | perform loader task =>
      cases task with
      | load name => exact consistent.load name
      | construct type arguments => exact consistent.construct type arguments
      | invoke object method arguments => exact consistent.invoke object method arguments
      | readField object name => exact consistent.readField object name
      | close => exact consistent.close

end IsConsistent

theorem run_isConsistent (commands : List Command) : (run commands).IsConsistent :=
  runFrom_induction (fun _ command consistent => consistent.perform command) isConsistent_start
    commands

/-! ## Isolation -/

/--
A loader has produced the object of a reference, and under the name of the object's type it has produced
no other type.
-/
def Produced (client : Client) (loader : LoaderId) (reference : Reference) : Prop :=
  ∃ object, client.world.object? reference = some object ∧
    object.type ∈ client.types ∧ object.type.loader = loader ∧
    reference.loader = loader ∧ reference.typeName = object.type.name ∧
    ∀ type ∈ client.types, type.loader = loader → type.name = object.type.name →
      type = object.type

theorem IsConsistent.produced
    (consistent : client.IsConsistent)
    {reference : Reference}
    (owns : client.world.Owns loader reference) :
    client.Produced loader reference := by
  obtain ⟨object, found, fromLoader, same, named⟩ := owns
  have ofType := (consistent.objects object (World.object_mem found)).1
  refine ⟨object, found, ofType, fromLoader, same, named, ?_⟩
  intro type loaded producedBy sameName
  exact consistent.knows.unique type loaded object.type ofType (producedBy.trans fromLoader.symm)
    sameName

/-- The objects that have been called are known by the numbers of the tasks that have given them. -/
def KnowsCalled (client : Client) : Prop :=
  ∀ event ∈ client.events, ∀ number method arguments value,
    event.task = .invoke number method arguments → event.answer = .value (.ok value) →
    ∃ reference, client.reference? event.loader number = some reference

theorem exists_reference?_of_attempt
    {number : Nat}
    {method : String}
    {arguments : List Argument}
    {value : Value}
    (called : (client.attempt loader (.invoke number method arguments)).1 = .value (.ok value)) :
    ∃ reference, client.reference? loader number = some reference := by
  rw [attempt] at called
  split at called
  · next reference _ named _ => exact ⟨reference, named⟩
  · nomatch called

theorem reference?_perform
    {number : Nat}
    {reference : Reference}
    (named : client.reference? loader number = some reference)
    (command : Command) :
    (client.perform command).reference? loader number = some reference := by
  obtain ⟨answer, answered, gives⟩ := Option.bind_eq_some_iff.mp named
  rw [reference?, answer?_of_prefix (client.events_perform command) answered]
  exact gives

theorem KnowsCalled.perform
    (knows : client.KnowsCalled)
    (command : Command) :
    (client.perform command).KnowsCalled := by
  intro event present number method arguments value ofTask gave
  have known : ∃ reference, client.reference? event.loader number = some reference := by
    cases command with
    | perform loader task =>
        rcases List.mem_append.mp present with before | last
        · exact knows event before number method arguments value ofTask gave
        · obtain rfl := List.mem_singleton.mp last
          obtain rfl : task = _ := ofTask
          exact exists_reference?_of_attempt gave
    | openLoader directory ending => exact knows event present number method arguments value ofTask gave
    | changeFiles read => exact knows event present number method arguments value ofTask gave
  obtain ⟨reference, named⟩ := known
  exact ⟨reference, reference?_perform named command⟩

theorem run_knowsCalled (commands : List Command) : (run commands).KnowsCalled :=
  runFrom_induction (fun _ command knows => knows.perform command)
    (fun _ impossible => nomatch impossible) commands

/--
Whatever a client does, the object of every reference in a field of an object, and of every reference
that a method returns, has been produced by the loader of the object that stores or returns it.
-/
theorem run_isolates (commands : List Command) :
    (∀ object ∈ (run commands).world.objects, ∀ reference,
      .object reference ∈ object.fields →
        (run commands).Produced object.type.loader reference) ∧
    ∀ event ∈ (run commands).events, ∀ number method arguments returned,
      event.task = .invoke number method arguments →
      event.answer = .value (.ok (.object returned)) →
        ∃ receiver object, (run commands).reference? event.loader number = some receiver ∧
          (run commands).world.object? receiver = some object ∧
          (run commands).Produced object.type.loader returned := by
  have consistent := run_isConsistent commands
  constructor
  · intro object present reference stored
    exact consistent.produced ((consistent.objects object present).2 _ stored)
  · intro event present number method arguments returned ofTask gave
    obtain ⟨receiver, named⟩ :=
      run_knowsCalled commands event present number method arguments _ ofTask gave
    obtain ⟨object, found, fromLoader, _⟩ := consistent.reference?_eq_some named
    refine ⟨receiver, object, named, found, ?_⟩
    rw [fromLoader]
    apply consistent.produced
    have gives : event.answer.value? = some (.object returned) := by rw [gave]; rfl
    exact consistent.given event present _ gives

/-- A module whose method prints a line, stores its argument and returns it. -/
def linkingImage : ModuleImage where
  name := "A"
  fields := [⟨"next", .named "A", .privateAccess⟩]
  explicitConstructor := false
  constructor := ⟨constructorName, .void, [], [.returnVoid]⟩
  methods := [⟨"link", .named "A", [.named "A"], [.pushString 0, .callExternal 0 1,
    .loadParameter 0, .storeField 0, .loadField 0, .returnValue]⟩]
  strings := ⟨[Bytes.ofText printFunction]⟩

/-- A client that links an object to another one, and fails to link it to one of another loader. -/
def linkingCommands : List Command :=
  [.changeFiles fun _ => .ok linkingImage.encode, .openLoader "d" ".kiln", .openLoader "d" ".kiln",
    .perform ⟨1⟩ (.load "A"), .perform ⟨1⟩ (.construct 0 []), .perform ⟨1⟩ (.construct 0 []),
    .perform ⟨2⟩ (.load "A"), .perform ⟨2⟩ (.construct 0 []),
    .perform ⟨1⟩ (.invoke 1 "link" [.given ⟨2⟩ 1]), .perform ⟨1⟩ (.invoke 1 "link" [.given ⟨1⟩ 2])]

theorem run_linkingCommands_isolates :
    (∃ object ∈ (run linkingCommands).world.objects, ∃ reference,
      .object reference ∈ object.fields ∧
        (run linkingCommands).Produced object.type.loader reference) ∧
    ∃ event ∈ (run linkingCommands).events, ∃ returned,
      event.task = .invoke 1 "link" [.given ⟨1⟩ 2] ∧
      event.answer = .value (.ok (.object returned)) ∧
      ∃ receiver object, (run linkingCommands).reference? event.loader 1 = some receiver ∧
        (run linkingCommands).world.object? receiver = some object ∧
        (run linkingCommands).Produced object.type.loader returned := by
  have stored : ((run linkingCommands).world.objects[0]?).map Object.fields =
      some [.object ⟨1, "A", ⟨1⟩⟩] := by
    decide +kernel
  have called : ((run linkingCommands).events[6]?) =
      some ⟨⟨1⟩, .invoke 1 "link" [.given ⟨1⟩ 2], .value (.ok (.object ⟨1, "A", ⟨1⟩⟩))⟩ := by
    decide +kernel
  obtain ⟨objects, calls⟩ := run_isolates linkingCommands
  constructor
  · obtain ⟨object, first, fields⟩ := Option.map_eq_some_iff.mp stored
    have present := List.mem_of_getElem? first
    have among : .object ⟨1, "A", ⟨1⟩⟩ ∈ object.fields := by
      rw [fields]
      exact List.mem_singleton.mpr rfl
    exact ⟨object, present, _, among, objects object present _ among⟩
  · have present := List.mem_of_getElem? called
    exact ⟨_, present, _, rfl, rfl, calls _ present 1 "link" _ _ rfl rfl⟩

end Client
end LateBinding
