import LateBinding.Proofs.Client.Isolation

/-!
# The life of a loader

A loader gives one type for a name as long as it is open, whatever becomes of the file.  A load that
fails is forgotten, so the name can be loaded once its module is there.  A loader that is closed stays
closed: it loads nothing any more, and the types and objects that it has produced are dead.
-/

namespace LateBinding
namespace World

variable {world : World} {id : LoaderId}

/-- A loader has been opened and closed. -/
def HasClosed (world : World) (id : LoaderId) : Prop :=
  ∃ loader, world.loader? id = some loader ∧ loader.isClosed = true

theorem hasClosed_closeLoader
    (opened : (world.loader? id).isSome = true) :
    (world.closeLoader id).HasClosed id := by
  obtain ⟨loader, there⟩ := Option.isSome_iff_exists.mp opened
  refine ⟨{ loader with cache := [], isClosed := true }, ?_, rfl⟩
  rw [loader?_closeLoader, if_pos rfl, there]
  rfl

/-! ## Nothing opens a closed loader -/

namespace HasClosed

theorem congr
    (closed : world.HasClosed id)
    {after : World}
    (loaders : after.loaders = world.loaders) :
    after.HasClosed id := by
  obtain ⟨loader, there, isClosed⟩ := closed
  refine ⟨loader, ?_, isClosed⟩
  rw [loader?, loaders]
  exact there

theorem openLoader
    (closed : world.HasClosed id)
    (directory ending : String) :
    (world.openLoader directory ending).2.HasClosed id := by
  obtain ⟨loader, there, isClosed⟩ := closed
  refine ⟨loader, ?_, isClosed⟩
  rw [loader?_openLoader_of_ne]
  · exact there
  · rintro rfl
    rw [loader?_fst_openLoader] at there
    nomatch there

theorem closeLoader
    (closed : world.HasClosed id)
    (closing : LoaderId) :
    (world.closeLoader closing).HasClosed id := by
  obtain ⟨loader, there, isClosed⟩ := closed
  by_cases same : id = closing
  · subst same
    apply hasClosed_closeLoader
    rw [there]
    rfl
  · refine ⟨loader, ?_, isClosed⟩
    rw [loader?_closeLoader, if_neg same]
    exact there

/-- Only an open loader changes when a type is loaded. -/
theorem load
    (closed : world.HasClosed id)
    (read : String → Except FileError Bytes)
    (loading : LoaderId)
    (name : String) :
    (world.load read loading name).2.HasClosed id := by
  rcases world.load_cases read loading name with ⟨error, failed⟩ | ⟨_, _, _, _, _, loads⟩ |
    ⟨opened, image, table, finds⟩
  · rw [failed]
    exact closed
  · rw [loads]
    exact closed
  · obtain ⟨loader, there, isClosed⟩ := closed
    have different : id ≠ loading := by
      rintro rfl
      obtain rfl := Option.some.inj (there.symm.trans finds.there)
      nomatch isClosed.symm.trans finds.opened
    refine ⟨loader, ?_, isClosed⟩
    rw [finds.load, loader?_withType finds.there, if_neg different]
    exact there

/-! ## Nothing can be done with a closed loader -/

variable (closed : world.HasClosed id)

include closed

theorem isOpen_eq_false : world.isOpen id = false := by
  obtain ⟨loader, there, isClosed⟩ := closed
  simp [isOpen, there, isClosed]

theorem load_eq
    (read : String → Except FileError Bytes)
    (name : String) :
    world.load read id name = (.error (.closed id.number), world) := by
  obtain ⟨loader, there, isClosed⟩ := closed
  exact load_of_closed there isClosed

theorem construct_eq
    {type : LoadedType}
    (producedBy : type.loader = id)
    (arguments : List Value) :
    world.construct type arguments = (.error (.closed type.name), world) := by
  rw [construct, producedBy, closed.isOpen_eq_false]
  rfl

variable {reference : Reference} {object : Object}

theorem invoke_eq
    (found : world.object? reference = some object)
    (producedBy : object.type.loader = id)
    (name : String)
    (arguments : List Value) :
    world.invoke reference name arguments = (.error (.closed object.type.name), world) := by
  simp only [invoke, found, producedBy, closed.isOpen_eq_false]
  rfl

theorem fieldValue_eq
    (found : world.object? reference = some object)
    (producedBy : object.type.loader = id)
    (name : String) :
    world.fieldValue reference name = .error (.closed object.type.name) := by
  simp only [fieldValue, found, producedBy, closed.isOpen_eq_false]
  rfl

end HasClosed

/-- A load that fails changes nothing. -/
theorem eq_of_load_error
    {read : String → Except FileError Bytes}
    {name : String}
    {error : LoadError}
    {after : World}
    (failed : world.load read id name = (.error error, after)) :
    after = world := by
  rcases world.load_cases read id name with ⟨_, unchanged⟩ | ⟨_, _, _, _, _, loads⟩ |
    ⟨_, _, _, finds⟩
  · exact (Prod.mk.inj (failed.symm.trans unchanged)).2
  · nomatch failed.symm.trans loads
  · nomatch failed.symm.trans finds.load

end World

namespace Client

variable {client : Client} {loader : LoaderId}

theorem hasClosed_attempt
    (closed : client.world.HasClosed loader)
    (acting : LoaderId)
    (task : Task) :
    (client.attempt acting task).2.HasClosed loader := by
  cases task with
  | load name => exact closed.load client.files acting name
  | construct number arguments =>
      rw [attempt]
      split
      · next type values _ _ => exact closed.congr (client.world.loaders_construct type values)
      · exact closed
  | invoke number method arguments =>
      rw [attempt]
      split
      · next reference values _ _ =>
        exact closed.congr (client.world.loaders_invoke reference method values)
      · exact closed
  | readField number name =>
      rw [attempt]
      split
      · exact closed
      · exact closed
  | close => exact closed.closeLoader acting

theorem hasClosed_perform
    (command : Command)
    (closed : client.world.HasClosed loader) :
    (client.perform command).world.HasClosed loader := by
  cases command with
  | openLoader directory ending => exact closed.openLoader directory ending
  | changeFiles read => exact closed
  | perform acting task => exact hasClosed_attempt closed acting task

/-! ## The phases of a loader's life -/

/-- The types of one name from one loader are one type, and loaders share no types. -/
def LoadsAgree (client : Client) : Prop :=
  ∀ first ∈ client.events, ∀ second ∈ client.events, ∀ name otherName type other,
    first.task = .load name → first.answer.type? = some type →
    second.task = .load otherName → second.answer.type? = some other →
      (first.loader = second.loader → name = otherName → type = other) ∧
      (first.loader ≠ second.loader → type.isSame other = false)

/-- The module of a name is where an open loader looks for it. -/
def HasModule (client : Client) (loader : LoaderId) (name : String) (image : ModuleImage) : Prop :=
  isQualifiedName name = true ∧
    ∃ opened content table, client.world.loader? loader = some opened ∧ opened.isClosed = false ∧
      client.files (modulePath opened.directory name opened.extension) = .ok content ∧
      World.readModule name content = .ok (image, table)

/-- A loader loads a name, and takes the image if it has not loaded the name before. -/
def Loads (client : Client) (loader : LoaderId) (name : String) (image : ModuleImage) : Prop :=
  ∃ type, (client.attempt loader (.load name)).1 = .type (.ok type) ∧
    ((∀ event ∈ client.events, event.loader = loader → event.task = .load name →
      event.answer.type? = none) → type.image = image)

/-- A load that fails changes nothing, and the name is loaded as soon as its module is there. -/
def ForgetsFailedLoads (client : Client) : Prop :=
  ∀ loader name error, (client.attempt loader (.load name)).1 = .type (.error error) →
    (client.attempt loader (.load name)).2 = client.world ∧
    ∀ later image,
      (client.runFrom (.perform loader (.load name) :: later)).HasModule loader name image →
        (client.runFrom (.perform loader (.load name) :: later)).Loads loader name image

/-- A closed loader loads nothing, and its types and objects are dead: nothing is printed or changed. -/
structure IsDead (client : Client) (loader : LoaderId) : Prop where
  /-- No name is loaded. -/
  loads : ∀ read name,
    client.world.load read loader name = (.error (.closed loader.number), client.world)
  /-- No object is constructed. -/
  constructions : ∀ type, type.loader = loader → ∀ arguments,
    client.world.construct type arguments = (.error (.closed type.name), client.world)
  /-- No method is called. -/
  calls : ∀ reference object, client.world.object? reference = some object →
    object.type.loader = loader → ∀ name arguments,
      client.world.invoke reference name arguments =
        (.error (.closed object.type.name), client.world)
  /-- No field is read. -/
  fields : ∀ reference object, client.world.object? reference = some object →
    object.type.loader = loader → ∀ name,
      client.world.fieldValue reference name = .error (.closed object.type.name)

theorem IsConsistent.loadsAgree (consistent : client.IsConsistent) : client.LoadsAgree := by
  intro first presentFirst second presentSecond name otherName type other ofTask loads ofOther
    loadsOther
  have known : type ∈ client.types := ⟨first, presentFirst, loads⟩
  have knownOther : other ∈ client.types := ⟨second, presentSecond, loadsOther⟩
  obtain ⟨producedBy, sameTask⟩ := consistent.loaded first presentFirst type loads
  obtain ⟨producedByOther, sameOther⟩ := consistent.loaded second presentSecond other loadsOther
  obtain rfl := Task.load.inj (ofTask.symm.trans sameTask)
  obtain rfl := Task.load.inj (ofOther.symm.trans sameOther)
  rw [← producedBy, ← producedByOther]
  constructor
  · intro sameLoader sameName
    exact consistent.knows.unique type known other knownOther sameLoader sameName
  · intro different
    apply decide_eq_false
    intro sameIdentity
    have equal := consistent.knows.identified type known other knownOther sameIdentity
    exact different (congrArg LoadedType.loader equal)

theorem HasModule.loads
    {name : String}
    {image : ModuleImage}
    (has : client.HasModule loader name image)
    (consistent : client.IsConsistent) :
    client.Loads loader name image := by
  obtain ⟨qualified, opened, content, table, there, isOpen, readable, accepted⟩ := has
  cases known : opened.cache.lookup name with
  | some type =>
      have loads : client.world.load client.files loader name = (.ok type, client.world) :=
        World.load_of_cached there isOpen known
      refine ⟨type, by rw [attempt, loads]; rfl, ?_⟩
      intro never
      obtain ⟨⟨event, present, before⟩, producedBy, named⟩ :=
        consistent.knows.held loader opened there _ (World.cached_mem known)
      obtain ⟨sameLoader, sameTask⟩ := consistent.loaded event present type before
      obtain rfl : type.name = name := named
      have forgotten := never event present (sameLoader.symm.trans producedBy) sameTask
      rw [before] at forgotten
      cases forgotten
  | none =>
      have finds : client.world.Finds client.files loader name opened image table :=
        ⟨there, isOpen, known, qualified, content, readable, accepted⟩
      exact ⟨_, by rw [attempt, finds.load]; rfl, fun _ => rfl⟩

theorem run_forgetsFailedLoads (commands : List Command) : (run commands).ForgetsFailedLoads := by
  intro loader name error failed
  rw [attempt] at failed ⊢
  constructor
  · rcases loads : (run commands).world.load (run commands).files loader name with ⟨result, after⟩
    rw [loads] at failed
    obtain rfl := Answer.type.inj failed
    exact World.eq_of_load_error loads
  · intro later image has
    rw [← run_append] at has ⊢
    exact has.loads (run_isConsistent _)

theorem isDead_of_hasClosed (closed : client.world.HasClosed loader) : client.IsDead loader where
  loads := closed.load_eq
  constructions _ producedBy arguments := closed.construct_eq producedBy arguments
  calls _ _ found producedBy name arguments := closed.invoke_eq found producedBy name arguments
  fields _ _ found producedBy name := closed.fieldValue_eq found producedBy name

/-- A loader that has been opened and is closed is dead after all further steps. -/
theorem isDead_runFrom_close
    (opened : (client.world.loader? loader).isSome = true)
    (later : List Command) :
    (client.runFrom (.perform loader .close :: later)).IsDead loader := by
  have closed : (client.perform (.perform loader .close)).world.HasClosed loader :=
    World.hasClosed_closeLoader opened
  apply isDead_of_hasClosed
  exact @runFrom_induction (·.world.HasClosed loader)
    (fun _ command stillClosed => hasClosed_perform command stillClosed) _ closed later

/--
At any time a loader gives one type for a name that no other loader gives; a load that fails changes
nothing and succeeds later if the module is there; and a loader that is closed is dead forever.
-/
theorem run_lifeCycle (commands : List Command) :
    (run commands).LoadsAgree ∧ (run commands).ForgetsFailedLoads ∧
    ∀ loader, ((run commands).world.loader? loader).isSome = true → ∀ later,
      ((run commands).runFrom (.perform loader .close :: later)).IsDead loader :=
  ⟨(run_isConsistent commands).loadsAgree, run_forgetsFailedLoads commands,
    fun _ opened later => isDead_runFrom_close opened later⟩

/-- A client whose first loader finds no module at first, and loads it again when it is removed. -/
def reloadingCommands : List Command :=
  [.openLoader "d" "kiln", .openLoader "d" "kiln", .perform ⟨1⟩ (.load "A"),
    .changeFiles fun _ => .ok linkingImage.encode, .perform ⟨1⟩ (.load "A"),
    .perform ⟨2⟩ (.load "A"), .perform ⟨1⟩ (.construct 1 []),
    .changeFiles fun path => .error (.notFound path), .perform ⟨1⟩ (.load "A")]

theorem run_reloadingCommands_lifeCycle :
    (∃ type other, (run reloadingCommands).events[1]?.bind (·.answer.type?) = some type ∧
      (run reloadingCommands).events[4]?.bind (·.answer.type?) = some type ∧
      (run reloadingCommands).events[2]?.bind (·.answer.type?) = some other ∧
      type.isSame other = false) ∧
    (∃ error image, ((run (reloadingCommands.take 2)).attempt ⟨1⟩ (.load "A")).1 =
        .type (.error error) ∧ (run (reloadingCommands.take 4)).Loads ⟨1⟩ "A" image) ∧
    ∃ object, (run reloadingCommands).world.object? ⟨0, "A", ⟨1⟩⟩ = some object ∧
      ((run reloadingCommands).perform (.perform ⟨1⟩ .close)).world.invoke ⟨0, "A", ⟨1⟩⟩ "link"
          [.null] =
        (.error (.closed object.type.name),
          ((run reloadingCommands).perform (.perform ⟨1⟩ .close)).world) := by
  obtain ⟨agree, _, dead⟩ := run_lifeCycle reloadingCommands
  obtain ⟨_, forgets, _⟩ := run_lifeCycle (reloadingCommands.take 2)
  refine ⟨?_, ?_, ?_⟩
  · have produces : ∀ (number : Nat) (loader : LoaderId),
        (run reloadingCommands).events[number]?.map (fun event =>
          (event.loader, event.task, event.answer.type?.isSome)) = some (loader, .load "A", true) →
        ∃ event ∈ (run reloadingCommands).events, ∃ type,
          (run reloadingCommands).events[number]?.bind (·.answer.type?) = some type ∧
          event.answer.type? = some type ∧ event.task = .load "A" ∧ event.loader = loader := by
      intro number loader parts
      obtain ⟨event, there, same⟩ := Option.map_eq_some_iff.mp parts
      obtain ⟨rfl, ofTask, loads⟩ := by simpa using same
      obtain ⟨type, given⟩ := Option.isSome_iff_exists.mp loads
      exact ⟨event, List.mem_of_getElem? there, type, by rw [there]; exact given, given, ofTask, rfl⟩
    obtain ⟨first, presentFirst, type, gave, loads, ofTask, fromFirst⟩ :=
      produces 1 ⟨1⟩ (by decide +kernel)
    obtain ⟨second, presentSecond, again, gaveAgain, loadsAgain, ofTaskAgain, fromSecond⟩ :=
      produces 4 ⟨1⟩ (by decide +kernel)
    obtain ⟨third, presentThird, other, gaveOther, loadsOther, ofTaskOther, fromThird⟩ :=
      produces 2 ⟨2⟩ (by decide +kernel)
    have same := (agree first presentFirst second presentSecond _ _ _ _ ofTask loads ofTaskAgain
      loadsAgain).1 (fromFirst.trans fromSecond.symm) rfl
    subst same
    have different : first.loader ≠ third.loader := by
      rw [fromFirst, fromThird]
      decide
    exact ⟨type, other, gave, gaveAgain, gaveOther, (agree first presentFirst third presentThird _ _
      _ _ ofTask loads ofTaskOther loadsOther).2 different⟩
  · have failed : ((run (reloadingCommands.take 2)).attempt ⟨1⟩ (.load "A")).1 =
        .type (.error (.moduleNotFound "A" "d/A.kiln")) := by
      decide +kernel
    have accepted :
        (World.readModule "A" linkingImage.encode).map (fun both => both.1.name) = .ok "A" := by
      decide +kernel
    obtain ⟨⟨image, table⟩, reads, _⟩ := Outcome.map_eq_ok_iff.mp accepted
    refine ⟨_, image, failed, ?_⟩
    apply (forgets ⟨1⟩ "A" _ failed).2 [.changeFiles fun _ => .ok linkingImage.encode]
    exact ⟨by decide +kernel, ⟨"d", "kiln", [], false⟩, _, table, by decide +kernel, rfl, rfl, reads⟩
  · have constructed : ((run reloadingCommands).world.object? ⟨0, "A", ⟨1⟩⟩).map
        (fun object => object.type.loader) = some ⟨1⟩ := by
      decide +kernel
    obtain ⟨object, found, producedBy⟩ := Option.map_eq_some_iff.mp constructed
    refine ⟨object, found, ?_⟩
    apply (dead ⟨1⟩ (by decide +kernel) []).calls _ _ _ producedBy
    exact (congrArg (·[0]?) (World.objects_closeLoader _ _)).trans found

end Client
end LateBinding
