import LateBinding.Proofs.Calling.Values

/-!
# Clients

A client opens loaders and carries out tasks with them: it loads types, constructs objects of them, calls
their methods, reads their fields and closes the loaders.  It has no references but those that its tasks
have given it, and names them by the loader and the number of the task.  Every loader prints into a sink
of its own.  The files may change at any time.
-/

namespace LateBinding

namespace Client

/-- An argument of a call. -/
inductive Argument where
  /-- A value that refers to no object. -/
  | plain (value : Value) (isPlain : value.IsPlain)
  /-- What the task of a loader has given; the tasks of each loader are numbered from zero. -/
  | given (loader : LoaderId) (number : Nat)
  deriving DecidableEq

/-- What is done with a loader; types and objects are named by the task that has given them. -/
inductive Task where
  | load (name : String)
  | construct (type : Nat) (arguments : List Argument)
  | invoke (object : Nat) (method : String) (arguments : List Argument)
  | readField (object : Nat) (name : String)
  | close
  deriving DecidableEq

/-- A step of a client. -/
inductive Command where
  | openLoader (directory extension : String)
  /-- Files are written, overwritten or removed. -/
  | changeFiles (read : String → Except FileError Bytes)
  | perform (loader : LoaderId) (task : Task)

/-- What a task comes to. -/
inductive Answer where
  | type (result : Except LoadError LoadedType)
  | object (result : Except CallError Reference)
  | value (result : Except CallError Value)
  | closed
  /-- The task names a type, an object or a value that nothing has given. -/
  | missing
  deriving DecidableEq

namespace Answer

/-- The type that has been loaded. -/
def type? : Answer → Option LoadedType
  | type (.ok loaded) => some loaded
  | _ => none

/-- The value that has been given; a constructed object is one. -/
def value? : Answer → Option Value
  | object (.ok reference) => some (.object reference)
  | value (.ok given) => some given
  | _ => none

/-- The object that has been given. -/
def reference? (answer : Answer) : Option Reference :=
  match answer.value? with
  | some (.object reference) => some reference
  | _ => none

end Answer

/-- A task that has been carried out. -/
structure Event where
  /-- The loader. -/
  loader : LoaderId
  /-- The task. -/
  task : Task
  /-- What it came to. -/
  answer : Answer
  deriving DecidableEq

end Client

/-- The state of a client. -/
structure Client where
  /-- The loaders and objects. -/
  world : World
  /-- What reading a file gives. -/
  files : String → Except FileError Bytes
  /-- The tasks in the order in which they were carried out. -/
  events : List Client.Event
  /-- The lines in the sink of each loader. -/
  sinks : LoaderId → List String

namespace Client

/-- The state of a client at its start. -/
def start : Client :=
  ⟨World.empty, fun path => .error (.notFound path), [], fun _ => []⟩

/-- The tasks of a loader. -/
def eventsOf (client : Client) (loader : LoaderId) : List Event :=
  client.events.filter (·.loader = loader)

/-- What the task of a number of a loader came to. -/
def answer? (client : Client) (loader : LoaderId) (number : Nat) : Option Answer :=
  (client.eventsOf loader)[number]?.map Event.answer

/-- The type that a task has loaded. -/
def type? (client : Client) (loader : LoaderId) (number : Nat) : Option LoadedType :=
  (client.answer? loader number).bind Answer.type?

/-- The object that a task has given. -/
def reference? (client : Client) (loader : LoaderId) (number : Nat) : Option Reference :=
  (client.answer? loader number).bind Answer.reference?

/-- The value of an argument. -/
def argument? (client : Client) : Argument → Option Value
  | .plain value _ => some value
  | .given loader number => (client.answer? loader number).bind Answer.value?

/-- What a task comes to, and the world after it. -/
def attempt (client : Client) (loader : LoaderId) : Task → Answer × World
  | .load name => (client.world.load client.files loader name).map .type id
  | .construct number arguments =>
      match client.type? loader number, arguments.mapM client.argument? with
      | some type, some values => (client.world.construct type values).map .object id
      | _, _ => (.missing, client.world)
  | .invoke number method arguments =>
      match client.reference? loader number, arguments.mapM client.argument? with
      | some reference, some values =>
          (client.world.invoke reference method values).map .value id
      | _, _ => (.missing, client.world)
  | .readField number name =>
      match client.reference? loader number with
      | some reference => (.value (client.world.fieldValue reference name), client.world)
      | none => (.missing, client.world)
  | .close => (.closed, client.world.closeLoader loader)

/-- The loader whose sink takes the lines of a task: that of the type whose code is run. -/
def printer (client : Client) (loader : LoaderId) : Task → LoaderId
  | .construct number _ => ((client.type? loader number).map LoadedType.loader).getD loader
  | .invoke number _ _ => ((client.reference? loader number).map Reference.loader).getD loader
  | _ => loader

/-- The client after a task has come to an answer and a world. -/
def after (client : Client) (loader : LoaderId) (task : Task) : Answer × World → Client
  | (answer, world) =>
      let printer := client.printer loader task
      { client with
        world
        events := client.events ++ [⟨loader, task, answer⟩]
        sinks := fun id =>
          if id = printer then
            client.sinks id ++ world.output.drop client.world.output.length
          else client.sinks id }

/-- The client after a step. -/
def perform (client : Client) : Command → Client
  | .openLoader directory ending =>
      { client with world := (client.world.openLoader directory ending).2 }
  | .changeFiles read => { client with files := read }
  | .perform loader task => client.after loader task (client.attempt loader task)

/-- The client after steps. -/
def runFrom (client : Client) (commands : List Command) : Client :=
  commands.foldl perform client

/-- The client after its first steps. -/
def run (commands : List Command) : Client :=
  start.runFrom commands

theorem run_append (first later : List Command) :
    run (first ++ later) = (run first).runFrom later :=
  List.foldl_append

/-- What every step keeps holds after all steps. -/
theorem runFrom_induction
    {Holds : Client → Prop}
    (keeps : ∀ client command, Holds client → Holds (client.perform command))
    {client : Client}
    (holds : Holds client)
    (commands : List Command) :
    Holds (client.runFrom commands) := by
  apply List.foldlRecOn commands perform holds
  intro between held command _
  exact keeps between command held

/-! ## Answers stay -/

theorem mem_eventsOf {client : Client} {loader : LoaderId} {event : Event} :
    event ∈ client.eventsOf loader ↔ event ∈ client.events ∧ event.loader = loader := by
  simp [eventsOf]

/-- An answer is the answer of a task of the loader. -/
theorem exists_event_of_answer?
    {client : Client}
    {loader : LoaderId}
    {number : Nat}
    {answer : Answer}
    (answered : client.answer? loader number = some answer) :
    ∃ event ∈ client.events, event.loader = loader ∧ event.answer = answer := by
  obtain ⟨event, there, rfl⟩ := Option.map_eq_some_iff.mp answered
  obtain ⟨present, same⟩ := mem_eventsOf.mp (List.mem_of_getElem? there)
  exact ⟨event, present, same, rfl⟩

/-- The values of arguments are the values of some of them. -/
theorem exists_argument_of_mapM
    {client : Client}
    {arguments : List Argument}
    {values : List Value}
    (evaluated : arguments.mapM client.argument? = some values)
    {value : Value}
    (present : value ∈ values) :
    ∃ argument ∈ arguments, client.argument? argument = some value := by
  induction arguments generalizing values with
  | nil =>
      obtain rfl := Option.some.inj evaluated
      nomatch present
  | cons argument rest inductionHypothesis =>
      rw [List.mapM_cons] at evaluated
      obtain ⟨first, known, evaluated⟩ := Option.bind_eq_some_iff.mp evaluated
      obtain ⟨later, knownLater, same⟩ := Option.bind_eq_some_iff.mp evaluated
      obtain rfl := Option.some.inj same
      rcases List.mem_cons.mp present with rfl | behind
      · exact ⟨argument, List.mem_cons_self, known⟩
      · obtain ⟨other, among, gives⟩ := inductionHypothesis knownLater behind
        exact ⟨other, List.mem_cons_of_mem argument among, gives⟩

/-- Steps add to the tasks that have been carried out. -/
theorem events_perform (client : Client) (command : Command) :
    client.events <+: (client.perform command).events := by
  cases command with
  | perform loader task => exact List.prefix_append _ _
  | _ => exact List.prefix_rfl

/-- A task keeps its number and its answer when further tasks are carried out. -/
theorem answer?_of_prefix
    {client later : Client}
    (grown : client.events <+: later.events)
    {loader : LoaderId}
    {number : Nat}
    {answer : Answer}
    (answered : client.answer? loader number = some answer) :
    later.answer? loader number = some answer := by
  obtain ⟨event, there, rfl⟩ := Option.map_eq_some_iff.mp answered
  have still : (later.eventsOf loader)[number]? = some event := by
    obtain ⟨inside, _⟩ := List.getElem?_eq_some_iff.mp there
    obtain ⟨more, parts⟩ := grown.filter (·.loader = loader)
    rw [eventsOf, ← parts]
    exact (List.getElem?_append_left inside).trans there
  rw [answer?, still]
  rfl

end Client
end LateBinding
