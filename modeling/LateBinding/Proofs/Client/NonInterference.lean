import LateBinding.Proofs.Calling.Mirroring
import LateBinding.Proofs.Client.Isolation
import Mathlib.Data.List.Induction

/-!
# Loaders do not interfere

Two runs are compared: a run of a client, and the run without the tasks of one loader, the hidden one.
If no other loader is given a value of the hidden one, nothing that the other loaders come to tells the
runs apart: results, errors, printed lines and values of fields are the same.  Only the numbers of
objects and the identities of types differ, and those that differ in one run differ in the other.
-/

namespace LateBinding
namespace Client

/-! ## Answers under other numbers -/

def Answer.renamed (names : Renaming) : Answer → Answer
  | type result => type (result.map (LoadedType.renamed names))
  | object result => object (result.map (Reference.renamed names))
  | value result => value (result.map (Value.renamed names))
  | closed => closed
  | missing => missing

def Event.renamed (names : Renaming) (event : Event) : Event :=
  { event with answer := event.answer.renamed names }

section Answers

variable (names : Renaming) (answer : Answer)

theorem Answer.type?_renamed :
    (answer.renamed names).type? = answer.type?.map (LoadedType.renamed names) := by
  cases answer with
  | type result => cases result <;> rfl
  | _ => rfl

theorem Answer.value?_renamed :
    (answer.renamed names).value? = answer.value?.map (Value.renamed names) := by
  cases answer with
  | object result => cases result <;> rfl
  | value result => cases result <;> rfl
  | _ => rfl

theorem Answer.reference?_renamed :
    (answer.renamed names).reference? = answer.reference?.map (Reference.renamed names) := by
  rw [reference?, reference?, value?_renamed]
  cases answer.value? with
  | none => rfl
  | some value => cases value <;> rfl

end Answers

/-! ## What is deleted -/

/-- Whether a step is a task of a loader. -/
def Command.isOf (loader : LoaderId) : Command → Bool
  | perform acting _ => acting = loader
  | _ => false

/-- Whether an argument is a value that a loader has given. -/
def Argument.isFrom (loader : LoaderId) : Argument → Bool
  | given giving _ => giving = loader
  | plain _ _ => false

/-- The arguments of a step. -/
def Command.arguments : Command → List Argument
  | perform _ (.construct _ arguments) => arguments
  | perform _ (.invoke _ _ arguments) => arguments
  | _ => []

/-- The steps that are no tasks of a loader. -/
def without (loader : LoaderId) (commands : List Command) : List Command :=
  commands.filter fun command => !command.isOf loader

/-- The identities of the types of all loaders but one. -/
def visibleTypes (client : Client) (hidden : LoaderId) : Set Nat :=
  {identity | ∃ type ∈ client.types, type.loader ≠ hidden ∧ type.identity = identity}

/-- A client mirrors the full one when it has all of it but what belongs to a hidden loader. -/
structure Mirrors (hidden : LoaderId) (names : Renaming) (full rest : Client) : Prop where
  /-- The worlds mirror each other. -/
  world : full.world.Mirrors hidden names rest.world
  /-- The files are the same. -/
  files : rest.files = full.files
  /-- The tasks of the other loaders have come to the same. -/
  events : ∀ loader ≠ hidden,
    rest.eventsOf loader = (full.eventsOf loader).map (Event.renamed names)
  /-- The other loaders have printed the same lines. -/
  sinks : ∀ loader ≠ hidden, rest.sinks loader = full.sinks loader

variable {hidden loader : LoaderId} {names : Renaming} {full rest : Client}

theorem mirrors_start (hidden : LoaderId) : start.Mirrors hidden .same start where
  world := {
    count := rfl
    loaders := by simp [start, World.empty, World.loader?]
    objects := by simp [start, World.empty]
    distinct := fun _ _ _ _ same => same }
  files := rfl
  events _ _ := rfl
  sinks _ _ := rfl

/-! ## Numbers that are still free -/

/-- Two renamings agree on all numbers that have been given. -/
def AgreeBelow (client : Client) (names other : Renaming) : Prop :=
  (∀ number < client.world.objects.length, names.objects number = other.objects number) ∧
    ∀ identity < client.world.typeCount, names.types identity = other.types identity

section Agreement

variable {other : Renaming} (agree : full.AgreeBelow names other)

include agree

theorem AgreeBelow.value_eq
    {value : Value}
    (owned : value.Refers (full.world.Owns loader)) :
    value.renamed names = value.renamed other := by
  apply Value.renamed_congr
  apply owned.mono
  rintro reference ⟨object, found, _⟩
  exact agree.1 _ (List.getElem?_eq_some_iff.mp found).1

variable (consistent : full.IsConsistent)

include consistent

theorem AgreeBelow.type_eq
    {type : LoadedType}
    (known : type ∈ full.types) :
    type.renamed names = type.renamed other := by
  have same := agree.2 type.identity (consistent.knows.counted type known)
  rw [LoadedType.renamed, LoadedType.renamed, same]

theorem AgreeBelow.answer_eq
    {event : Event}
    (present : event ∈ full.events) :
    event.answer.renamed names = event.answer.renamed other := by
  have ofType : ∀ type, event.answer.type? = some type →
      type.renamed names = type.renamed other :=
    fun type loads => agree.type_eq consistent ⟨event, present, loads⟩
  have ofValue : ∀ value, event.answer.value? = some value →
      value.renamed names = value.renamed other :=
    fun value gives => agree.value_eq (consistent.given event present value gives)
  cases answered : event.answer with
  | type result =>
      cases result with
      | error error => rfl
      | ok type =>
          rw [answered] at ofType
          exact congrArg (fun type => Answer.type (.ok type)) (ofType type rfl)
  | object result =>
      cases result with
      | error error => rfl
      | ok reference =>
          rw [answered] at ofValue
          have same := Value.object.inj (ofValue (.object reference) rfl)
          exact congrArg (fun reference => Answer.object (.ok reference)) same
  | value result =>
      cases result with
      | error error => rfl
      | ok value =>
          rw [answered] at ofValue
          exact congrArg (fun value => Answer.value (.ok value)) (ofValue value rfl)
  | closed => rfl
  | missing => rfl

/-- Only the numbers that have been given matter. -/
theorem Mirrors.congr (mirrors : full.Mirrors hidden names rest) :
    full.Mirrors hidden other rest := by
  refine ⟨⟨mirrors.world.count, ?_, ?_, ?_⟩, mirrors.files, ?_, mirrors.sinks⟩
  · intro loader visible
    rw [mirrors.world.loaders loader visible]
    cases there : full.world.loader? loader with
    | none => rfl
    | some found =>
        have sameCache : found.cache.map (Prod.map id (LoadedType.renamed names)) =
            found.cache.map (Prod.map id (LoadedType.renamed other)) := by
          apply List.map_congr_left
          intro entry held
          have known := (consistent.knows.held loader found there entry held).1
          exact Prod.ext rfl (agree.type_eq consistent known)
        simp only [Option.map_some, Loader.renamed, sameCache]
  · intro number object there visible
    have inside := (List.getElem?_eq_some_iff.mp there).1
    obtain ⟨known, owned⟩ := consistent.objects object (List.mem_of_getElem? there)
    have sameFields : object.fields.map (Value.renamed names) =
        object.fields.map (Value.renamed other) := by
      apply List.map_congr_left
      intro value among
      exact agree.value_eq (owned value among)
    rw [← agree.1 number inside, mirrors.world.objects number object there visible, Object.renamed,
      Object.renamed, sameFields, agree.type_eq consistent known]
  · apply mirrors.world.distinct.congr
    rintro number ⟨object, there, _⟩
    exact agree.1 number (List.getElem?_eq_some_iff.mp there).1
  · intro loader visible
    rw [mirrors.events loader visible]
    apply List.map_congr_left
    intro event present
    rw [Event.renamed, Event.renamed,
      agree.answer_eq consistent (mem_eventsOf.mp present).1]

end Agreement

/-- The next object and the next type have the next numbers in the mirror. -/
structure NextMirrors (names : Renaming) (full rest : Client) : Prop where
  object : names.objects full.world.objects.length = rest.world.objects.length
  type : names.types full.world.typeCount = rest.world.typeCount

/-- The numbers that are still free can be chosen. -/
theorem Mirrors.exists_next
    (mirrors : full.Mirrors hidden names rest)
    (consistent : full.IsConsistent) :
    ∃ other, full.Mirrors hidden other rest ∧ NextMirrors other full rest := by
  refine ⟨⟨Function.update names.objects full.world.objects.length rest.world.objects.length,
    Function.update names.types full.world.typeCount rest.world.typeCount⟩, ?_, ?_⟩
  · apply mirrors.congr _ consistent
    constructor
    · intro number inside
      exact (Function.update_of_ne inside.ne _ _).symm
    · intro identity below
      exact (Function.update_of_ne below.ne _ _).symm
  · exact ⟨Function.update_self _ _ _, Function.update_self _ _ _⟩

/-! ## Tasks of the hidden loader -/

/-- A task prints into the sink of its own loader. -/
theorem IsConsistent.printer_eq
    (consistent : full.IsConsistent)
    (loader : LoaderId)
    (task : Task) :
    full.printer loader task = loader := by
  cases task with
  | construct number arguments =>
      rw [printer]
      cases named : full.type? loader number with
      | none => rfl
      | some type => exact (consistent.type?_eq_some named).2
  | invoke number method arguments =>
      rw [printer]
      cases named : full.reference? loader number with
      | none => rfl
      | some reference =>
          obtain ⟨_, _, _, fromLoader, _⟩ := consistent.reference?_eq_some named
          exact fromLoader
  | _ => rfl

/-- A task changes nothing but its loader and the objects of its loader. -/
theorem IsConsistent.agreesBut_attempt
    (consistent : full.IsConsistent)
    (loader : LoaderId)
    (task : Task) :
    full.world.AgreesBut loader (full.attempt loader task).2 := by
  cases task with
  | load name => exact .load full.world full.files loader name
  | construct number arguments =>
      rw [attempt]
      split
      · next type values named _ =>
        exact .construct full.world (consistent.type?_eq_some named).2 values
      · exact .refl loader full.world
  | invoke number method arguments =>
      rw [attempt]
      split
      · next reference values named _ =>
        obtain ⟨object, found, fromLoader, _⟩ := consistent.reference?_eq_some named
        exact .invoke found fromLoader method values
      · exact .refl loader full.world
  | readField number name =>
      rw [attempt]
      split
      · exact .refl loader full.world
      · exact .refl loader full.world
  | close => exact .closeLoader full.world loader

theorem eventsOf_perform
    (client : Client)
    (acting : LoaderId)
    (task : Task)
    (loader : LoaderId) :
    (client.perform (.perform acting task)).eventsOf loader =
      client.eventsOf loader ++
        if acting = loader then [⟨acting, task, (client.attempt acting task).1⟩] else [] := by
  rw [eventsOf, perform, after, List.filter_append]
  congr 1
  split
  · next same => simp [same]
  · next different => simp [different]

theorem IsConsistent.sinks_perform
    (consistent : full.IsConsistent)
    (acting : LoaderId)
    (task : Task)
    (loader : LoaderId) :
    (full.perform (.perform acting task)).sinks loader =
      if loader = acting then
        full.sinks loader ++ (full.attempt acting task).2.output.drop full.world.output.length
      else full.sinks loader := by
  rw [Client.perform, Client.after]
  simp only [consistent.printer_eq acting task]

/-- What the hidden loader does is not seen in the mirror. -/
theorem Mirrors.perform_hidden
    (mirrors : full.Mirrors hidden names rest)
    (consistent : full.IsConsistent)
    (task : Task) :
    (full.perform (.perform hidden task)).Mirrors hidden names rest := by
  refine ⟨mirrors.world.of_agreesBut (consistent.agreesBut_attempt hidden task), mirrors.files, ?_,
    ?_⟩
  · intro loader visible
    rw [eventsOf_perform, if_neg visible.symm, List.append_nil]
    exact mirrors.events loader visible
  · intro loader visible
    rw [consistent.sinks_perform, if_neg visible]
    exact mirrors.sinks loader visible

/-! ## Tasks of other loaders -/

section Visible

variable (mirrors : full.Mirrors hidden names rest)

include mirrors

theorem Mirrors.answer?_eq
    (visible : loader ≠ hidden)
    (number : Nat) :
    rest.answer? loader number = (full.answer? loader number).map (Answer.renamed names) := by
  rw [answer?, answer?, mirrors.events loader visible, List.getElem?_map, Option.map_map,
    Option.map_map]
  rfl

theorem Mirrors.type?_eq
    (visible : loader ≠ hidden)
    (number : Nat) :
    rest.type? loader number = (full.type? loader number).map (LoadedType.renamed names) := by
  rw [type?, type?, mirrors.answer?_eq visible]
  cases full.answer? loader number with
  | none => rfl
  | some answer => exact answer.type?_renamed names

theorem Mirrors.reference?_eq
    (visible : loader ≠ hidden)
    (number : Nat) :
    rest.reference? loader number =
      (full.reference? loader number).map (Reference.renamed names) := by
  rw [reference?, reference?, mirrors.answer?_eq visible]
  cases full.answer? loader number with
  | none => rfl
  | some answer => exact answer.reference?_renamed names

theorem Mirrors.argument?_eq
    {argument : Argument}
    (apart : argument.isFrom hidden = false) :
    rest.argument? argument = (full.argument? argument).map (Value.renamed names) := by
  cases argument with
  | plain value isPlain => exact congrArg some isPlain.renamed_eq.symm
  | given giving number =>
      have visible : giving ≠ hidden := of_decide_eq_false apart
      rw [argument?, argument?, mirrors.answer?_eq visible]
      cases full.answer? giving number with
      | none => rfl
      | some answer => exact answer.value?_renamed names

theorem Mirrors.mapM_argument?_eq
    {arguments : List Argument}
    (apart : ∀ argument ∈ arguments, argument.isFrom hidden = false) :
    arguments.mapM rest.argument? =
      (arguments.mapM full.argument?).map (List.map (Value.renamed names)) := by
  induction arguments with
  | nil => rfl
  | cons argument later inductionHypothesis =>
      obtain ⟨apartFirst, apartLater⟩ := List.forall_mem_cons.mp apart
      rw [List.mapM_cons, List.mapM_cons, mirrors.argument?_eq apartFirst,
        inductionHypothesis apartLater]
      cases full.argument? argument with
      | none => rfl
      | some value =>
          cases later.mapM full.argument? with
          | none => rfl
          | some values => rfl

end Visible

/-- An answer tells what an operation has come to. -/
theorem outcomesMirror_map
    {Result : Type}
    {rename : Result → Result}
    {outcome other : Result × World}
    (mirrors : World.OutcomesMirror hidden names rename full.world rest.world outcome other)
    {answer : Result → Answer}
    (commutes : ∀ result, answer (rename result) = (answer result).renamed names) :
    World.OutcomesMirror hidden names (Answer.renamed names) full.world rest.world
      (outcome.map answer id) (other.map answer id) where
  result := (congrArg answer mirrors.result).trans (commutes outcome.1)
  world := mirrors.world
  printed := mirrors.printed

/-- A task of another loader comes to the same in the mirror. -/
theorem Mirrors.attempt
    (mirrors : full.Mirrors hidden names rest)
    (consistent : full.IsConsistent)
    (next : NextMirrors names full rest)
    (visible : loader ≠ hidden)
    {task : Task}
    (apart : ∀ argument ∈ (Command.perform loader task).arguments,
      argument.isFrom hidden = false) :
    World.OutcomesMirror hidden names (Answer.renamed names) full.world rest.world
      (full.attempt loader task) (rest.attempt loader task) := by
  cases task with
  | load name =>
      rw [Client.attempt, Client.attempt, mirrors.files]
      exact outcomesMirror_map (mirrors.world.load next.type full.files visible name) fun _ => rfl
  | construct number arguments =>
      change ∀ argument ∈ arguments, _ at apart
      rw [Client.attempt, Client.attempt, mirrors.type?_eq visible, mirrors.mapM_argument?_eq apart]
      cases named : full.type? loader number with
      | none => exact mirrors.world.unchanged Answer.missing
      | some type =>
          cases arguments.mapM full.argument? with
          | none => exact mirrors.world.unchanged Answer.missing
          | some values =>
              obtain ⟨_, rfl⟩ := consistent.type?_eq_some named
              exact outcomesMirror_map (mirrors.world.construct next.object visible values)
                fun _ => rfl
  | invoke number method arguments =>
      change ∀ argument ∈ arguments, _ at apart
      rw [Client.attempt, Client.attempt, mirrors.reference?_eq visible,
        mirrors.mapM_argument?_eq apart]
      cases named : full.reference? loader number with
      | none => exact mirrors.world.unchanged Answer.missing
      | some reference =>
          cases arguments.mapM full.argument? with
          | none => exact mirrors.world.unchanged Answer.missing
          | some values =>
              obtain ⟨object, found, rfl, _⟩ := consistent.reference?_eq_some named
              exact outcomesMirror_map (mirrors.world.invoke found visible method values)
                fun _ => rfl
  | readField number name =>
      rw [Client.attempt, Client.attempt, mirrors.reference?_eq visible]
      cases named : full.reference? loader number with
      | none => exact mirrors.world.unchanged Answer.missing
      | some reference =>
          obtain ⟨object, found, rfl, _⟩ := consistent.reference?_eq_some named
          dsimp only [Option.map_some]
          rw [mirrors.world.fieldValue found visible name]
          exact mirrors.world.unchanged (Answer.value _)
  | close =>
      refine ⟨rfl, mirrors.world.closeLoader visible, [], ?_, ?_⟩
      · rw [List.append_nil]
        exact full.world.output_closeLoader loader
      · rw [List.append_nil]
        exact rest.world.output_closeLoader loader

theorem Mirrors.perform_visible
    (mirrors : full.Mirrors hidden names rest)
    (consistent : full.IsConsistent)
    (consistentRest : rest.IsConsistent)
    (next : NextMirrors names full rest)
    (acting : loader ≠ hidden)
    {task : Task}
    (apart : ∀ argument ∈ (Command.perform loader task).arguments,
      argument.isFrom hidden = false) :
    (full.perform (.perform loader task)).Mirrors hidden names
      (rest.perform (.perform loader task)) := by
  obtain ⟨result, world, lines, printed, printedRest⟩ :=
    mirrors.attempt consistent next acting apart
  refine ⟨world, mirrors.files, ?_, ?_⟩
  · intro id visible
    rw [eventsOf_perform, eventsOf_perform, List.map_append, ← mirrors.events id visible, result]
    congr 1
    split
    · rfl
    · rfl
  · intro id visible
    rw [consistent.sinks_perform, consistentRest.sinks_perform, mirrors.sinks id visible, printed,
      printedRest, List.drop_left, List.drop_left]

/-! ## Runs -/

/-- A run is mirrored by the run without a loader's tasks if no other loader is given its values. -/
theorem exists_mirrors_run
    (hidden : LoaderId)
    {commands : List Command}
    (apart : ∀ command ∈ without hidden commands, ∀ argument ∈ command.arguments,
      argument.isFrom hidden = false) :
    ∃ names, (run commands).Mirrors hidden names (run (without hidden commands)) := by
  induction commands using List.reverseRecOn with
  | nil => exact ⟨.same, mirrors_start hidden⟩
  | append_singleton before command inductionHypothesis =>
      have parts : without hidden (before ++ [command]) =
          without hidden before ++ without hidden [command] := List.filter_append ..
      rw [parts] at apart ⊢
      obtain ⟨apartBefore, apartLast⟩ := List.forall_mem_append.mp apart
      obtain ⟨names, mirrors⟩ := inductionHypothesis apartBefore
      have consistent := run_isConsistent before
      rw [run_append, run_append]
      cases command with
      | openLoader directory ending =>
          exact ⟨names, mirrors.world.openLoader directory ending, mirrors.files, mirrors.events,
            mirrors.sinks⟩
      | changeFiles read => exact ⟨names, mirrors.world, rfl, mirrors.events, mirrors.sinks⟩
      | perform loader task =>
          by_cases isHidden : loader = hidden
          · subst isHidden
            have deleted : without loader [.perform loader task] = [] := by
              simp [without, Command.isOf]
            rw [deleted]
            exact ⟨names, mirrors.perform_hidden consistent task⟩
          · have kept : without hidden [.perform loader task] = [.perform loader task] := by
              simp [without, Command.isOf, isHidden]
            rw [kept] at apartLast ⊢
            -- The task may give a new number, which is chosen for the mirror beforehand.
            obtain ⟨other, mirrorsOther, next⟩ := mirrors.exists_next consistent
            exact ⟨other, mirrorsOther.perform_visible consistent (run_isConsistent _) next
              isHidden (apartLast _ List.mem_cons_self)⟩

/-- Types of other loaders that differ in a run differ in its mirror. -/
theorem Mirrors.injOn_types
    (mirrors : full.Mirrors hidden names rest)
    (consistent : full.IsConsistent)
    (consistentRest : rest.IsConsistent) :
    Set.InjOn names.types (full.visibleTypes hidden) := by
  have known : ∀ type ∈ full.types, type.loader ≠ hidden → type.renamed names ∈ rest.types := by
    rintro type ⟨event, present, loads⟩ visible
    obtain ⟨fromLoader, _⟩ := consistent.loaded event present type loads
    have among : event ∈ full.eventsOf type.loader := mem_eventsOf.mpr ⟨present, fromLoader.symm⟩
    have mirrored : event.renamed names ∈ rest.eventsOf type.loader := by
      rw [mirrors.events type.loader visible]
      exact List.mem_map_of_mem among
    refine ⟨_, (mem_eventsOf.mp mirrored).1, ?_⟩
    rw [Event.renamed, Answer.type?_renamed, loads]
    rfl
  rintro _ ⟨type, present, visible, rfl⟩ _ ⟨other, presentOther, visibleOther, rfl⟩ same
  have equal := consistentRest.knows.identified _ (known type present visible) _
    (known other presentOther visibleOther) same
  have sameLoader : (type.renamed names).loader = (other.renamed names).loader := by rw [equal]
  have sameName : (type.renamed names).name = (other.renamed names).name := by rw [equal]
  rw [consistent.knows.unique type present other presentOther sameLoader sameName]

/--
Deleting all tasks of a loader changes nothing that is observed through the other loaders if these are
given no value of it: their tasks come to the same and print the same lines.  Objects and types have
other numbers, but those that differ still differ.
-/
theorem run_without_loader
    (hidden : LoaderId)
    (commands : List Command)
    (apart : ∀ command ∈ without hidden commands, ∀ argument ∈ command.arguments,
      argument.isFrom hidden = false) :
    ∃ names : Renaming,
      Set.InjOn names.objects ((run commands).world.visible hidden) ∧
      Set.InjOn names.types ((run commands).visibleTypes hidden) ∧
      ∀ loader ≠ hidden,
        (run (without hidden commands)).eventsOf loader =
          ((run commands).eventsOf loader).map (Event.renamed names) ∧
        (run (without hidden commands)).sinks loader = (run commands).sinks loader := by
  obtain ⟨names, mirrors⟩ := exists_mirrors_run hidden apart
  refine ⟨names, mirrors.world.distinct,
    mirrors.injOn_types (run_isConsistent commands) (run_isConsistent _), ?_⟩
  intro loader visible
  exact ⟨mirrors.events loader visible, mirrors.sinks loader visible⟩

/-- A client whose second loader calls a method after much has been done with the first one. -/
def mixedCommands : List Command :=
  linkingCommands ++ [.perform ⟨2⟩ (.invoke 1 "link" [.given ⟨2⟩ 1])]

theorem run_mixedCommands_without_loader :
    (∀ command ∈ without ⟨1⟩ mixedCommands, ∀ argument ∈ command.arguments,
      argument.isFrom ⟨1⟩ = false) ∧
    (run (without ⟨1⟩ mixedCommands)).reference? ⟨2⟩ 2 = some ⟨0, "A", ⟨2⟩⟩ ∧
    (run mixedCommands).reference? ⟨2⟩ 2 = some ⟨2, "A", ⟨2⟩⟩ ∧
    (∃ names : Renaming,
      (run (without ⟨1⟩ mixedCommands)).eventsOf ⟨2⟩ =
        ((run mixedCommands).eventsOf ⟨2⟩).map (Event.renamed names)) ∧
    (run (without ⟨1⟩ mixedCommands)).sinks ⟨2⟩ = ["println"] := by
  have apart : ∀ command ∈ without ⟨1⟩ mixedCommands, ∀ argument ∈ command.arguments,
      argument.isFrom ⟨1⟩ = false := by
    decide
  obtain ⟨names, _, _, same⟩ := run_without_loader ⟨1⟩ mixedCommands apart
  obtain ⟨events, sinks⟩ := same ⟨2⟩ (by decide)
  refine ⟨apart, by decide +kernel, by decide +kernel, ⟨names, events⟩, ?_⟩
  rw [sinks]
  decide +kernel

end Client
end LateBinding
