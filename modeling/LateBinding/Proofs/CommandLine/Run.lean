import LateBinding.CommandLine.Execution
import LateBinding.Proofs.Calling.Dispatch
import LateBinding.Proofs.Storage.Paths
import LateBinding.Proofs.Value.Argument

/-!
# Calls from the command line

Which arguments of the command line call a method with given values.  The arguments of the constructor are
the values of an option, and the words behind two dashes are the name, the method and its arguments, however
they start.  None of them holds a zero character, which the system would take for the end of an argument, if
neither the names nor the values do; the name of a type never does.
-/

namespace LateBinding

/-- The arguments that run a method of the type of a name, whose module is in a directory. -/
def runArguments (directory name method : String) (constructorTexts texts : List String) : List String :=
  ("--dir=" ++ directory) :: "run" ::
    (constructorTexts.flatMap (fun text => ["--ctor-arg", text]) ++ "--" :: name :: method :: texts)

theorem isProcessArgument_of_mem_runArguments
    {directory name method : String}
    (places : IsProcessArgument directory)
    (named : IsProcessArgument name)
    (called : IsProcessArgument method)
    {constructorTexts texts : List String}
    (constructed : ∀ text ∈ constructorTexts, IsProcessArgument text)
    (given : ∀ text ∈ texts, IsProcessArgument text) :
    ∀ argument ∈ runArguments directory name method constructorTexts texts,
      IsProcessArgument argument := by
  simp only [runArguments, List.forall_mem_cons, List.forall_mem_append, List.forall_mem_flatMap,
    isProcessArgument_append]
  exact ⟨⟨by decide, places⟩, by decide,
    fun text present => ⟨by decide, constructed text present, List.forall_mem_nil _⟩,
    by decide, named, called, given⟩

/-- The name of a type holds no zero character. -/
theorem isProcessArgument_of_isQualifiedName
    {name : String}
    (qualified : isQualifiedName name = true) :
    IsProcessArgument name := by
  have foreign : continuesName '\x00' = false := by decide +kernel
  rw [IsProcessArgument, ← Text.joinWith_splitOn '.' name.toList]
  exact notMem_joinWith (by decide) fun segment present =>
    notMem_of_isIdentifier (isIdentifier_of_mem_nameSegments qualified segment present) foreign

/-- What is printed when a method is called with values on an object that is constructed with values. -/
def callCommand
    {Files : Type → Type}
    [Monad Files]
    (files : FileOperations Files)
    (settings : Settings)
    (format : ErrorFormat)
    (name method : String)
    (values constructorValues : List Value) :
    Files CommandResult := do
  let (result, world) ← World.empty.run files settings name constructorValues method values
  match result with
  | .error error => return .failure format world.output error
  | .ok value => return .success (world.output ++ value.resultLine?.toList)

theorem runCommand_eq_callCommand
    {Files : Type → Type}
    [Monad Files]
    (files : FileOperations Files)
    (settings : Settings)
    (format : ErrorFormat)
    (name method : String)
    (texts constructorTexts : List String) :
    runCommand files settings format name method texts constructorTexts =
      callCommand files settings format name method (texts.map Value.ofArgument)
        (constructorTexts.map Value.ofArgument) := rfl

/-! ## The arguments are understood -/

theorem form_directory (directory : String) :
    ArgumentForm.of none ("--dir=" ++ directory) =
      .items [.option .moduleDirectory directory] := by
  have spelled : ("--dir=" ++ directory).toList =
      '-' :: '-' :: ("dir".toList ++ '=' :: directory.toList) := by
    simp
  have named : OptionName.ofText? none (String.ofList ['d', 'i', 'r']) = some .moduleDirectory := by
    rfl
  rw [ArgumentForm.of, spelled]
  simp [ArgumentForm.ofLong, named, OptionName.takesValue]

theorem scanArguments_directory (directory : String) (rest : List String) :
    scanArguments none (("--dir=" ++ directory) :: "run" :: rest) =
      ([.option .moduleDirectory directory], "run" :: rest) := by
  have word : ArgumentForm.of none "run" = .items [.word "run"] := by rfl
  simp [scanArguments, form_directory, word]

theorem scanArguments_constructorTexts (constructorTexts words : List String) :
    scanArguments (some .run)
        (constructorTexts.flatMap (fun text => ["--ctor-arg", text]) ++ "--" :: words) =
      (constructorTexts.map (.option .constructorArgument) ++ words.map .word, []) := by
  have awaited : ArgumentForm.of (some .run) "--ctor-arg" = .awaiting .constructorArgument := by rfl
  have separated : ArgumentForm.of (some .run) "--" = .separator := by rfl
  induction constructorTexts with
  | nil => simp [scanArguments, separated]
  | cons text rest inductionHypothesis =>
      have taken : OptionName.constructorArgument.takesArgument text = true := by rfl
      simp [scanArguments, awaited, taken, inductionHypothesis]

theorem addItems_words (given : GivenArguments) (words : List String) :
    GivenArguments.addItems (some .run) given (words.map .word) =
      .ok { given with words := given.words ++ words } := by
  induction words generalizing given with
  | nil => simp [GivenArguments.addItems]
  | cons word rest inductionHypothesis =>
      have taken : given.takesWord (some .run) = true := by rfl
      simp [GivenArguments.addItems, taken, inductionHypothesis]

theorem addItems_constructorTexts
    (given : GivenArguments)
    (constructorTexts : List String)
    (later : List ArgumentItem) :
    GivenArguments.addItems (some .run) given
        (constructorTexts.map (.option .constructorArgument) ++ later) =
      GivenArguments.addItems (some .run)
        { given with
          options := given.options ++ constructorTexts.map (OptionName.constructorArgument, ·) } later := by
  induction constructorTexts generalizing given with
  | nil => simp
  | cons text rest inductionHypothesis =>
      have taken : given.takesOption .constructorArgument text = true := by rfl
      simp [GivenArguments.addItems, taken, inductionHypothesis]

/-- Options that are all arguments of the constructor have their texts for values, and no others. -/
theorem values_constructorTexts (constructorTexts words : List String) (name : OptionName) :
    (GivenArguments.mk (constructorTexts.map (OptionName.constructorArgument, ·)) words).values name =
      if name = .constructorArgument then constructorTexts else [] := by
  split
  · next constructorArgument =>
    simp [GivenArguments.values, List.filter_map, Function.comp_def, constructorArgument]
  · next other =>
    simp [GivenArguments.values, List.filter_map, Function.comp_def, Ne.symm other]

theorem ofArguments_runArguments
    {directory : String}
    (named : directory ≠ "")
    (name method : String)
    (constructorTexts texts : List String) :
    Invocation.ofArguments (runArguments directory name method constructorTexts texts) =
      .ok ⟨none, ⟨some directory, 0, false, none, none⟩, .human,
        .run name method texts constructorTexts⟩ := by
  have outer : GivenArguments.nothing.addItems none [.option .moduleDirectory directory] =
      .ok ⟨[(.moduleDirectory, directory)], []⟩ := by
    have taken : GivenArguments.nothing.takesOption .moduleDirectory directory = true := by
      rw [GivenArguments.takesOption, Bool.and_eq_true]
      exact ⟨decide_eq_true named, rfl⟩
    simp only [GivenArguments.addItems, taken, if_true]
    rfl
  have inner : GivenArguments.nothing.addItems (some .run)
      (constructorTexts.map (.option .constructorArgument) ++ (name :: method :: texts).map .word) =
      .ok ⟨constructorTexts.map (OptionName.constructorArgument, ·), name :: method :: texts⟩ := by
    rw [addItems_constructorTexts, addItems_words]
    rfl
  have run : Subcommand.ofText? "run" = some .run := rfl
  rw [Invocation.ofArguments, runArguments, scanArguments_directory]
  dsimp only
  rw [outer]
  simp only [run, scanArguments_constructorTexts]
  rw [inner]
  change Except.ok (CommonArguments.invocation _ (.run name method texts (GivenArguments.values _ _))) = _
  simp only [CommonArguments.invocation, CommonArguments.overrides, CommonArguments.errorFormat,
    CommonArguments.value?, CommonArguments.count, GivenArguments.value?, GivenArguments.has,
    GivenArguments.count, values_constructorTexts]
  rfl

/-! ## The arguments are carried out -/

variable {Files : Type → Type} [Monad Files] [LawfulMonad Files]

namespace CommandEnvironment

theorem execute_runArguments
    (environment : CommandEnvironment Files)
    {directory : String}
    (named : directory ≠ "")
    (name method : String)
    (constructorTexts texts : List String) :
    environment.execute (runArguments directory name method constructorTexts texts) =
      callCommand environment.files { Settings.standard with moduleDirectory := directory } .human
        name method (texts.map Value.ofArgument) (constructorTexts.map Value.ofArgument) := by
  rw [execute, ofArguments_runArguments named]
  have settled : environment.settings ⟨none, ⟨some directory, 0, false, none, none⟩, .human,
      .run name method texts constructorTexts⟩ =
        pure (.ok { Settings.standard with moduleDirectory := directory }) := rfl
  have unlogged : environment.prepareLog LogSettings.standard = pure (.ok ()) := rfl
  simp only [settled, pure_bind]
  change environment.prepareLog LogSettings.standard >>= _ = _
  rw [unlogged, pure_bind]
  exact runCommand_eq_callCommand environment.files _ .human name method texts constructorTexts

end CommandEnvironment

/-! ## Values that reach members -/

theorem Value.exists_map_ofArgument
    {loader : LoaderId}
    {types : List ValueType}
    {values : List Value}
    (simple : ∀ type ∈ types, type.IsSimple)
    (accepting : Accepting loader types values)
    (denoted : ∀ value ∈ values, ¬ value.IsShortLong ∧ ¬ value.HasZeroCharacter) :
    ∃ texts : List String,
      (∀ text ∈ texts, IsProcessArgument text) ∧ texts.map Value.ofArgument = values := by
  induction accepting with
  | nil => exact ⟨[], fun _ none => absurd none List.not_mem_nil, rfl⟩
  | cons accepted _ inductionHypothesis =>
      rw [List.forall_mem_cons] at simple denoted
      obtain ⟨text, given, meant⟩ :=
        (Value.exists_isProcessArgument_iff (Value.isSimple_of_isAccepted simple.1 accepted)).mpr
          denoted.1
      obtain ⟨texts, allGiven, allMeant⟩ := inductionHypothesis simple.2 denoted.2
      refine ⟨text :: texts, List.forall_mem_cons.mpr ⟨given, allGiven⟩, ?_⟩
      rw [List.map_cons, meant, allMeant]

/--
The values other than fractions and objects that an argument denotes are all but the long integers that fit
32 bits, and an argument of a process, which holds no zero character, denotes all of them but the texts that
hold one.  So the command line calls every constructor and every method whose parameters are truth values,
integers and texts with all values that they accept, if no such integer and no such text is among them.
-/
theorem execute_reaches_members :
    (∀ value : Value, value.IsSimple →
      ((∃ text, Value.ofArgument text = value) ↔ ¬ value.IsShortLong)) ∧
    (∀ value : Value, value.IsSimple →
      ((∃ text, IsProcessArgument text ∧ Value.ofArgument text = value) ↔
        ¬ value.IsShortLong ∧ ¬ value.HasZeroCharacter)) ∧
    ∀ (loader : LoaderId) (constructorTypes types : List ValueType)
      (constructorValues values : List Value) (directory name method : String),
      (∀ type ∈ constructorTypes, type.IsSimple) →
      (∀ type ∈ types, type.IsSimple) →
      Accepting loader constructorTypes constructorValues →
      Accepting loader types values →
      (∀ value ∈ constructorValues, ¬ value.IsShortLong ∧ ¬ value.HasZeroCharacter) →
      (∀ value ∈ values, ¬ value.IsShortLong ∧ ¬ value.HasZeroCharacter) →
      directory ≠ "" →
      IsProcessArgument directory →
      IsProcessArgument name →
      IsProcessArgument method →
      ∃ arguments : List String, (∀ argument ∈ arguments, IsProcessArgument argument) ∧
        ∀ (Files : Type → Type) [Monad Files] [LawfulMonad Files] (environment : CommandEnvironment Files),
          environment.execute arguments =
            callCommand environment.files { Settings.standard with moduleDirectory := directory }
              .human name method values constructorValues := by
  refine ⟨fun value simple => Value.exists_ofArgument_iff simple,
    fun value simple => Value.exists_isProcessArgument_iff simple, ?_⟩
  intro loader constructorTypes types constructorValues values directory name method
    constructorSimple simple constructed accepted constructorDenoted denoted nonempty places named called
  obtain ⟨constructorTexts, constructorGiven, constructorMeant⟩ :=
    Value.exists_map_ofArgument constructorSimple constructed constructorDenoted
  obtain ⟨texts, given, meant⟩ := Value.exists_map_ofArgument simple accepted denoted
  refine ⟨runArguments directory name method constructorTexts texts, ?_, fun Files _ _ environment => ?_⟩
  · exact isProcessArgument_of_mem_runArguments places named called constructorGiven given
  · rw [environment.execute_runArguments nonempty, meant, constructorMeant]

/-- A method of two integers and a text is called with a negative one, a long one and a text like an option. -/
theorem execute_reaches_mixedMember :
    ((∃ text, Value.ofArgument text = .string "\x00") ↔ ¬ (Value.string "\x00").IsShortLong) ∧
    ((∃ text, IsProcessArgument text ∧ Value.ofArgument text = .string "\"-- 5") ↔
      ¬ (Value.string "\"-- 5").IsShortLong ∧ ¬ (Value.string "\"-- 5").HasZeroCharacter) ∧
    ∃ arguments : List String, (∀ argument ∈ arguments, IsProcessArgument argument) ∧
      ∀ (Files : Type → Type) [Monad Files] [LawfulMonad Files] (environment : CommandEnvironment Files),
        environment.execute arguments =
          callCommand environment.files { Settings.standard with moduleDirectory := "output" } .human
            "c.App" "mix" [.int (-7), .long 3000000000, .string "\"-- 5"] [.boolean true, .null] :=
  ⟨execute_reaches_members.1 _ trivial, execute_reaches_members.2.1 _ trivial,
    execute_reaches_members.2.2 ⟨1⟩ [.boolean, .string] [.int, .long, .string] [.boolean true, .null]
      [.int (-7), .long 3000000000, .string "\"-- 5"] "output" "c.App" "mix"
      (by decide) (by decide) (by decide) (by decide) (by decide) (by decide) (by decide) (by decide)
      (isProcessArgument_of_isQualifiedName (by decide +kernel)) (by decide)⟩

/-- The long integer five is accepted by a long parameter, and no argument denotes it. -/
theorem not_exists_ofArgument_five :
    (Value.long 5).IsSimple ∧
      Accepting ⟨1⟩ [.long] [.long 5] ∧
      ¬ ∃ text, Value.ofArgument text = .long 5 := by
  refine ⟨trivial, by decide, ?_⟩
  rintro ⟨text, meant⟩
  have noShort := Value.not_isShortLong_ofArgument text
  rw [meant, Value.IsShortLong] at noShort
  exact noShort (by decide)

end LateBinding
