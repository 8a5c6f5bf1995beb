import LateBinding.Proofs.Bytes.Text
import LateBinding.Settings.Overrides
import Mathlib.Data.List.Basic

/-!
# Quiet commands

The level of a target is that of the phase whose target stands in front of it, or else the global one.  A quiet
command lowers the global level to errors and leaves alone the levels that a settings file gives to phases of
their own.  So a quiet command logs more than errors exactly for the phases that have such a level.
-/

namespace LateBinding

/-- No target logs anything but errors. -/
def LogSettings.LogsOnlyErrors (settings : LogSettings) : Prop :=
  ∀ (target : String) (level : LogLevel), level ≠ .error → settings.isEnabled target level = false

/-- The settings of a file, or the standard ones without a file, before a command line is looked at. -/
def Settings.ofFile : Option (Except String Bytes) → Except SettingsError Settings
  | none => .ok .standard
  | some (.error cause) => .error (.unreadable cause)
  | some (.ok content) => Settings.ofContent content

theorem resolveSettings_eq
    (file : Option (Except String Bytes))
    (overrides : Overrides) :
    resolveSettings file overrides = (Settings.ofFile file).map overrides.apply := by
  match file with
  | none => rfl
  | some (.error cause) => rfl
  | some (.ok content) =>
      simp only [resolveSettings, Settings.ofFile]
      cases Settings.ofContent content <;> rfl

theorem LogLevel.eq_error_of_rank_le
    {level : LogLevel}
    (lowest : level.rank ≤ LogLevel.error.rank) :
    level = .error := by
  revert lowest
  cases level <;> decide

/-! ## Targets of phases -/

namespace Phase

theorem mem_all (phase : Phase) : phase ∈ all := by
  cases phase <;> decide

theorem toList_target (phase : Phase) : phase.target.toList = "kiln::".toList ++ phase.text.toList :=
  String.toList_append

theorem eq_of_isPrefix_target
    {phase other : Phase}
    (front : phase.target.toList <+: other.target.toList) :
    phase = other := by
  rw [toList_target, toList_target, List.prefix_append_right_inj] at front
  revert front
  cases phase <;> cases other <;> decide

/-- At most one phase has a target that a given target starts with. -/
theorem eq_of_isPrefix_both
    {phase other : Phase}
    {target : List Char}
    (front : phase.target.toList <+: target)
    (otherFront : other.target.toList <+: target) :
    phase = other := by
  rcases List.prefix_or_prefix_of_prefix front otherFront with inside | inside
  · exact eq_of_isPrefix_target inside
  · exact (eq_of_isPrefix_target inside).symm

/-- What starts with the target of a phase does not start with that of the command line. -/
theorem not_isPrefix_commandLine
    {phase : Phase}
    {target : List Char}
    (front : phase.target.toList <+: target) :
    ¬ "kiln::cli".toList <+: target := by
  intro otherFront
  have parts : "kiln::cli".toList = "kiln::".toList ++ "cli".toList := by decide
  have inside := List.prefix_or_prefix_of_prefix front otherFront
  rw [toList_target, parts, List.prefix_append_right_inj, List.prefix_append_right_inj] at inside
  revert inside
  cases phase <;> decide

end Phase

/-! ## The level of a target -/

namespace LogSettings

variable {settings : LogSettings} {target : String}

/-- The longest of some targets is one of them. -/
theorem mem_of_foldl_longerTarget
    {start : Option (String × LogLevel)}
    {directives : List (String × LogLevel)}
    {deciding : String × LogLevel}
    (found : directives.foldl longerTarget start = some deciding) :
    start = some deciding ∨ deciding ∈ directives := by
  induction directives generalizing start with
  | nil => exact .inl found
  | cons directive rest inductionHypothesis =>
      rcases inductionHypothesis found with first | later
      · cases start with
        | none => exact .inr (Option.some.inj first ▸ List.mem_cons_self)
        | some held =>
            rw [longerTarget] at first
            split at first
            · exact .inr (Option.some.inj first ▸ List.mem_cons_self)
            · exact .inl first
      · exact .inr (List.mem_cons_of_mem directive later)

theorem foldl_longerTarget_ne_none
    (held : String × LogLevel)
    (directives : List (String × LogLevel)) :
    directives.foldl longerTarget (some held) ≠ none := by
  induction directives generalizing held with
  | nil => exact Option.some_ne_none held
  | cons directive rest inductionHypothesis =>
      rw [List.foldl_cons, longerTarget]
      split <;> exact inductionHypothesis _

theorem mem_directives_iff {directive : String × LogLevel} :
    directive ∈ settings.directives ↔
      directive = ("kiln::cli", settings.global) ∨
        ∃ phase : Phase, directive = (phase.target, settings.level phase) := by
  rw [directives, List.mem_cons, List.mem_map]
  refine or_congr Iff.rfl (exists_congr fun phase => ?_)
  rw [and_iff_right phase.mem_all]
  exact eq_comm

/-- The level of a target is the one on which all targets that it starts with agree. -/
theorem targetLevel_eq
    {level : LogLevel}
    (agree : ∀ directive ∈ settings.directives, directive.1.toList <+: target.toList →
      directive.2 = level)
    (decided : settings.global = level ∨
      ∃ directive ∈ settings.directives, directive.1.toList <+: target.toList) :
    settings.targetLevel target = level := by
  have matches_iff : ∀ directive, directive ∈ settings.directives.filter (fun directive =>
      directive.1.toList.isPrefixOf target.toList) ↔
        directive ∈ settings.directives ∧ directive.1.toList <+: target.toList := by
    intro directive
    rw [List.mem_filter, List.isPrefixOf_iff_prefix]
  rw [targetLevel]
  cases found : (settings.directives.filter fun directive =>
      directive.1.toList.isPrefixOf target.toList).foldl longerTarget none with
  | some deciding =>
      rcases mem_of_foldl_longerTarget found with impossible | present
      · nomatch impossible
      · obtain ⟨known, front⟩ := (matches_iff deciding).mp present
        exact agree deciding known front
  | none =>
      rcases decided with same | ⟨directive, known, front⟩
      · exact same
      · have present := (matches_iff directive).mpr ⟨known, front⟩
        cases among : settings.directives.filter fun directive =>
            directive.1.toList.isPrefixOf target.toList with
        | nil =>
            rw [among] at present
            nomatch present
        | cons first rest =>
            rw [among] at found
            exact absurd found (foldl_longerTarget_ne_none first rest)

/-- A target that starts with that of a phase has the level of the phase. -/
theorem targetLevel_of_phase
    {phase : Phase}
    (front : phase.target.toList <+: target.toList) :
    settings.targetLevel target = settings.level phase := by
  refine targetLevel_eq ?_ (.inr ⟨_, mem_directives_iff.mpr (.inr ⟨phase, rfl⟩), front⟩)
  intro directive known otherFront
  rcases mem_directives_iff.mp known with rfl | ⟨other, rfl⟩
  · exact absurd otherFront (Phase.not_isPrefix_commandLine front)
  · rw [Phase.eq_of_isPrefix_both front otherFront]

/-- Every other target has the global level. -/
theorem targetLevel_of_no_phase
    (apart : ∀ phase : Phase, ¬ phase.target.toList <+: target.toList) :
    settings.targetLevel target = settings.global := by
  refine targetLevel_eq ?_ (.inl rfl)
  intro directive known front
  rcases mem_directives_iff.mp known with rfl | ⟨phase, rfl⟩
  · rfl
  · exact absurd front (apart phase)

/-- Where the global level is that of errors, more is logged for the phases with a level of their own. -/
theorem isEnabled_iff
    (quiet : settings.global = .error)
    (target : String)
    (level : LogLevel) :
    settings.isEnabled target level = true ↔
      level = .error ∨ ∃ phase own, settings.ownLevel phase = some own ∧
        phase.target.toList <+: target.toList ∧ level.rank ≤ own.rank := by
  have lowest : level.rank ≤ LogLevel.error.rank ↔ level = .error :=
    ⟨LogLevel.eq_error_of_rank_le, fun same => same ▸ Nat.le_refl _⟩
  rw [isEnabled, decide_eq_true_eq]
  by_cases known : ∃ phase : Phase, phase.target.toList <+: target.toList
  · obtain ⟨phase, front⟩ := known
    rw [targetLevel_of_phase front, LogSettings.level, quiet]
    cases given : settings.ownLevel phase with
    | none =>
        rw [Option.getD_none, lowest]
        refine ⟨.inl, ?_⟩
        rintro (same | ⟨other, own, otherGiven, otherFront, _⟩)
        · exact same
        · rw [← Phase.eq_of_isPrefix_both front otherFront, given] at otherGiven
          nomatch otherGiven
    | some own =>
        rw [Option.getD_some]
        constructor
        · intro quieter
          exact .inr ⟨phase, own, given, front, quieter⟩
        · rintro (rfl | ⟨other, otherOwn, otherGiven, otherFront, quieter⟩)
          · exact Nat.zero_le _
          · rw [← Phase.eq_of_isPrefix_both front otherFront, given] at otherGiven
            exact Option.some.inj otherGiven ▸ quieter
  · have apart : ∀ phase : Phase, ¬ phase.target.toList <+: target.toList :=
      fun phase front => known ⟨phase, front⟩
    rw [targetLevel_of_no_phase apart, quiet, lowest]
    refine ⟨.inl, ?_⟩
    rintro (same | ⟨phase, _, _, front, _⟩)
    · exact same
    · exact absurd front (apart phase)

/-- Where the global level is that of errors, nothing else is logged exactly if no phase says otherwise. -/
theorem logsOnlyErrors_iff (quiet : settings.global = .error) :
    settings.LogsOnlyErrors ↔ ∀ phase own, settings.ownLevel phase = some own → own = .error := by
  constructor
  · intro onlyErrors phase own given
    by_contra louder
    have enabled : settings.isEnabled phase.target own = true :=
      (isEnabled_iff quiet phase.target own).mpr
        (.inr ⟨phase, own, given, List.prefix_refl _, Nat.le_refl _⟩)
    rw [onlyErrors phase.target own louder] at enabled
    nomatch enabled
  · intro onlyErrors target level louder
    by_contra enabled
    rcases (isEnabled_iff quiet target level).mp (Bool.of_not_eq_false enabled) with
      same | ⟨phase, own, given, _, quieter⟩
    · exact louder same
    · obtain rfl := onlyErrors phase own given
      exact louder (LogLevel.eq_error_of_rank_le quieter)

end LogSettings

/-! ## Quiet commands -/

/--
Whatever a settings file says that is accepted and however often more logging is asked for, a quiet command
enables, besides errors, exactly what the file's own level of a phase enables for the targets of the phase.
-/
theorem resolveSettings_quiet_enables_exactly
    (file : Option (Except String Bytes))
    {configured : Settings}
    {overrides : Overrides}
    (accepted : Settings.ofFile file = .ok configured)
    (quiet : overrides.quiet = true) :
    ∃ settings, resolveSettings file overrides = .ok settings ∧
      (∀ target level, settings.log.isEnabled target level = true ↔
        level = .error ∨ ∃ phase own, configured.log.ownLevel phase = some own ∧
          phase.target.toList <+: target.toList ∧ level.rank ≤ own.rank) ∧
      (settings.log.LogsOnlyErrors ↔
        ∀ phase own, configured.log.ownLevel phase = some own → own = .error) := by
  have lowered : (overrides.apply configured).log.global = .error := if_pos quiet
  -- A command line has no words for the levels of phases.
  have kept : ∀ phase, (overrides.apply configured).log.ownLevel phase =
      configured.log.ownLevel phase := by
    intro phase
    cases phase <;> rfl
  refine ⟨overrides.apply configured, by rw [resolveSettings_eq, accepted]; rfl, ?_, ?_⟩
  · intro target level
    simp only [← kept]
    exact LogSettings.isEnabled_iff lowered target level
  · simp only [← kept]
    exact LogSettings.logsOnlyErrors_iff lowered

/-- A settings file that asks for everything about the loading of modules. -/
def tracingContent : Bytes :=
  Bytes.ofText "\x7b\"log\": \x7b\"global\": \"info\", \"loader\": \"trace\"\x7d\x7d"

/-- The settings of this file. -/
def tracingSettings : Settings :=
  { Settings.standard with
    log := { LogSettings.standard with global := .info, loader := some .trace } }

/-- A quiet command that asks for more logging, too. -/
def quietOverrides : Overrides where
  moduleDirectory := none
  verbosity := 3
  quiet := true
  logFormat := none
  logFile := none

theorem ofFile_tracingContent : Settings.ofFile (some (.ok tracingContent)) = .ok tracingSettings := by
  rw [Settings.ofFile, Settings.ofContent, tracingContent, Bytes.text?_ofText]
  decide +kernel

theorem resolveSettings_quiet_enables_loading :
    Settings.ofFile (some (.ok tracingContent)) = .ok tracingSettings ∧ quietOverrides.quiet = true ∧
      ∃ settings, resolveSettings (some (.ok tracingContent)) quietOverrides = .ok settings ∧
        settings.log.isEnabled "kiln::loader::cache" .debug = true ∧
        settings.log.isEnabled "kiln::codegen" .warn = false := by
  obtain ⟨settings, resolved, enabled, _⟩ :=
    resolveSettings_quiet_enables_exactly (some (.ok tracingContent)) ofFile_tracingContent
      (show quietOverrides.quiet = true from rfl)
  refine ⟨ofFile_tracingContent, rfl, settings, resolved, ?_, ?_⟩
  · exact (enabled _ _).mpr (.inr ⟨.loader, .trace, rfl, by decide, by decide⟩)
  · rw [← Bool.not_eq_true, enabled]
    rintro (impossible | ⟨phase, own, given, front, _⟩)
    · nomatch impossible
    · cases phase with
      | loader => exact absurd front (by decide)
      | _ => nomatch given

/-- A quiet command logs everything for a phase that has the level of everything. -/
theorem not_logsOnlyErrors_of_quietOverrides :
    ∃ settings, resolveSettings (some (.ok tracingContent)) quietOverrides = .ok settings ∧
      settings.log.isEnabled "kiln::loader" .trace = true ∧ ¬ settings.log.LogsOnlyErrors := by
  have enabled : (quietOverrides.apply tracingSettings).log.isEnabled "kiln::loader" .trace = true := by
    decide +kernel
  refine ⟨_, by rw [resolveSettings_eq, ofFile_tracingContent]; rfl, enabled, ?_⟩
  intro onlyErrors
  have disabled := onlyErrors "kiln::loader" .trace (by decide)
  exact absurd (enabled.symm.trans disabled) (by decide)

end LateBinding
