/-
# What a run warns about

A run never stops: a preset that does not exist, a file that cannot be read and an ignore file that
cannot be read are each passed over, with a warning.  This module says which warnings a run logs, so
that nothing is passed over in silence and nothing is warned about without cause.

Warnings come from four places, one inside the other: a reader of several that fails, the readers of
a file that all fail, an ignore file that fails, and the choice of the preset.  What lies around them
logs as well, but never a warning.

* `Logged.warnings` keeps the warnings of a log, and each step of a run has a law about it.  Options
  are read without one (`CommentCheck.warnings_ofConfig`, `CrossReference.warnings_ofConfig`), and so
  are rules switched off and reports made (`Linter.warnings_ofRules`, `Linter.warnings_report`).
* `Source.failureWarnings` says what several readers log for one file, and a composition that
  collects logs just that (`Source.warnings_collect_compose`).
* Files are handed over one by one and each to all rules (`Linter.warnings_processAll`), while the
  warnings are counted rule by rule; `List.flatMap_flatMap_perm` exchanges the two.
-/
import CatalogLint.Proofs.List
import CatalogLint.Proofs.Run.ReaderFailures

namespace CatalogLint

/-! ## 1. Warnings of a log -/

namespace Logged

variable {α β : Type}

/-- The warnings among the events of a value. -/
def warnings (x : Logged α) : List Event := x.events.filter fun e => e.level == .warn

@[simp] theorem warnings_pure (a : α) : (pure a : Logged α).warnings = [] := rfl

@[simp] theorem warnings_bind (x : Logged α) (f : α → Logged β) :
    (x >>= f).warnings = x.warnings ++ (f x.value).warnings := by
  rw [warnings, events_bind, List.filter_append]
  rfl

@[simp] theorem warnings_map (f : α → β) (x : Logged α) : (f <$> x).warnings = x.warnings := by
  rw [warnings, events_map]
  rfl

@[simp] theorem warnings_mapM (f : α → Logged β) (xs : List α) :
    (xs.mapM f).warnings = xs.flatMap fun x => (f x).warnings := by
  rw [warnings, events_mapM, List.filter_flatMap]
  rfl

@[simp] theorem warnings_log (e : Event) :
    (log e).warnings = if e.level = .warn then [e] else [] := by
  by_cases h : e.level = .warn <;> simp [warnings, h]

end Logged

/-! ## 2. Options -/

namespace RuleBlock

variable (b : RuleBlock) (key : String)

theorem warnings_boolean (default : Bool) : (b.boolean key default).warnings = [] := by
  unfold boolean
  cases b.option? key with
  | none => rfl
  | some v => cases v <;> rfl

@[simp] theorem warnings_text? : (b.text? key).warnings = [] := by
  unfold text?
  cases b.option? key with
  | none => rfl
  | some v => cases v <;> rfl

@[simp] theorem warnings_texts? : (b.texts? key).warnings = [] := by
  unfold texts?
  cases b.option? key with
  | none => rfl
  | some v => cases v <;> rfl

@[simp] theorem warnings_textTable? : (b.textTable? key).warnings = [] := by
  unfold textTable?
  cases b.option? key with
  | none => rfl
  | some v => cases v <;> rfl

end RuleBlock

@[simp] theorem Config.warnings_isEnabled (config : Config) (rule : String) :
    (config.isEnabled rule).warnings = [] := by
  unfold isEnabled
  cases config.rule? rule with
  | none => rfl
  | some b => exact b.warnings_boolean "enabled" true

namespace SeverityMap

@[simp] theorem warnings_read? (key name : String) : (read? key name).warnings = [] := by
  unfold read?
  cases Severity.parse name <;> rfl

@[simp] theorem warnings_readEntries (entries : List (String × String)) :
    (readEntries entries).warnings = [] := by
  induction entries with
  | nil => rfl
  | cons e entries ih => simp [readEntries, ih]

@[simp] theorem warnings_readDefault (b : RuleBlock) (default : Severity) :
    (readDefault b default).warnings = [] := by
  unfold readDefault
  rw [Logged.warnings_bind, RuleBlock.warnings_text?]
  cases (b.text? "severity").value with
  | none => rfl
  | some name => simp

@[simp] theorem warnings_ofBlock (block : Option RuleBlock) (default : Severity) :
    (ofBlock block default).warnings = [] := by
  unfold ofBlock
  cases block with
  | none => rfl
  | some b => simp

end SeverityMap

@[simp] theorem CommentCheck.warnings_ofConfig (config : Config) (s : Source)
    (profile : Comment.Profile) : (ofConfig config s profile).warnings = [] := by
  cases profile with
  | full =>
    rw [ofConfig, full, Logged.warnings_bind, SeverityMap.warnings_ofBlock]
    cases config.rule? Comment.Profile.full.rule with
    | none => rfl
    | some b => simp
  | legacy => simp [ofConfig, legacy]

@[simp] theorem CrossReference.warnings_ofConfig (config : Config) (declarations usages : Source)
    (ignoreFiles : IgnoreReader) :
    (ofConfig config declarations usages ignoreFiles).warnings = [] := by
  rw [ofConfig, Logged.warnings_bind, SeverityMap.warnings_ofBlock]
  cases config.rule? identifier with
  | none => rfl
  | some b => simp

@[simp] theorem Preset.warnings_rules (p : Preset) (config : Config) (c : Collaborators) :
    (p.rules config c).warnings = [] := by
  simp [rules]

/-- What is said of a preset: that there is none of the configured name. -/
def Config.presetWarnings (config : Config) : List Event :=
  match config.preset with
  | some name => if (Preset.ofName? name).isNone then [.unknownPreset name] else []
  | none => []

theorem Preset.warnings_resolve (config : Config) :
    (resolve config).warnings = config.presetWarnings := by
  unfold resolve Config.presetWarnings
  cases config.preset with
  | none => rfl
  | some name =>
    dsimp only
    cases ofName? name <;> rfl

/-! ## 3. Readers -/

namespace Source

/-- Why a source fails on a file: it takes the file and cannot read it. -/
def failure? (s : Source) (file : SourceFile) : Option FormatError :=
  if s.supports file then Reading.failure? (s.read file).value else none

/-- Some of several readers take a file, and all that take it fail. -/
def AllFail (readers : List Source) (file : SourceFile) : Prop :=
  (∃ s ∈ readers, s.supports file = true) ∧
    ∀ s ∈ readers, s.supports file = true → (s.failure? file).isSome = true

instance (readers : List Source) (file : SourceFile) : Decidable (AllFail readers file) :=
  inferInstanceAs (Decidable (_ ∧ _))

/-- What is said when several readers are handed a file: each that fails is named, and if all that
take the file fail, the file is named with the reason of the first. -/
def failureWarnings (readers : List Source) (file : SourceFile) : List Event :=
  (readers.filterMap fun s => (s.failure? file).map fun e => .readerFailed s.name file.path e) ++
    if AllFail readers file then
      ((readers.findSome? fun s => s.failure? file).map fun e => .fileFailed file.path e).toList
    else []

/-- A reader that fails is named, and says nothing else. -/
theorem warnings_attempt {s : Source} {file : SourceFile} (hquiet : (s.read file).events = []) :
    (attempt file s).warnings =
      ((Reading.failure? (s.read file).value).map fun e =>
        Event.readerFailed s.name file.path e).toList := by
  have hread : (s.read file).warnings = [] := by rw [Logged.warnings, hquiet]; rfl
  rw [attempt, Logged.warnings_bind, hread]
  cases (s.read file).value <;> rfl

/-- Readers that take a file are asked, the others are not. -/
theorem warnings_mapM_attempt {readers : List Source} {file : SourceFile}
    (hquiet : ∀ s ∈ readers, (s.read file).events = []) :
    ((readers.filter fun s => s.supports file).mapM (attempt file)).warnings =
      readers.filterMap fun s => (s.failure? file).map fun e =>
        .readerFailed s.name file.path e := by
  rw [Logged.warnings_mapM, List.filterMap_eq_flatMap_toList]
  induction readers with
  | nil => rfl
  | cons s readers ih =>
    have ih := ih fun t ht => hquiet t (List.mem_cons_of_mem _ ht)
    rw [List.filter_cons, List.flatMap_cons, failure?]
    split
    · rw [List.flatMap_cons, warnings_attempt (hquiet s List.mem_cons_self), ih]
    · rw [ih]
      rfl

/-- Only readers that take a file fail on it. -/
theorem findSome?_failure? (readers : List Source) (file : SourceFile) :
    (readers.findSome? fun s => s.failure? file) =
      (readers.filter fun s => s.supports file).findSome? fun s =>
        Reading.failure? (s.read file).value := by
  induction readers with
  | nil => rfl
  | cons s readers ih =>
    rw [List.findSome?_cons, failure?, List.filter_cons]
    by_cases hsup : s.supports file = true
    · rw [if_pos hsup, if_pos hsup, List.findSome?_cons, ih]
    · rw [if_neg hsup, if_neg hsup, ih]

theorem allFail_iff {readers : List Source} {file : SourceFile}
    (hsup : (compose readers).supports file = true) :
    AllFail readers file ↔
      ∀ s ∈ readers.filter fun s => s.supports file, ∃ e, (s.read file).value = .error e := by
  rw [AllFail, and_iff_right (List.any_eq_true.1 hsup)]
  simp only [List.mem_filter, and_imp]
  refine forall₃_congr fun s _ hs => ?_
  rw [failure?, if_pos hs, Reading.isSome_failure?_iff]

/-- A composition that takes a file fails on it when `AllFail` holds, for the reason of the first
reader that fails. -/
theorem read_compose_eq_error_iff {readers : List Source} {file : SourceFile} {e : FormatError}
    (hsup : (compose readers).supports file = true) :
    ((compose readers).read file).value = .error e ↔
      AllFail readers file ∧ (readers.findSome? fun s => s.failure? file) = some e := by
  obtain ⟨first, rest, htakers⟩ := exists_takers hsup
  rw [read_compose_fails_iff htakers, allFail_iff hsup, findSome?_failure?, htakers,
    List.findSome?_cons, List.forall_mem_cons]
  constructor
  · rintro ⟨hfirst, hrest⟩
    exact ⟨⟨⟨e, hfirst⟩, hrest⟩, by rw [hfirst]; rfl⟩
  · rintro ⟨⟨⟨e', hfirst⟩, hrest⟩, hsome⟩
    rw [hfirst] at hsome ⊢
    exact ⟨congrArg Except.error (Option.some.inj hsome), hrest⟩

/-- **A composition warns of failures**, and of nothing else, if its sources log nothing. -/
theorem warnings_collect_compose {readers : List Source} {file : SourceFile}
    (hquiet : ∀ s ∈ readers, (s.read file).events = []) :
    ((compose readers).collect file).warnings = failureWarnings readers file := by
  by_cases hsup : (compose readers).supports file = true
  · have hread : ((compose readers).read file).warnings =
        readers.filterMap fun s => (s.failure? file).map fun e =>
          .readerFailed s.name file.path e := by
      have hany : (readers.any fun s => s.supports file) = true := hsup
      rw [← warnings_mapM_attempt hquiet]
      simp only [compose, hany, if_true, Logged.warnings_map]
    have herror := fun e => read_compose_eq_error_iff (e := e) hsup
    rw [collect, if_pos hsup, Logged.warnings_bind, hread, failureWarnings]
    congr 1
    cases hvalue : ((compose readers).read file).value with
    | error e =>
      obtain ⟨hall, hfirst⟩ := (herror e).1 hvalue
      rw [if_pos hall, hfirst]
      rfl
    | ok records =>
      change [] = _
      split
      · next hall =>
        cases hfirst : readers.findSome? fun s => s.failure? file with
        | none => rfl
        | some e => exact absurd ((herror e).2 ⟨hall, hfirst⟩) (by simp [hvalue])
      · rfl
  · have hnone : ∀ s ∈ readers, s.supports file = false := by
      intro s hs
      exact Bool.eq_false_iff.2 fun h => hsup (List.any_eq_true.2 ⟨s, hs, h⟩)
    have hall : ¬ AllFail readers file := by
      rintro ⟨⟨s, hs, hs'⟩, -⟩
      rw [hnone s hs] at hs'
      exact Bool.false_ne_true hs'
    rw [collect_of_not_supports (Bool.eq_false_iff.2 hsup), failureWarnings, if_neg hall,
      List.append_nil, Logged.warnings_pure, eq_comm, List.filterMap_eq_nil_iff]
    intro s hs
    rw [failure?, hnone s hs]
    rfl

end Source

namespace IgnoreReader

/-- Why a reader of ignore files fails on a file: it takes the file and cannot read it. -/
def failure? (reader : IgnoreReader) (file : SourceFile) : Option FormatError :=
  if reader.supports file then
    match reader.read file with
    | .error e => some e
    | .ok _ => none
  else none

theorem warnings_collect (reader : IgnoreReader) (file : SourceFile) :
    (reader.collect file).warnings =
      ((reader.failure? file).map fun e => Event.ignoreFileFailed file.path e).toList := by
  unfold collect failure?
  split
  · cases reader.read file <;> rfl
  · rfl

end IgnoreReader

/-! ## 4. Rules and files -/

/-- The lists of readers that a rule reads from: that of declarations, and the cross reference also
that of uses. -/
def Collaborators.readersOf (c : Collaborators) (rule : String) : List (List Source) :=
  if rule = CrossReference.identifier then [c.declarations, c.usages] else [c.declarations]

/-- Readers that log nothing by themselves. -/
def Collaborators.Quiet (c : Collaborators) : Prop :=
  ∀ s ∈ c.declarations ++ c.usages, ∀ file, (s.read file).events = []

/-- What is said of an ignore file that cannot be read. -/
def Collaborators.ignoreWarnings (c : Collaborators) (file : SourceFile) : List Event :=
  ((c.ignoreFiles.failure? file).map fun e => Event.ignoreFileFailed file.path e).toList

/-- What is said when a rule is handed a file. -/
def Collaborators.ruleWarnings (c : Collaborators) (rule : String) (file : SourceFile) :
    List Event :=
  ((c.readersOf rule).flatMap fun readers => Source.failureWarnings readers file) ++
    if rule = CrossReference.identifier then c.ignoreWarnings file else []

/-- **The step of a rule.**  A rule of a run that is handed a file warns of what its readers, and for
the cross reference the ignore file, fail on. -/
theorem Config.warnings_notices {config : Config} {c : Collaborators} (hquiet : c.Quiet) {r : Rule}
    (hr : r ∈ config.activeRules c) (file : SourceFile) :
    ((r.notices file).filter fun e => e.level == .warn) = c.ruleWarnings r.identifier file := by
  have hdeclarations : (c.declarationSource.collect file).warnings =
      Source.failureWarnings c.declarations file :=
    Source.warnings_collect_compose fun s hs => hquiet s (List.mem_append_left _ hs) file
  have husages : (c.usageSource.collect file).warnings = Source.failureWarnings c.usages file :=
    Source.warnings_collect_compose fun s hs => hquiet s (List.mem_append_right _ hs) file
  have hrule := (Config.mem_activeRules.1 hr).1
  rw [Preset.value_rules, List.mem_append, List.mem_map, List.mem_singleton] at hrule
  rcases hrule with ⟨profile, -, rfl⟩ | rfl
  · have hid := profile.rule_ne
    rw [Collaborators.ruleWarnings, Collaborators.readersOf,
      CommentCheck.identifier_rule_ofConfig, if_neg hid, if_neg hid, List.append_nil,
      List.flatMap_singleton, ← hdeclarations]
    change ((_ : CommentCheck).declarations.collect file).warnings = _
    rw [CommentCheck.declarations_ofConfig]
  · change (((CrossReference.ofConfig _ _ _ _).value).take {} file).warnings =
      c.ruleWarnings CrossReference.identifier file
    rw [CrossReference.value_ofConfig, Collaborators.ruleWarnings, Collaborators.readersOf,
      if_pos rfl, if_pos rfl, Collaborators.ignoreWarnings, ← IgnoreReader.warnings_collect]
    simp only [CrossReference.take, Logged.warnings_bind, Logged.warnings_pure, List.append_nil,
      List.flatMap_cons, List.flatMap_nil, hdeclarations, husages, List.append_assoc]

namespace Linter

/-- A file is handed to the rules in turn. -/
theorem warnings_process (l : Linter) (file : SourceFile) :
    (l.process file).warnings =
      l.rules.flatMap fun r => (r.notices file).filter fun e => e.level == .warn := by
  rw [process, Logged.warnings, List.filter_cons, List.filter_flatMap]
  rfl

/-- **The run of a linter.**  It warns of what its rules warn of, file by file. -/
theorem warnings_processAll (l : Linter) (files : List SourceFile) :
    (l.processAll files).warnings = files.flatMap fun file =>
      l.rules.flatMap fun r => (r.notices file).filter fun e => e.level == .warn := by
  induction files generalizing l with
  | nil => rfl
  | cons file files ih =>
    rw [processAll, Logged.warnings_bind, warnings_process, ih, List.flatMap_cons]
    rfl

theorem warnings_keeps (config : Config) (r : Rule) : (keeps config r).warnings = [] := by
  rw [keeps, Logged.warnings_bind, Config.warnings_isEnabled]
  cases (config.isEnabled r.identifier).value <;> rfl

theorem warnings_ofRules (config : Config) (rules : List Rule) :
    (ofRules config rules).warnings = [] := by
  have hkept : (enabledRules config rules).warnings = [] := by
    induction rules with
    | nil => rfl
    | cons r rules ih => simp [enabledRules, warnings_keeps, ih]
  rw [ofRules, Logged.warnings_bind, hkept]
  rfl

theorem warnings_report (l : Linter) : l.report.warnings = [] := by
  have hevaluate : ∀ r, (l.evaluate r).warnings = [] := fun _ => rfl
  simp [report, hevaluate]

theorem warnings_lint (l : Linter) (files : List SourceFile) :
    (l.lint files).warnings = (l.processAll files).warnings := by
  simp [lint, warnings_report, Event.level]

end Linter

/-! ## 5. Whole runs -/

/-- The warnings of a run, file by file. -/
theorem warnings_lint_eq (files : List SourceFile) (config : Config) (c : Collaborators) :
    (lint files config c).warnings =
      config.presetWarnings ++ files.flatMap fun file => (config.activeRules c).flatMap fun r =>
        (r.notices file).filter fun e => e.level == .warn := by
  have hlinter : (config.linter c).warnings = config.presetWarnings := by
    simp [Config.linter, Preset.warnings_resolve, Linter.warnings_ofRules, Event.level]
  rw [lint, Logged.warnings_bind, hlinter, Linter.warnings_lint, Linter.warnings_processAll]
  simp only [Config.linter, Logged.value_bind, Linter.value_ofRules]
  rfl

/-- The rules of a run, by their identifiers. -/
theorem Config.identifier_activeRules (config : Config) (c : Collaborators) :
    (config.activeRules c).map Rule.identifier =
      (Preset.resolve config).value.identifiers.filter fun rule =>
        (config.isEnabled rule).value := by
  rw [activeRules, ← Preset.identifier_rules _ config c, List.filter_map]
  rfl

/-- The warnings of a run, rule by rule. -/
theorem warnings_lint_byRule {c : Collaborators} (hquiet : c.Quiet) (config : Config)
    (files : List SourceFile) :
    (lint files config c).warnings.Perm
      (config.presetWarnings ++
        ((Preset.resolve config).value.identifiers.filter fun rule =>
          (config.isEnabled rule).value).flatMap fun rule =>
            files.flatMap fun file => c.ruleWarnings rule file) := by
  have hfile : ∀ file, ((config.activeRules c).flatMap fun r =>
      (r.notices file).filter fun e => e.level == .warn) =
        ((Preset.resolve config).value.identifiers.filter fun rule =>
          (config.isEnabled rule).value).flatMap fun rule => c.ruleWarnings rule file := by
    intro file
    rw [← config.identifier_activeRules c, List.flatMap_map]
    exact List.flatMap_congr fun r hr => config.warnings_notices hquiet hr file
  rw [warnings_lint_eq]
  simp only [hfile]
  exact (List.flatMap_flatMap_perm _ _ _).append_left _

/-- Only the cross reference reads ignore files. -/
theorem Config.flatMap_ignoreWarnings (config : Config) (c : Collaborators)
    (files : List SourceFile) :
    (((Preset.resolve config).value.identifiers.filter fun rule =>
        (config.isEnabled rule).value).flatMap fun rule => files.flatMap fun file =>
          if rule = CrossReference.identifier then c.ignoreWarnings file else []) =
      if (config.isEnabled CrossReference.identifier).value then
        files.flatMap c.ignoreWarnings
      else [] := by
  have hprofiles : ∀ rule ∈ ((Preset.resolve config).value.profiles.map
      Comment.Profile.rule).filter (fun rule => (config.isEnabled rule).value),
      (files.flatMap fun file =>
        if rule = CrossReference.identifier then c.ignoreWarnings file else []) = [] := by
    intro rule hrule
    obtain ⟨profile, -, rfl⟩ := List.mem_map.1 (List.mem_filter.1 hrule).1
    simp [profile.rule_ne]
  rw [Preset.identifiers, List.filter_append, List.flatMap_append,
    List.flatMap_eq_nil_iff.2 hprofiles, List.nil_append]
  cases hon : (config.isEnabled CrossReference.identifier).value <;> simp [hon]

/-- **No failure is silent, and no warning is without cause.**  With readers that log nothing by
themselves, the warnings of a run are, in some order: one for the preset, if the configured name is
that of none; for each rule of the preset that is switched on, each file and each list of readers
that the rule reads from, one for each reader that takes the file and fails, with its name, the file
and the reason, and one more for the file, with the reason of the first, if some readers take it and
all of these fail; and one for each file that the reader of ignore files takes and fails on, if the
cross reference is switched on. -/
theorem warnings_lint_perm {c : Collaborators} (hquiet : c.Quiet) (config : Config)
    (files : List SourceFile) :
    (lint files config c).warnings.Perm
      (config.presetWarnings ++
        (((Preset.resolve config).value.identifiers.filter fun rule =>
          (config.isEnabled rule).value).flatMap fun rule => files.flatMap fun file =>
            (c.readersOf rule).flatMap fun readers => Source.failureWarnings readers file) ++
        if (config.isEnabled CrossReference.identifier).value then
          files.flatMap c.ignoreWarnings
        else []) := by
  refine (warnings_lint_byRule hquiet config files).trans ?_
  rw [List.append_assoc, ← config.flatMap_ignoreWarnings]
  refine List.Perm.append_left _ ?_
  -- in each rule, what is said of ignore files is put behind what is said of readers
  refine (List.Perm.flatMap_left _ fun rule _ => ?_).trans (List.flatMap_append_perm _ _ _).symm
  exact (List.flatMap_append_perm files _ _).symm

/-- A preset that does not exist, and a file on which all readers fail but one: two rules read the
declarations, of which the second reader makes up for the first. -/
theorem warnings_lint_perm_failing :
    Collaborators.failing.Quiet ∧
      (lint [⟨"a.strings", "key"⟩] { preset := some "strict" } .failing).warnings.Perm
        [.unknownPreset "strict",
          .readerFailed "failing" "a.strings" (.undecodable "a.strings" "not a catalogue"),
          .readerFailed "failing" "a.strings" (.undecodable "a.strings" "not a catalogue"),
          .readerFailed "failing" "a.strings" (.undecodable "a.strings" "not a catalogue"),
          .fileFailed "a.strings" (.undecodable "a.strings" "not a catalogue"),
          .ignoreFileFailed "a.strings" (.undecodable "a.strings" "not a list of keys")] := by
  have hquiet : Collaborators.failing.Quiet := by
    intro s hs file
    have hs : s = Source.failing ∨ s ∈ Collaborators.ofKeys.declarations ∨ s = Source.failing := by
      simpa [Collaborators.failing] using hs
    rcases hs with rfl | hs | rfl
    · rfl
    · obtain rfl := List.mem_singleton.1 hs
      rfl
    · rfl
  exact ⟨hquiet, warnings_lint_perm hquiet { preset := some "strict" } [⟨"a.strings", "key"⟩]⟩

end CatalogLint
