/-
# Linters and whole runs

The configuration chooses the preset, the preset its rules, and the linter of those that are switched
on reads every file and reports.

A linter has rules and hands them files, one by one.  Its report holds what the rules find in the
files so far, in order.  Main facts: a linter keeps its rules and remembers every file
(`value_processAll`), and its report is the sorted list of what each rule finds in them
(`value_report`).
-/
import CatalogLint.Preset
import CatalogLint.Report

namespace CatalogLint

/-- Rules at work. -/
structure Linter where
  /-- The rules. -/
  rules : List Rule
  /-- The files that were handed to the rules, in order. -/
  files : List SourceFile := []

namespace Linter

/-! ## 1. Rules -/

/-- Whether a configuration keeps a rule; a rule that is dropped is logged. -/
def keeps (config : Config) (r : Rule) : Logged Bool := do
  let enabled ← config.isEnabled r.identifier
  if !enabled then Logged.log (.skippedRule r.identifier)
  return enabled

/-- The rules that a configuration keeps. -/
def enabledRules (config : Config) : List Rule → Logged (List Rule)
  | [] => pure []
  | r :: rs => do
    let kept ← keeps config r
    let rest ← enabledRules config rs
    return if kept then r :: rest else rest

/-- A linter of the rules that a configuration keeps. -/
def ofRules (config : Config) (rules : List Rule) : Logged Linter := do
  return { rules := ← enabledRules config rules }

/-- The number of files that were handed to the rules. -/
def filesChecked (l : Linter) : Nat := l.files.length

/-! ## 2. Files -/

/-- Hands a file to every rule. -/
def process (l : Linter) (file : SourceFile) : Logged Linter where
  value := { l with files := l.files ++ [file] }
  events := .processing file.path :: l.rules.flatMap fun r => r.notices file

/-- Hands files to every rule, one by one. -/
def processAll (l : Linter) : List SourceFile → Logged Linter
  | [] => pure l
  | file :: files => do (← l.process file).processAll files

/-! ## 3. Reports -/

/-- The violations of one rule in the files so far, whose number is logged. -/
def evaluate (l : Linter) (r : Rule) : Logged (List Violation) := do
  let found := r.violations l.files
  Logged.log (.reported r.identifier found.length)
  return found

/-- The report on the files so far. -/
def report (l : Linter) : Logged Report := do
  let found ← l.rules.mapM l.evaluate
  return Report.sorted { violations := found.flatten, filesChecked := l.filesChecked }

/-- Hands files to every rule and reports. -/
def lint (l : Linter) (files : List SourceFile) : Logged Report := do
  Logged.log (.started l.rules.length)
  let done ← l.processAll files
  let report ← done.report
  Logged.log (.completed report.violations.length report.filesChecked)
  return report

/-! ## 4. What is found -/

theorem value_keeps (config : Config) (r : Rule) :
    (keeps config r).value = (config.isEnabled r.identifier).value := by
  unfold keeps
  rw [Logged.value_bind]
  cases (config.isEnabled r.identifier).value <;> rfl

theorem value_enabledRules (config : Config) (rules : List Rule) :
    (enabledRules config rules).value =
      rules.filter fun r => (config.isEnabled r.identifier).value := by
  induction rules with
  | nil => rfl
  | cons r rs ih =>
    simp only [enabledRules, Logged.value_bind, Logged.value_pure, value_keeps, ih,
      List.filter_cons]

/-- Processing keeps the rules and remembers every file. -/
theorem value_processAll (l : Linter) (files : List SourceFile) :
    (l.processAll files).value = { l with files := l.files ++ files } := by
  induction files generalizing l with
  | nil => simp [processAll]
  | cons file files ih => simp [processAll, ih, process]

/-- A report holds what each rule finds, in order. -/
theorem value_report (l : Linter) :
    l.report.value =
      { violations := Violation.sort (l.rules.flatMap fun r => r.violations l.files)
        filesChecked := l.files.length } := by
  simp [report, evaluate, Report.sorted, filesChecked, List.flatMap_def]

/-- A run reports what each rule finds in all files. -/
theorem value_lint (rules : List Rule) (files : List SourceFile) :
    (({ rules } : Linter).lint files).value =
      { violations := Violation.sort (rules.flatMap fun r => r.violations files)
        filesChecked := files.length } := by
  simp [lint, value_processAll, value_report]

end Linter

/-! ## 5. Whole runs -/

/-- The linter that a configuration asks for. -/
def Config.linter (config : Config) (c : Collaborators) : Logged Linter := do
  let preset ← Preset.resolve config
  Logged.log (.usingPreset preset.title)
  Linter.ofRules config (← preset.rules config c)

/-- Lints files with the rules that a configuration asks for. -/
def lint (files : List SourceFile) (config : Config) (c : Collaborators) : Logged Report := do
  (← config.linter c).lint files

end CatalogLint
