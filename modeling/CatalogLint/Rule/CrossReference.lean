/-
# The rule about unused strings

Declared strings and the places that use them meet under their match keys.  A declared key that no
place uses is reported, unless it is exempt: ignored or in progress by the configuration, or listed in
an ignore file.  A key in progress that some place uses is reported at that place, and an ignore file
without an owner where it is.  Files are taken in one by one, and nothing is reported before all are
in, so their order does not decide what is used.
-/
import CatalogLint.Accessor
import CatalogLint.IgnoreFile
import CatalogLint.Rule.Basic
import CatalogLint.Source.Basic

namespace CatalogLint

/-! ## 1. Kinds of findings

Declared strings and the places that use them are compared in both directions: a string that nothing
uses, and a place that uses a string still in progress.  An ignore file without an owner is found on
the way.  The `identifier` of a finding is the name under which a configuration sets its severity. -/

namespace Rule

/-- A finding of the cross reference. -/
inductive Finding
  /-- No place uses the declared key. -/
  | unused (key : String)
  /-- A string in progress is used. -/
  | referenced
  /-- An ignore file names no owner. -/
  | missingOwner
  deriving DecidableEq, Repr

namespace Finding

/-- The name of a kind of finding. -/
def identifier : Finding → String
  | unused _ => "unusedString"
  | referenced => "workInProgressReferenced"
  | missingOwner => "missingOwner"

/-- What a finding says, as sentences. -/
def reason : Finding → String
  | unused key =>
    "Localized string \"" ++ key ++ "\" is unused. If you intend to use this string in a later " ++
      "PR, please add it to the \"work_in_progress\" list in the lint configuration or create an " ++
      "ignore file."
  | referenced => "This string is marked as WIP but is referenced here."
  | missingOwner => "Please specify a responsible owner for these strings."

end Finding

end Rule

/-! ## 2. Configuration -/

/-- A comparison of declared strings with the places that use them. -/
structure CrossReference where
  /-- Where declared strings are read from. -/
  declarations : Source
  /-- Where uses are read from. -/
  usages : Source
  /-- Where ignore files are read from. -/
  ignoreFiles : IgnoreReader := .absent
  /-- Declared keys that may go unused. -/
  ignored : List String := []
  /-- Declared keys that may go unused and must not be used yet. -/
  inProgress : List String := []
  /-- The severities of findings. -/
  severities : SeverityMap := {}
  /-- The link at the end of every reason. -/
  helpLink : Option String := none

namespace CrossReference

/-- The identifier of the rule. -/
def identifier : String := "unused_swiftgen_strings"

/-- The name of the rule. -/
def name : String := "Unused SwiftGen String"

/-- The comparison with what its rule's block says. -/
def ofConfig (config : Config) (declarations usages : Source) (ignoreFiles : IgnoreReader) :
    Logged CrossReference := do
  let block := config.rule? identifier
  let severities ← SeverityMap.ofBlock block .warning
  match block with
  | none => return { declarations, usages, ignoreFiles, severities }
  | some block =>
    let ignored := (← block.texts? "ignored").getD []
    let inProgress := (← block.texts? "work_in_progress").getD []
    let helpLink ← block.text? "help_link"
    return { declarations, usages, ignoreFiles, ignored, inProgress, severities, helpLink }

/-! ## 3. Taking in files

A file is read once, when it is handed over.  What it declares is kept under its accessor, what it
uses under its key in small letters, and what an ignore file lists as it is written there. -/

/-- What is kept of the files that were read. -/
structure Intake where
  /-- Declared records under their accessors, each with its declared key as the comment. -/
  declared : List Record := []
  /-- Records of places that use a string, under their match keys. -/
  used : List Record := []
  /-- The entries of ignore files. -/
  exempt : List ExemptKey := []
  /-- The places at which an ignore file names no owner. -/
  ownerless : List Location := []

/-- A declared record under its accessor.  The key as it was declared takes the place of the
comment. -/
def toDeclared (r : Record) : Record :=
  { r with key := Accessor.ofKey r.key, comment := some r.key }

/-- The record of a place that uses a string, under its match key. -/
def toUsed (r : Record) : Record := { r with key := Accessor.matchKey r.key }

/-- Takes in a file. -/
def take (x : CrossReference) (i : Intake) (file : SourceFile) : Logged Intake := do
  let declared ← x.declarations.collect file
  let used ← x.usages.collect file
  let ignoreFile ← x.ignoreFiles.collect file
  return {
    declared := i.declared ++ declared.map toDeclared
    used := i.used ++ used.map toUsed
    exempt := i.exempt ++ ignoreFile.keys
    ownerless := i.ownerless ++ ignoreFile.ownerless }

/-- Takes in files, one by one. -/
def takeAll (x : CrossReference) (i : Intake) : List SourceFile → Logged Intake
  | [] => pure i
  | file :: files => do x.takeAll (← x.take i file) files

/-! ## 4. Keys -/

/-- The match keys of strings in progress. -/
def watchedKeys (x : CrossReference) (i : Intake) : List String :=
  x.inProgress.map Accessor.keyOf ++ i.exempt.map fun e => Accessor.keyOf e.key

/-- The match keys of strings that are used or may go unused. -/
def liveKeys (x : CrossReference) (i : Intake) : List String :=
  i.used.map Record.key ++ x.ignored.map Accessor.keyOf ++ x.watchedKeys i

/-! ## 5. Findings -/

/-- The violation of a finding at a place. -/
def violation (x : CrossReference) (finding : Rule.Finding) (location : Location) : Violation where
  rule := identifier
  name := name
  severity := x.severities.resolve finding.identifier
  location := location
  reason := Rule.withHelp x.helpLink finding.reason

/-- The violation of a declared record that nothing uses.  It names the declared key, and without one
there is none. -/
def unusedViolation? (x : CrossReference) (r : Record) : Option Violation :=
  match r.comment with
  | some key => if key = "" then none else some (x.violation (.unused key) r.location)
  | none => none

/-- The declared strings that nothing uses. -/
def unused (x : CrossReference) (i : Intake) : List Violation :=
  let live := x.liveKeys i
  let dead := i.declared.filter fun r => !live.contains (Accessor.matchKey r.key)
  dead.filterMap x.unusedViolation?

/-- The places that use a string in progress. -/
def referenced (x : CrossReference) (i : Intake) : List Violation :=
  let watched := x.watchedKeys i
  let early := i.used.filter fun r => watched.contains r.key
  early.map fun r => x.violation .referenced r.location

/-- The violations in what was taken in. -/
def findings (x : CrossReference) (i : Intake) : List Violation :=
  x.unused i ++ x.referenced i ++ i.ownerless.map (x.violation .missingOwner)

/-- The violations in files. -/
def violations (x : CrossReference) (files : List SourceFile) : List Violation :=
  x.findings (x.takeAll {} files).value

/-- The comparison as a rule. -/
def rule (x : CrossReference) : Rule where
  identifier := identifier
  name := name
  description := "L10n string is not used in the app"
  defaultSeverity := x.severities.default
  notices file := (x.take {} file).events
  violations := x.violations

/-- Every violation of the cross reference is that of some finding. -/
theorem exists_finding {x : CrossReference} {files : List SourceFile} {v : Violation}
    (hv : v ∈ x.violations files) : ∃ finding location, v = x.violation finding location := by
  simp only [violations, findings, unused, referenced, List.mem_append, List.mem_filterMap,
    List.mem_map] at hv
  rcases hv with (⟨r, -, hr⟩ | ⟨r, -, rfl⟩) | ⟨l, -, rfl⟩
  · unfold unusedViolation? at hr
    split at hr
    · split at hr
      · cases hr
      · cases hr; exact ⟨_, _, rfl⟩
    · cases hr
  · exact ⟨_, _, rfl⟩
  · exact ⟨_, _, rfl⟩

theorem rule_ownViolations (x : CrossReference) : x.rule.OwnViolations := by
  intro files v hv
  obtain ⟨finding, location, rfl⟩ := exists_finding hv
  rfl

end CrossReference

end CatalogLint
