/-
# What rules have in common

A rule looks at the files of a run and reports violations.  It may notice something while it reads
one file, but what it reports depends on all of them: a later file can clear what an earlier one
showed.

Each kind of finding has a severity: its own if one is set, else that of the rule.
`SeverityMap.ofBlock` reads both from the options of a rule; what names no severity is ignored, one
entry at a time.  A reason is given in sentences, and may end with a link to more.
-/
import CatalogLint.Config.Basic
import CatalogLint.Violation

namespace CatalogLint

/-! ## 1. Rules -/

/-- A rule of a run. -/
structure Rule where
  /-- The name by which a configuration knows the rule. -/
  identifier : String
  /-- The name of the rule for a reader. -/
  name : String
  /-- What the rule checks. -/
  description : String := ""
  /-- The severity of violations for which nothing else is set. -/
  defaultSeverity : Severity := .warning
  /-- What is noticed while a file is read. -/
  notices : SourceFile → List Event := fun _ => []
  /-- The violations in files that were read in the given order. -/
  violations : List SourceFile → List Violation

/-- A rule that reports under its own identifier only. -/
def Rule.OwnViolations (r : Rule) : Prop :=
  ∀ files, ∀ v ∈ r.violations files, v.rule = r.identifier

/-! ## 2. Severities -/

/-- Severities by kind of finding. -/
structure SeverityMap where
  /-- The severity of kinds that have none of their own. -/
  default : Severity := .warning
  /-- The severities of kinds that have one. -/
  overrides : Table Severity := []

namespace SeverityMap

/-- Sets the severity of a kind. -/
def withOverride (m : SeverityMap) (kind : String) (s : Severity) : SeverityMap :=
  { m with overrides := Table.insert kind s m.overrides }

/-- The severity of a kind. -/
def resolve (m : SeverityMap) (kind : String) : Severity :=
  (Table.get? m.overrides kind).getD m.default

/-- Reads the severity that an option names. -/
def read? (key name : String) : Logged (Option Severity) :=
  match Severity.parse name with
  | .ok s => pure (some s)
  | .error e => do
    Logged.log (.ignoredSeverity key e)
    return none

/-- Reads the severities that a table names, by key. -/
def readEntries : List (String × String) → Logged (Table Severity)
  | [] => pure []
  | (kind, name) :: entries => do
    let s ← read? kind name
    let rest ← readEntries entries
    return match s with
      | some s => (kind, s) :: rest
      | none => rest

/-- The severity of a rule: its option, if that names one, else the given one. -/
def readDefault (b : RuleBlock) (default : Severity) : Logged Severity := do
  match ← b.text? "severity" with
  | none => return default
  | some name => return (← read? "severity" name).getD default

/-- Reads the severities of a rule from its options. -/
def ofBlock (block : Option RuleBlock) (default : Severity) : Logged SeverityMap :=
  match block with
  | none => pure { default }
  | some b => do
    let default ← readDefault b default
    let named ← b.textTable? "severity_map"
    let overrides ← readEntries (named.getD [])
    return { default, overrides }

end SeverityMap

/-! ## 3. Reasons -/

namespace Rule

/-- A reason with a link at its end, if there is one. -/
def withHelp (link : Option String) (reason : String) : String :=
  match link with
  | some link => reason ++ " For more information, please see: " ++ link
  | none => reason

/-- The sentence about the comment of a string. -/
def aboutComment (key fault : String) : String :=
  "Comment for Localized string \"" ++ key ++ "\" " ++ fault

end Rule

end CatalogLint
