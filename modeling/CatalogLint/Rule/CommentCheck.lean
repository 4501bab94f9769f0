/-
# The rules about structured comments

Every declared string must have a comment without fault.  Two rules ask for it: one checks comments
in full, the other by the legacy profile.  Each declared record is judged by itself, so a violation
never depends on another record.
-/
import CatalogLint.Comment.Validator
import CatalogLint.Rule.Basic
import CatalogLint.Source.Basic

namespace CatalogLint

/-- The identifier of the rule that checks comments by a profile. -/
def Comment.Profile.rule : Comment.Profile → String
  | full => "json_comment_rule"
  | legacy => "structured_placeholder_comment"

/-- The name of the rule that checks comments by a profile. -/
def Comment.Profile.title : Comment.Profile → String
  | full => "JSONCommentRule"
  | legacy => "StructuredPlaceholderComment"

/-- What the rule that checks comments by a profile is about. -/
def Comment.Profile.description : Comment.Profile → String
  | full => "Placeholder comment is incorrect"
  | legacy => "Structured placeholder comment is incorrect"

/-- A check of the comments of declared strings. -/
structure CommentCheck where
  /-- Where declared strings are read from. -/
  declarations : Source
  /-- What comments are checked against. -/
  validator : Comment.Validator := {}
  /-- The severities of faults. -/
  severities : SeverityMap := {}
  /-- The link at the end of every reason. -/
  helpLink : Option String := none

namespace CommentCheck

/-! ## 1. Configuration -/

/-- The full check with what its rule's block says. -/
def full (config : Config) (declarations : Source) : Logged CommentCheck := do
  let block := config.rule? Comment.Profile.full.rule
  let severities ← SeverityMap.ofBlock block .warning
  match block with
  | none => return { declarations, severities }
  | some block =>
    let vocabulary := (← block.texts? "valid_placeholders").getD []
    let helpLink ← block.text? "help_link"
    let validator : Comment.Validator := if vocabulary.isEmpty then {} else { vocabulary }
    return { declarations, validator, severities, helpLink }

/-- The legacy check with the severity of its rule's block.  It has one severity for all faults. -/
def legacy (config : Config) (declarations : Source) : Logged CommentCheck := do
  let severities ← SeverityMap.ofBlock (config.rule? Comment.Profile.legacy.rule) .warning
  return { declarations, validator := .legacy, severities := { default := severities.default } }

/-- The check by a profile, as it is configured. -/
def ofConfig (config : Config) (declarations : Source) : Comment.Profile → Logged CommentCheck
  | .full => full config declarations
  | .legacy => legacy config declarations

/-! ## 2. Verdicts -/

/-- The profile of the check. -/
def profile (c : CommentCheck) : Comment.Profile := c.validator.profile

/-- The declared records of files, as they were read. -/
def declared (c : CommentCheck) (files : List SourceFile) : List Record :=
  files.flatMap fun file => (c.declarations.collect file).value

/-- The violation of a record whose comment has a fault. -/
def violation (c : CommentCheck) (r : Record) (fault : Comment.Fault) : Violation where
  rule := c.profile.rule
  name := c.profile.title
  severity := c.severities.resolve fault.identifier
  location := r.location
  reason := Rule.withHelp c.helpLink (Rule.aboutComment r.key fault.reason)

/-- The violation of a record, if its comment has a fault. -/
def judge (c : CommentCheck) (r : Record) : Option Violation :=
  (c.validator.validate r).map (c.violation r)

/-- The violations in files. -/
def violations (c : CommentCheck) (files : List SourceFile) : List Violation :=
  (c.declared files).filterMap c.judge

/-- The check as a rule. -/
def rule (c : CommentCheck) : Rule where
  identifier := c.profile.rule
  name := c.profile.title
  description := c.profile.description
  defaultSeverity := c.severities.default
  notices file := (c.declarations.collect file).events
  violations := c.violations

/-- The violations in files are those of the declared records whose comment has a fault. -/
theorem mem_violations {c : CommentCheck} {files : List SourceFile} {v : Violation} :
    v ∈ c.violations files ↔
      ∃ r ∈ c.declared files, ∃ fault, c.validator.validate r = some fault ∧
        c.violation r fault = v := by
  simp only [violations, judge, List.mem_filterMap, Option.map_eq_some_iff]

theorem rule_ownViolations (c : CommentCheck) : c.rule.OwnViolations := by
  intro files v hv
  obtain ⟨r, -, fault, -, rfl⟩ := mem_violations.1 hv
  rfl

end CommentCheck

end CatalogLint
