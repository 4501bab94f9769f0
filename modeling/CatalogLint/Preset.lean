/-
# Presets

A preset names a set of rules.  A configuration chooses one by its name, with white space around it
and in any ASCII case; without a name, or with one that is no preset's, the recommended one is taken.
Every preset checks comments by some profiles and ends with the cross reference.  All its rules read
the same declarations.
-/
import CatalogLint.Rule.CommentCheck
import CatalogLint.Rule.CrossReference
import CatalogLint.Source.Composition

namespace CatalogLint

/-! ## 1. Names -/

/-- A set of rules. -/
inductive Preset
  /-- The full check of comments and the cross reference. -/
  | recommended
  /-- The check of placeholders only and the cross reference. -/
  | legacy
  /-- Every rule. -/
  | all
  deriving DecidableEq, Repr

namespace Preset

/-- The presets. -/
def presets : List Preset := [recommended, legacy, all]

/-- The name by which a configuration chooses a preset. -/
def name : Preset → String
  | recommended => "recommended"
  | legacy => "legacy"
  | all => "all"

/-- The name of a preset in a log. -/
def title : Preset → String
  | recommended => "Recommended"
  | legacy => "Legacy"
  | all => "All"

/-- The preset of a name. -/
def ofName? (text : String) : Option Preset := presets.find? fun p => Text.spells p.name text

/-- The preset that a configuration chooses. -/
def resolve (c : Config) : Logged Preset :=
  match c.preset with
  | none => pure recommended
  | some text =>
    match ofName? text with
    | some p => pure p
    | none => do
      Logged.log (.unknownPreset text)
      return recommended

end Preset

/-! ## 2. Rules -/

/-- The readers that rules are built from. -/
structure Collaborators where
  /-- Readers of declared strings. -/
  declarations : List Source := []
  /-- Readers of uses. -/
  usages : List Source := []
  /-- Reader of ignore files. -/
  ignoreFiles : IgnoreReader := .absent

namespace Collaborators

/-- The readers of declared strings as one. -/
def declarationSource (c : Collaborators) : Source := .compose c.declarations

/-- The readers of uses as one. -/
def usageSource (c : Collaborators) : Source := .compose c.usages

end Collaborators

namespace Preset

/-- The profiles by which a preset checks comments. -/
def profiles : Preset → List Comment.Profile
  | recommended => [.full]
  | legacy => [.legacy]
  | all => [.full, .legacy]

/-- The identifiers of the rules of a preset. -/
def identifiers (p : Preset) : List String :=
  p.profiles.map Comment.Profile.rule ++ [CrossReference.identifier]

/-- The rules of a preset, as they are configured. -/
def rules (p : Preset) (config : Config) (c : Collaborators) : Logged (List Rule) := do
  let checks ← p.profiles.mapM (CommentCheck.ofConfig config c.declarationSource)
  let crossReference ← CrossReference.ofConfig config c.declarationSource c.usageSource c.ignoreFiles
  return checks.map CommentCheck.rule ++ [crossReference.rule]

theorem profile_ofConfig (config : Config) (s : Source) (profile : Comment.Profile) :
    (CommentCheck.ofConfig config s profile).value.profile = profile := by
  cases profile with
  | full =>
    simp only [CommentCheck.ofConfig, CommentCheck.full, Logged.value_bind]
    cases config.rule? Comment.Profile.full.rule with
    | none => rfl
    | some block =>
      simp only [Logged.value_bind, Logged.value_pure, CommentCheck.profile]
      split <;> rfl
  | legacy => rfl

theorem value_rules (p : Preset) (config : Config) (c : Collaborators) :
    (p.rules config c).value =
      (p.profiles.map fun profile =>
        (CommentCheck.ofConfig config c.declarationSource profile).value.rule) ++
      [(CrossReference.ofConfig config c.declarationSource c.usageSource c.ignoreFiles).value.rule] := by
  simp [rules]

/-- The rules of a preset have the identifiers of the preset, whatever is configured. -/
theorem identifier_rules (p : Preset) (config : Config) (c : Collaborators) :
    (p.rules config c).value.map Rule.identifier = p.identifiers := by
  rw [value_rules]
  simp [identifiers, CommentCheck.rule, profile_ofConfig, CrossReference.rule]

theorem rules_ownViolations (p : Preset) (config : Config) (c : Collaborators) :
    ∀ r ∈ (p.rules config c).value, r.OwnViolations := by
  intro r hr
  rw [value_rules] at hr
  simp only [List.mem_append, List.mem_map, List.mem_singleton] at hr
  rcases hr with ⟨profile, -, rfl⟩ | rfl
  · exact CommentCheck.rule_ownViolations _
  · exact CrossReference.rule_ownViolations _

end Preset

end CatalogLint
