/-
# What is detected, and how it is reported

A violation has two sides.  Something is detected: a record whose comment has a fault, or a finding
of the cross reference.  And it is reported in some way: with the severity that is set for its kind,
and with a link behind the reason.  Both sides are configured, but by different options.

* `Config.reported` is the second side.  All that a rule reports is reported by it
  (`CommentCheck.violation_ofConfig`, `CrossReference.violation_ofConfig`).
* `DetectsLike` says that two configurations agree on the options of the first side, and
  `Collaborators.ReadsLike` that two sets of readers give the same of every file.  Then what two runs
  find can differ in nothing but the way in which it is reported (`Config.DetectsLike.map_found_eq`).
-/
import CatalogLint.Proofs.Config.Options
import CatalogLint.Proofs.Run.Comparison

namespace CatalogLint

/-! ## 1. Reports of single violations -/

namespace Config

/-- The link at the end of the reasons of a rule.  The legacy check of comments has none, whatever its
block says. -/
def link? (c : Config) (rule : String) : Option String :=
  if rule = Comment.Profile.legacy.rule then none else c.read? Toml.Value.text? rule "help_link"

/-- The severity of a kind of violations of a rule.  The legacy check of comments has one severity
for all kinds. -/
def severityOf (c : Config) (rule kind : String) : Severity :=
  if rule = Comment.Profile.legacy.rule then (c.severities rule).default
  else (c.severities rule).resolve kind

/-- How a rule reports what it has detected. -/
def reported (c : Config) (rule name kind : String) (location : Location) (reason : String) :
    Violation where
  rule := rule
  name := name
  severity := c.severityOf rule kind
  location := location
  reason := Rule.withHelp (c.link? rule) reason

end Config

theorem CommentCheck.violation_ofConfig (c : Config) (s : Source) (profile : Comment.Profile)
    (r : Record) (fault : Comment.Fault) :
    (ofConfig c s profile).value.violation r fault =
      c.reported profile.rule profile.title fault.identifier r.location
        (Rule.aboutComment r.key fault.reason) := by
  cases profile with
  | full =>
    have hne : Comment.Profile.full.rule ≠ Comment.Profile.legacy.rule := by decide
    rw [ofConfig, value_full, Config.reported, Config.severityOf, Config.link?, if_neg hne,
      if_neg hne]
    rfl
  | legacy =>
    rw [ofConfig, value_legacy, Config.reported, Config.severityOf, Config.link?, if_pos rfl,
      if_pos rfl]
    rfl

theorem CrossReference.violation_ofConfig (c : Config) (declarations usages : Source)
    (ignoreFiles : IgnoreReader) (finding : Rule.Finding) (location : Location) :
    (ofConfig c declarations usages ignoreFiles).value.violation finding location =
      c.reported identifier name finding.identifier location finding.reason := by
  have hne : identifier ≠ Comment.Profile.legacy.rule := by decide
  rw [value_ofConfig, Config.reported, Config.severityOf, Config.link?, if_neg hne, if_neg hne]
  rfl

/-! ## 2. Runs that detect the same -/

/-- The preset with every rule has the rules of each other one. -/
theorem Preset.mem_identifiers_all {p : Preset} {rule : String} (h : rule ∈ p.identifiers) :
    rule ∈ all.identifiers := by
  revert rule
  cases p <;> decide

/-- `c.ReadsLike d`: whatever file is handed over, the readers of `c` and of `d` give the same. -/
structure Collaborators.ReadsLike (c d : Collaborators) : Prop where
  declarations : ∀ file,
    (c.declarationSource.collect file).value = (d.declarationSource.collect file).value
  usages : ∀ file, (c.usageSource.collect file).value = (d.usageSource.collect file).value
  ignoreFiles : ∀ file, (c.ignoreFiles.collect file).value = (d.ignoreFiles.collect file).value

theorem Collaborators.ReadsLike.refl (c : Collaborators) : c.ReadsLike c :=
  ⟨fun _ => rfl, fun _ => rfl, fun _ => rfl⟩

namespace Config

variable {β : Type} {f g : Violation → β} {c d : Config} {collaborators collaborators' : Collaborators}

/-- `c.DetectsLike d`: the options that decide what is detected have the same effect in both
configurations. -/
structure DetectsLike (c d : Config) : Prop where
  preset : (Preset.resolve c).value = (Preset.resolve d).value
  enabled : ∀ rule ∈ Preset.all.identifiers, (c.isEnabled rule).value = (d.isEnabled rule).value
  vocabulary : c.vocabulary = d.vocabulary
  ignored : c.read? Toml.Value.texts? CrossReference.identifier "ignored" =
    d.read? Toml.Value.texts? CrossReference.identifier "ignored"
  inProgress : c.read? Toml.Value.texts? CrossReference.identifier "work_in_progress" =
    d.read? Toml.Value.texts? CrossReference.identifier "work_in_progress"

theorem DetectsLike.refl (c : Config) : c.DetectsLike c :=
  ⟨rfl, fun _ _ => rfl, rfl, rfl, rfl⟩

/-- **Runs that detect the same agree where single reports do**: if what `f` keeps of a report under
`c` is what `g` keeps of it under `d`, they keep the same of all that is found. -/
theorem DetectsLike.map_found_eq (h : c.DetectsLike d)
    (hread : collaborators.ReadsLike collaborators')
    (hcheck : ∀ (profile : Comment.Profile) (r : Record) (fault : Comment.Fault),
      f (c.reported profile.rule profile.title fault.identifier r.location
          (Rule.aboutComment r.key fault.reason)) =
        g (d.reported profile.rule profile.title fault.identifier r.location
          (Rule.aboutComment r.key fault.reason)))
    (hcross : ∀ (finding : Rule.Finding) (location : Location),
      f (c.reported CrossReference.identifier CrossReference.name finding.identifier location
          finding.reason) =
        g (d.reported CrossReference.identifier CrossReference.name finding.identifier location
          finding.reason))
    (files : List SourceFile) :
    (c.found collaborators files).map f = (d.found collaborators' files).map g := by
  refine Config.map_found_eq h.preset (fun rule hrule => ?_) (fun profile => ?_) ?_
  · exact h.enabled rule (Preset.mem_identifiers_all hrule)
  · apply CommentCheck.map_violations_eq
    · intro file
      rw [CommentCheck.declarations_ofConfig, CommentCheck.declarations_ofConfig,
        hread.declarations]
    · cases profile with
      | full =>
        rw [CommentCheck.ofConfig, CommentCheck.ofConfig, CommentCheck.value_full,
          CommentCheck.value_full, h.vocabulary]
      | legacy =>
        rw [CommentCheck.ofConfig, CommentCheck.ofConfig, CommentCheck.value_legacy,
          CommentCheck.value_legacy]
    · intro r fault
      rw [CommentCheck.violation_ofConfig, CommentCheck.violation_ofConfig, hcheck]
  · apply CrossReference.map_violations_eq
    · rw [CrossReference.value_ofConfig, CrossReference.value_ofConfig]
      exact ⟨hread.declarations, hread.usages, hread.ignoreFiles⟩
    · rw [CrossReference.value_ofConfig, CrossReference.value_ofConfig, h.ignored]
    · rw [CrossReference.value_ofConfig, CrossReference.value_ofConfig, h.inProgress]
    · intro finding location
      rw [CrossReference.violation_ofConfig, CrossReference.violation_ofConfig, hcross]

/-- Runs that detect the same and report it alike find the same. -/
theorem DetectsLike.found_eq (h : c.DetectsLike d) (hread : collaborators.ReadsLike collaborators')
    (hcheck : ∀ (profile : Comment.Profile) (r : Record) (fault : Comment.Fault),
      c.reported profile.rule profile.title fault.identifier r.location
          (Rule.aboutComment r.key fault.reason) =
        d.reported profile.rule profile.title fault.identifier r.location
          (Rule.aboutComment r.key fault.reason))
    (hcross : ∀ (finding : Rule.Finding) (location : Location),
      c.reported CrossReference.identifier CrossReference.name finding.identifier location
          finding.reason =
        d.reported CrossReference.identifier CrossReference.name finding.identifier location
          finding.reason)
    (files : List SourceFile) : c.found collaborators files = d.found collaborators' files := by
  have hfound := h.map_found_eq (f := id) (g := id) hread hcheck hcross files
  rwa [List.map_id, List.map_id] at hfound

end Config

end CatalogLint
