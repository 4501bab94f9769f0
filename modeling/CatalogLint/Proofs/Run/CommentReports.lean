/-
# Reports about comments

What a whole run reports about comments, traced back to the readers: one violation for each record
that some reader of declarations yields for some file and that the validator rejects.  Between the
readers and the report lie the composition of readers, the choice of the preset, the switch of the
rule, the sorting of the report and the options of the rule; none of them loses a record or takes one
twice.

* `CommentCheck.violations_compose` undoes the composition: records are judged file by file and
  reader by reader, and each by itself.
* `Config.Runs.check_mem` finds the check among the rules of the run, as it is configured.
* `comment_reports` states the two checks side by side.  They share the validator and the reason, and
  differ in what they take from the options: the full check takes a vocabulary, severities by kind of
  fault and a link, the legacy check nothing but one severity.
-/
import CatalogLint.Proofs.Run.Isolation
import CatalogLint.Proofs.Yield

namespace CatalogLint

/-! ## 1. From readers to verdicts -/

/-- **Each record is judged once**, by itself, for every file and every reader that yields it. -/
theorem CommentCheck.violations_compose (x : CommentCheck) {readers : List Source}
    (h : x.declarations = .compose readers) (files : List SourceFile) :
    x.violations files = files.flatMap fun file => readers.flatMap fun reader =>
      (reader.yield file).filterMap x.judge := by
  rw [violations, declared_eq_yieldAll, h, Source.yieldAll, List.filterMap_flatMap]
  simp only [Source.yield_compose, List.filterMap_flatMap]

/-- The check by a profile is a rule of the run, if the configuration lets it run. -/
theorem Config.Runs.check_mem {config : Config} {profile : Comment.Profile}
    (h : config.Runs profile.rule) (c : Collaborators) :
    (CommentCheck.ofConfig config c.declarationSource profile).value.rule ∈
      config.activeRules c := by
  have hprofile : profile ∈ (Preset.resolve config).value.profiles := by
    rcases List.mem_append.1 h.1 with hmem | hmem
    · obtain ⟨p, hp, hrule⟩ := List.mem_map.1 hmem
      exact Comment.Profile.rule_injective hrule ▸ hp
    · exact absurd (List.mem_singleton.1 hmem) profile.rule_ne
  refine Config.mem_activeRules.2 ⟨?_, ?_⟩
  · rw [Preset.value_rules]
    exact List.mem_append_left _ (List.mem_map.2 ⟨profile, hprofile, rfl⟩)
  · rw [CommentCheck.identifier_rule_ofConfig]
    exact h.2

/-- The part of a check of comments in the report of a run. -/
theorem ofRule_lint_perm {config : Config} (profile : Comment.Profile)
    (h : config.Runs profile.rule) (c : Collaborators) (files : List SourceFile) :
    ((lint files config c).value.ofRule profile.rule).Perm
      (files.flatMap fun file => c.declarations.flatMap fun reader =>
        (reader.yield file).filterMap
          (CommentCheck.ofConfig config c.declarationSource profile).value.judge) := by
  have hpart := ofRule_lint (h.check_mem c) files
  rw [CommentCheck.identifier_rule_ofConfig] at hpart
  have hsource := CommentCheck.declarations_ofConfig config c.declarationSource profile
  rw [hpart, ← CommentCheck.violations_compose _ hsource]
  exact Violation.sort_perm _

/-! ## 2. The two checks -/

/-- **Reports about comments are exact.**  (i) The full check, where it runs, reports one violation
for each record that a reader yields for a file and that is rejected with the configured vocabulary:
at the place of the record, with the severity of the kind of fault, and with the key, the fault and
the configured link in its reason.  (ii) The legacy check, where it runs, reports one violation for
each such record that is rejected by the legacy profile, with one severity and no link, whatever else
its options say.  (iii) A check that does not run reports nothing. -/
theorem comment_reports (config : Config) (c : Collaborators) (files : List SourceFile) :
    (config.Runs "json_comment_rule" →
      ((lint files config c).value.ofRule "json_comment_rule").Perm
        (files.flatMap fun file => c.declarations.flatMap fun reader =>
          (reader.yield file).filterMap fun record =>
            ({ vocabulary := config.vocabulary, profile := .full : Comment.Validator }.validate
              record).map fun fault =>
              { rule := "json_comment_rule"
                name := "JSONCommentRule"
                severity := (config.severities "json_comment_rule").resolve fault.identifier
                location := record.location
                reason :=
                  Rule.withHelp (config.read? Toml.Value.text? "json_comment_rule" "help_link")
                    (Rule.aboutComment record.key fault.reason) })) ∧
      (config.Runs "structured_placeholder_comment" →
        ((lint files config c).value.ofRule "structured_placeholder_comment").Perm
          (files.flatMap fun file => c.declarations.flatMap fun reader =>
            (reader.yield file).filterMap fun record =>
              (Comment.Validator.legacy.validate record).map fun fault =>
                { rule := "structured_placeholder_comment"
                  name := "StructuredPlaceholderComment"
                  severity := (config.severities "structured_placeholder_comment").default
                  location := record.location
                  reason := Rule.aboutComment record.key fault.reason })) ∧
      ∀ profile : Comment.Profile, ¬ config.Runs profile.rule →
        (lint files config c).value.ofRule profile.rule = [] := by
  refine ⟨fun h => ?_, fun h => ?_, fun profile h => ofRule_lint_of_not_runs h c files⟩
  · have hperm := ofRule_lint_perm .full h c files
    rw [CommentCheck.ofConfig, CommentCheck.value_full] at hperm
    exact hperm
  · have hperm := ofRule_lint_perm .legacy h c files
    rw [CommentCheck.ofConfig, CommentCheck.value_legacy] at hperm
    exact hperm

/-- A string without a comment, checked in full, by the legacy profile, and by the latter only.  The last
run is configured with a link and with a severity for the fault of this string. -/
theorem comment_reports_missing :
    let linked : Config :=
      { rules := [("json_comment_rule", .ofOptions [("help_link", .string "https://a.b"),
          ("severity_map", .table [("invalidJSON", .string "error")])])] }
    Config.Runs { preset := some "all" } "json_comment_rule" ∧
      Config.Runs { preset := some "all" } "structured_placeholder_comment" ∧
      ¬ Config.Runs { preset := some "legacy" } Comment.Profile.full.rule ∧
      linked.Runs "json_comment_rule" ∧
      ((lint [⟨"a.strings", "key"⟩] { preset := some "all" } .ofKeys).value.ofRule
        "json_comment_rule").Perm
          [{ rule := "json_comment_rule"
             name := "JSONCommentRule"
             severity := .warning
             location := { file := "a.strings" }
             reason := "Comment for Localized string \"key\" is not valid JSON" }] ∧
      ((lint [⟨"a.strings", "key"⟩] { preset := some "all" } .ofKeys).value.ofRule
        "structured_placeholder_comment").Perm
          [{ rule := "structured_placeholder_comment"
             name := "StructuredPlaceholderComment"
             severity := .warning
             location := { file := "a.strings" }
             reason := "Comment for Localized string \"key\" is not valid JSON" }] ∧
      (lint [⟨"a.strings", "key"⟩] { preset := some "legacy" } .ofKeys).value.ofRule
        Comment.Profile.full.rule = [] ∧
      ((lint [⟨"a.strings", "key"⟩] linked .ofKeys).value.ofRule "json_comment_rule").Perm
        [{ rule := "json_comment_rule"
           name := "JSONCommentRule"
           severity := .error
           location := { file := "a.strings" }
           reason := "Comment for Localized string \"key\" is not valid JSON" ++
             " For more information, please see: https://a.b" }] := by
  intro linked
  have hfull : Config.Runs { preset := some "all" } "json_comment_rule" := by decide
  have hlegacy : Config.Runs { preset := some "all" } "structured_placeholder_comment" := by decide
  have hoff : ¬ Config.Runs { preset := some "legacy" } Comment.Profile.full.rule := by decide
  have hlinked : linked.Runs "json_comment_rule" := by decide
  exact ⟨hfull, hlegacy, hoff, hlinked,
    (comment_reports _ .ofKeys [⟨"a.strings", "key"⟩]).1 hfull,
    (comment_reports _ .ofKeys [⟨"a.strings", "key"⟩]).2.1 hlegacy,
    (comment_reports _ .ofKeys [⟨"a.strings", "key"⟩]).2.2 .full hoff,
    (comment_reports _ .ofKeys [⟨"a.strings", "key"⟩]).1 hlinked⟩

end CatalogLint
