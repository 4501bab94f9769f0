/-
# A reason tells the kind, and the kind the severity

A report is sorted by place, rule and reason.  The severity of a violation does not take part, so
nobody could tell in which order two violations of one rule with the same reason should stand, if one
of them was an error and the other was not.  There are no such violations.

* Reasons are told apart by their kinds, whatever users write into them: `Proofs.Reason` has this for
  the violations of one check and of one comparison.
* All that a run finds is reported as its configuration says, and not otherwise (`Config.Reports`,
  `Config.reports_of_mem_found`).  So what holds of one check holds of a configuration: rule and reason
  decide the severity, also between runs with other readers over other files
  (`Config.Reports.severity_eq`).
-/
import CatalogLint.Proofs.Reason
import CatalogLint.Proofs.Run.Detection

namespace CatalogLint

/-! ## 1. What a configuration reports -/

namespace Config

variable {config : Config} {c : Collaborators} {files : List SourceFile} {v w : Violation}

/-- The violations that may come up under a configuration, whatever is read. -/
inductive Reports (config : Config) : Violation → Prop
  /-- A check of comments reports a fault of a record. -/
  | comment (profile : Comment.Profile) (r : Record) (fault : Comment.Fault) :
      Reports config (config.reported profile.rule profile.title fault.identifier r.location
        (Rule.aboutComment r.key fault.reason))
  /-- The cross reference reports a finding at a place. -/
  | crossReference (finding : Rule.Finding) (location : Location) :
      Reports config (config.reported CrossReference.identifier CrossReference.name
        finding.identifier location finding.reason)

/-- Whatever is found is reported as the configuration says. -/
theorem reports_of_mem_found (h : v ∈ config.found c files) : config.Reports v := by
  rw [found_eq, List.mem_append, List.mem_flatMap] at h
  rcases h with ⟨profile, -, hv⟩ | hv
  · split at hv
    · obtain ⟨r, -, fault, -, rfl⟩ := CommentCheck.mem_violations.1 hv
      rw [CommentCheck.violation_ofConfig]
      exact .comment profile r fault
    · exact absurd hv List.not_mem_nil
  · split at hv
    · obtain ⟨finding, location, rfl⟩ := CrossReference.exists_finding hv
      rw [CrossReference.violation_ofConfig]
      exact .crossReference finding location
    · exact absurd hv List.not_mem_nil

theorem reports_of_mem_lint (h : v ∈ (lint files config c).value.violations) :
    config.Reports v := by
  rw [value_lint_found] at h
  exact reports_of_mem_found ((Violation.sort_perm _).mem_iff.1 h)

/-- **Rule and reason decide the severity.** -/
theorem Reports.severity_eq (hv : config.Reports v) (hw : config.Reports w)
    (hrule : v.rule = w.rule) (hreason : v.reason = w.reason) : v.severity = w.severity := by
  -- the rule comes first: only violations of one rule have the same link
  cases hv with
  | comment profile r f =>
    cases hw with
    | comment profile' s g =>
      obtain rfl : profile = profile' := Comment.Profile.rule_injective hrule
      have hkind : f.identifier = g.identifier :=
        Comment.Fault.identifier_eq_of_aboutComment_eq (Rule.withHelp_inj hreason)
      exact congrArg (config.severityOf profile.rule) hkind
    | crossReference b m => exact absurd hrule profile.rule_ne
  | crossReference a l =>
    cases hw with
    | comment profile' s g => exact absurd hrule.symm profile'.rule_ne
    | crossReference b m =>
      obtain rfl : a = b := Rule.Finding.reason_injective (Rule.withHelp_inj hreason)
      rfl

end Config

/-! ## 2. Kinds and severities -/

/-- **A reason tells the kind, and the kind the severity.**  Keys, names of placeholders and links may
hold any text, other reasons included.  (i) Two violations about comments that give one reason, with
the same link or without one, are about one kind of fault.  (ii) Two violations of the cross reference
give one reason, with the same link or without one, exactly when they are of one finding: one kind,
and one key if a string is unused.  (iii) Violations of one check, or (iv) of one comparison, that give
one reason have one severity, also when they are found in different files.  (v) So have violations of
one rule in the reports of a configuration. -/
theorem reason_tells_kind :
    (∀ (c c' : CommentCheck) (r r' : Record) (f g : Comment.Fault), c.helpLink = c'.helpLink →
        (c.violation r f).reason = (c'.violation r' g).reason → f.identifier = g.identifier) ∧
      (∀ (x x' : CrossReference) (a b : Rule.Finding) (l m : Location), x.helpLink = x'.helpLink →
        ((x.violation a l).reason = (x'.violation b m).reason ↔ a = b)) ∧
      (∀ (c : CommentCheck) (files files' : List SourceFile), ∀ v ∈ c.rule.violations files,
        ∀ w ∈ c.rule.violations files', v.reason = w.reason → v.severity = w.severity) ∧
      (∀ (x : CrossReference) (files files' : List SourceFile), ∀ v ∈ x.rule.violations files,
        ∀ w ∈ x.rule.violations files', v.reason = w.reason → v.severity = w.severity) ∧
      ∀ (config : Config) (c c' : Collaborators) (files files' : List SourceFile),
        ∀ v ∈ (lint files config c).value.violations,
          ∀ w ∈ (lint files' config c').value.violations,
            v.rule = w.rule → v.reason = w.reason → v.severity = w.severity := by
  refine ⟨fun c c' r r' f g hlink h => CommentCheck.identifier_eq_of_reason_eq hlink h,
    fun x x' a b l m hlink => CrossReference.reason_eq_iff hlink,
    fun c files files' v hv w hw h => CommentCheck.severity_eq_of_reason_eq hv hw h,
    fun x files files' v hv w hw h => CrossReference.severity_eq_of_reason_eq hv hw h, ?_⟩
  intro config c c' files files' v hv w hw hrule hreason
  exact (Config.reports_of_mem_lint hv).severity_eq (Config.reports_of_mem_lint hw) hrule hreason

/-- A check of the comments of keys, with a link. -/
def CommentCheck.linked : CommentCheck where
  declarations := Collaborators.ofKeys.declarationSource
  helpLink := some "more"

/-- A comparison of keys, with a link. -/
def CrossReference.linked : CrossReference where
  declarations := Collaborators.ofKeys.declarationSource
  usages := Collaborators.ofKeys.usageSource
  helpLink := some "more"

/-- A key that holds the beginning of a reason, so that two faults give one text; a key that holds a
whole reason of another kind; and a key without a comment, declared in two files. -/
theorem reason_tells_kind_quoted :
    (CommentCheck.linked.violation { key := "a" } (.unknownKey "b\" the key c")).reason =
        (CommentCheck.linked.violation { key := "a\" the key b" } (.unknownKey "c")).reason ∧
      Comment.Fault.identifier (.unknownKey "b\" the key c") =
        Comment.Fault.identifier (.unknownKey "c") ∧
      (CrossReference.linked.violation
          (.unused "This string is marked as WIP but is referenced here.") {}).reason ≠
        (CrossReference.linked.violation .referenced {}).reason ∧
      (∃ v ∈ CommentCheck.linked.rule.violations [⟨"a.strings", "key"⟩],
        ∃ w ∈ CommentCheck.linked.rule.violations [⟨"b.strings", "key"⟩],
          v.location ≠ w.location ∧ v.reason = w.reason ∧ v.severity = w.severity) ∧
      (∃ v ∈ CrossReference.linked.rule.violations [⟨"a.strings", "key"⟩],
        ∃ w ∈ CrossReference.linked.rule.violations [⟨"b.strings", "key"⟩],
          v.location ≠ w.location ∧ v.reason = w.reason ∧ v.severity = w.severity) ∧
      ∃ v ∈ (lint [⟨"a.strings", "key"⟩] {} .ofKeys).value.violations,
        ∃ w ∈ (lint [⟨"b.strings", "key"⟩] {} .ofKeys).value.violations,
          v.location ≠ w.location ∧ v.rule = w.rule ∧ v.reason = w.reason ∧
            v.severity = w.severity := by
  have hquoted : (CommentCheck.linked.violation { key := "a" } (.unknownKey "b\" the key c")).reason =
      (CommentCheck.linked.violation { key := "a\" the key b" } (.unknownKey "c")).reason := by
    decide
  have hcomment : ∀ file ∈ ["a.strings", "b.strings"],
      CommentCheck.linked.violation { key := "key", location := { file } } .invalidJson ∈
        CommentCheck.linked.rule.violations [⟨file, "key"⟩] := by
    decide
  have hunused : ∀ file ∈ ["a.strings", "b.strings"],
      CrossReference.linked.violation (.unused "key") { file } ∈
        CrossReference.linked.rule.violations [⟨file, "key"⟩] := by
    decide +kernel
  have hlint : ∀ file ∈ ["a.strings", "b.strings"],
      ({} : Config).reported "json_comment_rule" "JSONCommentRule" "invalidJSON" { file }
          (Rule.aboutComment "key" "is not valid JSON") ∈
        (lint [⟨file, "key"⟩] {} .ofKeys).value.violations := by
    simp only [value_lint_found, (Violation.sort_perm _).mem_iff]
    decide
  have ha : "a.strings" ∈ ["a.strings", "b.strings"] := by decide
  have hb : "b.strings" ∈ ["a.strings", "b.strings"] := by decide
  refine ⟨hquoted, reason_tells_kind.1 _ _ _ _ _ _ rfl hquoted,
    (reason_tells_kind.2.1 _ _ _ _ _ _ rfl).not.2 (by decide),
    ⟨_, hcomment _ ha, _, hcomment _ hb, by decide, rfl, ?_⟩,
    ⟨_, hunused _ ha, _, hunused _ hb, by decide, rfl, ?_⟩,
    ⟨_, hlint _ ha, _, hlint _ hb, by decide, rfl, rfl, ?_⟩⟩
  · exact reason_tells_kind.2.2.1 _ _ _ _ (hcomment _ ha) _ (hcomment _ hb) rfl
  · exact reason_tells_kind.2.2.2.1 _ _ _ _ (hunused _ ha) _ (hunused _ hb) rfl
  · exact reason_tells_kind.2.2.2.2 _ _ _ _ _ _ (hlint _ ha) _ (hlint _ hb) rfl rfl

end CatalogLint
