/-
# The order of files does not matter

Two runs over the same files in another order give the same report: as many files checked, and at
every position violations that agree in everything, their paths read part by part.

Three things could go wrong, and each has its own lemma.

* A rule could find other violations.  What a reader yields is permuted with the files, and which
  match keys are live or watched is a matter of membership (`live_perm`, `watched_perm`), so each
  rule finds the same violations, perhaps in another order (`CommentCheck.rule_orderFree`,
  `CrossReference.rule_orderFree`).
* Tied violations could differ in severity or name, and then the report would show in which order
  they came.  Within one rule the reason fixes the kind, and the kind the severity
  (`CommentCheck.rule_reasonDecides`, `CrossReference.rule_reasonDecides`).
* Tied violations could come from two rules.  They carry the same identifier, and identifiers differ
  between the rules of a run (`same_of_tied`).
-/
import CatalogLint.Proofs.CrossReference.Findings
import CatalogLint.Proofs.Reason
import CatalogLint.Proofs.Run.Rules
import CatalogLint.Proofs.Violation.Sorting
import Mathlib.Data.List.Perm.Basic

namespace CatalogLint

variable {xs ys : List SourceFile}

/-! ## 1. What a rule owes -/

/-- A rule that finds the same violations in the same files, whatever their order. -/
def Rule.OrderFree (r : Rule) : Prop :=
  ∀ ⦃xs ys : List SourceFile⦄, xs.Perm ys → (r.violations xs).Perm (r.violations ys)

/-- A rule whose violations have the same name and severity when they give the same reason. -/
def Rule.ReasonDecides (r : Rule) : Prop :=
  ∀ files, ∀ v ∈ r.violations files, ∀ w ∈ r.violations files, v.reason = w.reason →
    v.name = w.name ∧ v.severity = w.severity

/-! ## 2. Comments -/

namespace CommentCheck

theorem rule_orderFree (c : CommentCheck) : c.rule.OrderFree := by
  intro xs ys h
  have hdeclared : (c.declared xs).Perm (c.declared ys) := by
    rw [declared_eq_yieldAll, declared_eq_yieldAll]
    exact c.declarations.yieldAll_perm h
  exact hdeclared.filterMap c.judge

theorem rule_reasonDecides (c : CommentCheck) : c.rule.ReasonDecides := by
  intro files v hv w hw hreason
  have hseverity : v.severity = w.severity := severity_eq_of_reason_eq hv hw hreason
  obtain ⟨r, -, f, -, rfl⟩ := mem_violations.1 hv
  obtain ⟨s, -, g, -, rfl⟩ := mem_violations.1 hw
  exact ⟨rfl, hseverity⟩

end CommentCheck

/-! ## 3. The cross reference -/

namespace CrossReference

theorem exempt_perm (x : CrossReference) (h : xs.Perm ys) (k : String) :
    x.Exempt xs k ↔ x.Exempt ys k := by
  simp only [Exempt, (x.ignoreFiles.parsed_perm h).mem_iff]

theorem watched_perm (x : CrossReference) (h : xs.Perm ys) (k : String) :
    x.Watched xs k ↔ x.Watched ys k :=
  or_congr Iff.rfl (x.exempt_perm h k)

theorem live_perm (x : CrossReference) (h : xs.Perm ys) (k : String) :
    x.Live xs k ↔ x.Live ys k := by
  refine or_congr ?_ (or_congr Iff.rfl (x.watched_perm h k))
  simp only [Used, (x.usages.yieldAll_perm h).mem_iff]

theorem rule_orderFree (x : CrossReference) : x.rule.OrderFree := by
  intro xs ys h
  have hx := holds_run x xs
  have hy := holds_run x ys
  have hunused : (x.unused (x.takeAll {} xs).value).Perm (x.unused (x.takeAll {} ys).value) := by
    rw [unused_eq hx, unused_eq hy]
    simp only [x.live_perm h]
    exact ((x.declarations.yieldAll_perm h).filter _).map _
  have hreferenced :
      (x.referenced (x.takeAll {} xs).value).Perm (x.referenced (x.takeAll {} ys).value) := by
    rw [referenced_eq hx, referenced_eq hy]
    simp only [x.watched_perm h]
    exact ((x.usages.yieldAll_perm h).filter _).map _
  have hownerless :
      ((x.takeAll {} xs).value.ownerless.map (x.violation .missingOwner)).Perm
        ((x.takeAll {} ys).value.ownerless.map (x.violation .missingOwner)) := by
    rw [ownerless_eq hx, ownerless_eq hy]
    exact (x.ignoreFiles.parsed_perm h).flatMap_right _
  exact (hunused.append hreferenced).append hownerless

theorem rule_reasonDecides (x : CrossReference) : x.rule.ReasonDecides := by
  intro files v hv w hw hreason
  have hseverity : v.severity = w.severity := severity_eq_of_reason_eq hv hw hreason
  obtain ⟨a, l, rfl⟩ := exists_finding hv
  obtain ⟨b, m, rfl⟩ := exists_finding hw
  exact ⟨rfl, hseverity⟩

end CrossReference

/-! ## 4. Whole runs -/

/-- The rules of every run owe what is needed. -/
theorem Config.activeRules_lawful (config : Config) (c : Collaborators) :
    ∀ r ∈ config.activeRules c, r.OrderFree ∧ r.ReasonDecides := by
  intro r hr
  have hrule := (Config.mem_activeRules.1 hr).1
  rw [Preset.value_rules, List.mem_append, List.mem_map, List.mem_singleton] at hrule
  rcases hrule with ⟨profile, -, rfl⟩ | rfl
  · exact ⟨CommentCheck.rule_orderFree _, CommentCheck.rule_reasonDecides _⟩
  · exact ⟨CrossReference.rule_orderFree _, CrossReference.rule_reasonDecides _⟩

/-- **Tied violations of a run are the same.**  They come from one rule, which gives one reason. -/
theorem same_of_tied (config : Config) (c : Collaborators) (files : List SourceFile)
    {v w : Violation}
    (hv : v ∈ (config.activeRules c).flatMap fun r => r.violations files)
    (hw : w ∈ (config.activeRules c).flatMap fun r => r.violations files)
    (h : Violation.tied v w = true) : v.same w = true := by
  obtain ⟨r, hr, hvr⟩ := List.mem_flatMap.1 hv
  obtain ⟨s, hs, hws⟩ := List.mem_flatMap.1 hw
  obtain ⟨-, hrule, hreason⟩ := Violation.compare_eq_iff.1 (Violation.tied_iff.1 h)
  have hown := config.activeRules_ownViolations c
  have hid : r.identifier = s.identifier := by
    rw [← hown r hr files v hvr, ← hown s hs files w hws, hrule]
  obtain rfl : r = s := (config.activeRules_distinct c).eq hr hs hid
  have hdecides := (config.activeRules_lawful c r hr).2
  exact Violation.same_iff.2 ⟨h, hdecides files v hvr w hws hreason⟩

/-- What the rules of a run find is permuted with the files. -/
theorem Config.flatMap_activeRules_perm (config : Config) (c : Collaborators) (h : xs.Perm ys) :
    ((config.activeRules c).flatMap fun r => r.violations xs).Perm
      ((config.activeRules c).flatMap fun r => r.violations ys) :=
  List.Perm.flatMap_left _ fun r hr => (config.activeRules_lawful c r hr).1 h

/-- **The report does not depend on the order of the files.**  The same files in another order give
the same number of files checked and, position by position, violations that agree in rule, name,
severity, place and reason.  Nothing is asked of the files: they may repeat, several readers may read
one of them, and ignore files may stand anywhere. -/
theorem lint_perm (h : xs.Perm ys) (config : Config) (c : Collaborators) :
    (lint xs config c).value.filesChecked = (lint ys config c).value.filesChecked ∧
      List.Forall₂ (fun v w => v.same w = true) (lint xs config c).value.violations
        (lint ys config c).value.violations := by
  rw [value_lint, value_lint]
  refine ⟨h.length_eq, ?_⟩
  exact Violation.forall₂_same_sort (config.flatMap_activeRules_perm c h)
    fun v hv w hw => same_of_tied config c xs hv hw

/-- A key is declared twice, and exempt after the first or after both. -/
theorem lint_perm_exempt_last :
    [⟨"a.strings", "key"⟩, ⟨"b.ignore", "key"⟩, ⟨"a.strings", "key"⟩].Perm
        [⟨"a.strings", "key"⟩, ⟨"a.strings", "key"⟩, (⟨"b.ignore", "key"⟩ : SourceFile)] ∧
      (lint [⟨"a.strings", "key"⟩, ⟨"b.ignore", "key"⟩, ⟨"a.strings", "key"⟩] {}
          .ofKeys).value.filesChecked =
        (lint [⟨"a.strings", "key"⟩, ⟨"a.strings", "key"⟩, ⟨"b.ignore", "key"⟩] {}
          .ofKeys).value.filesChecked ∧
      List.Forall₂ (fun v w => v.same w = true)
        (lint [⟨"a.strings", "key"⟩, ⟨"b.ignore", "key"⟩, ⟨"a.strings", "key"⟩] {}
          .ofKeys).value.violations
        (lint [⟨"a.strings", "key"⟩, ⟨"a.strings", "key"⟩, ⟨"b.ignore", "key"⟩] {}
          .ofKeys).value.violations :=
  ⟨(List.Perm.swap _ _ _).cons _, lint_perm ((List.Perm.swap _ _ _).cons _) {} .ofKeys⟩

end CatalogLint
