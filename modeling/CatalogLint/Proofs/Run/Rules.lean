/-
# The rules of a run and what each of them reports

A run reports what its rules find, sorted into one list.  This module takes that list apart again.

* The rules of a run are those of its preset that are switched on (`Config.activeRules`), and the
  report is the sorted list of what they find (`value_lint`).  Their identifiers differ, and each
  reports under its own (`activeRules_distinct`, `activeRules_ownViolations`).
* Among rules with these two properties, the violations under the identifier of one rule are exactly
  what that rule finds, in the order in which it finds them (`filter_flatMap_violations`).  No rule
  reports under an identifier that none of them has (`filter_flatMap_violations_of_not_mem`).
* In the report of such rules, the part of one rule (`Report.ofRule`) is what it finds, sorted
  (`Linter.ofRule_lint`).
-/
import CatalogLint.Proofs.Violation.Sorting
import CatalogLint.Run
import Mathlib.Data.List.Nodup

namespace CatalogLint

variable {rules : List Rule} {r : Rule}

/-! ## 1. Rules side by side -/

/-- Rules that never share an identifier. -/
def Rule.Distinct (rules : List Rule) : Prop := (rules.map Rule.identifier).Nodup

instance (rules : List Rule) : Decidable (Rule.Distinct rules) :=
  inferInstanceAs (Decidable (List.Nodup _))

/-- The violations under an identifier that no rule has: there are none. -/
theorem filter_flatMap_violations_of_not_mem {id : String} (ho : ∀ r ∈ rules, r.OwnViolations)
    (hid : id ∉ rules.map Rule.identifier) (files : List SourceFile) :
    (rules.flatMap fun r => r.violations files).filter (fun v => v.rule == id) = [] := by
  rw [List.filter_eq_nil_iff]
  intro v hv hrule
  obtain ⟨r, hr, hvr⟩ := List.mem_flatMap.1 hv
  have hown : v.rule = r.identifier := ho r hr files v hvr
  exact hid (List.mem_map.2 ⟨r, hr, hown.symm.trans (beq_iff_eq.1 hrule)⟩)

/-- **The violations under the identifier of a rule are what that rule finds.** -/
theorem filter_flatMap_violations (hn : Rule.Distinct rules) (ho : ∀ r ∈ rules, r.OwnViolations)
    (hr : r ∈ rules) (files : List SourceFile) :
    (rules.flatMap fun r => r.violations files).filter (fun v => v.rule == r.identifier) =
      r.violations files := by
  induction rules with
  | nil => exact absurd hr List.not_mem_nil
  | cons s rules ih =>
    obtain ⟨hs, hn'⟩ := List.nodup_cons.1 hn
    have ho' : ∀ r ∈ rules, r.OwnViolations := fun r hr => ho r (List.mem_cons_of_mem _ hr)
    rw [List.flatMap_cons, List.filter_append]
    rcases List.mem_cons.1 hr with rfl | hr'
    · have hself : (r.violations files).filter (fun v => v.rule == r.identifier) =
          r.violations files :=
        List.filter_eq_self.2 fun v hv => beq_iff_eq.2 (ho r List.mem_cons_self files v hv)
      rw [hself, filter_flatMap_violations_of_not_mem ho' hs, List.append_nil]
    · have hne : s.identifier ≠ r.identifier := fun he =>
        hs (he ▸ List.mem_map_of_mem hr')
      have hother : (s.violations files).filter (fun v => v.rule == r.identifier) = [] := by
        rw [List.filter_eq_nil_iff]
        intro v hv hrule
        exact hne ((ho s List.mem_cons_self files v hv).symm.trans (beq_iff_eq.1 hrule))
      rw [hother, List.nil_append]
      exact ih hn' ho' hr'

/-- Rules with the same identifier are the same rule. -/
theorem Rule.Distinct.eq {s : Rule} (hn : Rule.Distinct rules) (hr : r ∈ rules) (hs : s ∈ rules)
    (h : r.identifier = s.identifier) : r = s :=
  List.inj_on_of_nodup_map hn hr hs h

/-! ## 2. The part of a rule in a report -/

/-- The violations of a report that carry the identifier of a rule, as they stand. -/
def Report.ofRule (report : Report) (id : String) : List Violation :=
  report.violations.filter fun v => v.rule == id

/-- **The part of a rule** is what it finds, sorted: the violations of other rules stand between its
own, but never move them. -/
theorem Linter.ofRule_lint (hn : Rule.Distinct rules) (ho : ∀ r ∈ rules, r.OwnViolations)
    (hr : r ∈ rules) (files : List SourceFile) :
    (({ rules } : Linter).lint files).value.ofRule r.identifier =
      Violation.sort (r.violations files) := by
  rw [Report.ofRule, value_lint, Violation.filter_sort, filter_flatMap_violations hn ho hr]

theorem Linter.ofRule_lint_of_not_mem {id : String} (ho : ∀ r ∈ rules, r.OwnViolations)
    (hid : id ∉ rules.map Rule.identifier) (files : List SourceFile) :
    (({ rules } : Linter).lint files).value.ofRule id = [] := by
  rw [Report.ofRule, value_lint, Violation.filter_sort,
    filter_flatMap_violations_of_not_mem ho hid]
  exact Violation.sort_of_pairwise List.Pairwise.nil

/-! ## 3. The rules of a preset -/

theorem Comment.Profile.rule_injective {p q : Comment.Profile} (h : p.rule = q.rule) : p = q := by
  cases p <;> cases q <;> first | rfl | (exact absurd h (by decide))

theorem Comment.Profile.rule_ne (p : Comment.Profile) : p.rule ≠ CrossReference.identifier := by
  cases p <;> decide

theorem CommentCheck.identifier_rule_ofConfig (config : Config) (s : Source)
    (profile : Comment.Profile) :
    (ofConfig config s profile).value.rule.identifier = profile.rule :=
  congrArg Comment.Profile.rule (Preset.profile_ofConfig config s profile)

theorem Preset.rules_distinct (p : Preset) (config : Config) (c : Collaborators) :
    Rule.Distinct (p.rules config c).value := by
  rw [Rule.Distinct, identifier_rules]
  cases p <;> decide

/-! ## 4. The rules of a run -/

/-- The rules of a run: those of the preset that are switched on. -/
def Config.activeRules (config : Config) (c : Collaborators) : List Rule :=
  ((Preset.resolve config).value.rules config c).value.filter fun r =>
    (config.isEnabled r.identifier).value

theorem Linter.value_ofRules (config : Config) (rules : List Rule) :
    (Linter.ofRules config rules).value =
      { rules := rules.filter fun r => (config.isEnabled r.identifier).value } := by
  simp only [Linter.ofRules, Logged.value_bind, Logged.value_pure, Linter.value_enabledRules]

/-- A run is the run of its rules. -/
theorem value_lint_eq (files : List SourceFile) (config : Config) (c : Collaborators) :
    (lint files config c).value =
      (({ rules := config.activeRules c } : Linter).lint files).value := by
  simp only [lint, Config.linter, Logged.value_bind, Linter.value_ofRules]
  rfl

/-- **The report of a run**: what its rules find in all files, sorted. -/
theorem value_lint (files : List SourceFile) (config : Config) (c : Collaborators) :
    (lint files config c).value =
      { violations :=
          Violation.sort ((config.activeRules c).flatMap fun r => r.violations files)
        filesChecked := files.length } := by
  rw [value_lint_eq, Linter.value_lint]

theorem Config.mem_activeRules {config : Config} {c : Collaborators} :
    r ∈ config.activeRules c ↔
      r ∈ ((Preset.resolve config).value.rules config c).value ∧
        (config.isEnabled r.identifier).value = true :=
  List.mem_filter

theorem Config.activeRules_distinct (config : Config) (c : Collaborators) :
    Rule.Distinct (config.activeRules c) :=
  (Preset.rules_distinct _ config c).sublist (List.filter_sublist.map _)

theorem Config.activeRules_ownViolations (config : Config) (c : Collaborators) :
    ∀ r ∈ config.activeRules c, r.OwnViolations := fun r hr =>
  Preset.rules_ownViolations _ config c r (Config.mem_activeRules.1 hr).1

/-! ## 5. The smallest readers -/

/-- Readers of files that hold a single key: a file of the extension `strings` declares it, and one
of the extension `ignore` exempts it. -/
def Collaborators.ofKeys : Collaborators where
  declarations := [{
    name := "keys"
    supports := fun file => file.hasExtension "strings"
    read := fun file =>
      pure (.ok [{ key := file.content, location := { file := file.path } }]) }]
  ignoreFiles := {
    supports := fun file => file.hasExtension "ignore"
    read := fun file =>
      .ok { keys := [{ key := file.content, location := { file := file.path } }] } }

end CatalogLint
