/-
# The views of a report agree

A report is looked at in four ways: its violations of one severity, their numbers, whether some are
errors, and whether some reach a threshold.  Each goes through the violations by itself.  This module
shows that all of them say the same.

* `counts` is taken in one pass; the pass adds to what has been counted before, so that the numbers
  are those of the violations of each severity (`counts_eq`).
* The violations of the three severities are all violations, each once (`atSeverity_perm`).
* A threshold is reached when one of these lists is not empty (`reaches_iff`), and to have errors is to
  reach the highest one (`hasErrors_eq_reaches`).
* Sorting changes none of this, and puts the violations of each severity in order
  (`sorted_atSeverity`, `views_agree`).
-/
import CatalogLint.Proofs.Violation.Sorting
import CatalogLint.Report

namespace CatalogLint.Report

/-! ## 1. Counting in one pass -/

/-- What has been counted before stays, and each violation is added under its severity. -/
theorem foldl_add (vs : List Violation) (c : Counts) :
    vs.foldl (fun c v => c.add v.severity) c =
      { errors := c.errors + vs.countP fun v => v.severity == .error
        warnings := c.warnings + vs.countP fun v => v.severity == .warning
        suppressed := c.suppressed + vs.countP fun v => v.severity == .none } := by
  induction vs generalizing c with
  | nil => rfl
  | cons v vs ih =>
    rw [List.foldl_cons, ih]
    cases hv : v.severity <;> simp [Counts.add, hv] <;> omega

variable (r : Report)

theorem length_atSeverity (s : Severity) :
    (r.atSeverity s).length = r.violations.countP fun v => v.severity == s :=
  List.countP_eq_length_filter.symm

/-- **The counts** are the numbers of violations of each severity. -/
theorem counts_eq :
    r.counts =
      { errors := (r.atSeverity .error).length
        warnings := (r.atSeverity .warning).length
        suppressed := (r.atSeverity .none).length } := by
  rw [counts, foldl_add, length_atSeverity, length_atSeverity, length_atSeverity]
  simp only [Nat.zero_add]

/-! ## 2. Lists by severity -/

theorem mem_atSeverity {s : Severity} {v : Violation} :
    v ∈ r.atSeverity s ↔ v ∈ r.violations ∧ v.severity = s := by
  rw [atSeverity, List.mem_filter, beq_iff_eq]

/-- A violation has one severity. -/
theorem disjoint_atSeverity {s t : Severity} (h : s ≠ t) :
    (r.atSeverity s).Disjoint (r.atSeverity t) := by
  intro v hs ht
  exact h (((r.mem_atSeverity).1 hs).2.symm.trans ((r.mem_atSeverity).1 ht).2)

/-- **Each violation is in the list of its severity**, as often as it is in the report. -/
theorem atSeverity_perm :
    (r.atSeverity .error ++ (r.atSeverity .warning ++ r.atSeverity .none)).Perm r.violations := by
  unfold atSeverity
  induction r.violations with
  | nil => exact .nil
  | cons v vs ih =>
    cases hv : v.severity with
    | error => simpa [hv] using ih
    | warning =>
      have hmiddle := List.perm_middle.trans (ih.cons v)
      simpa [hv] using hmiddle
    | none =>
      rw [← List.append_assoc] at ih ⊢
      have hmiddle := List.perm_middle.trans (ih.cons v)
      simpa [hv] using hmiddle

/-! ## 3. Questions -/

theorem atSeverity_ne_nil_iff {s : Severity} :
    r.atSeverity s ≠ [] ↔ ∃ v ∈ r.violations, v.severity = s := by
  rw [← List.length_pos_iff, List.length_pos_iff_exists_mem]
  simp only [mem_atSeverity]

/-- **A report reaches a threshold** when there is a violation of a severity that is not less. -/
theorem reaches_iff {s : Severity} :
    r.reaches s = true ↔ ∃ t, s ≤ t ∧ r.atSeverity t ≠ [] := by
  simp only [reaches, List.any_eq_true, decide_eq_true_eq, atSeverity_ne_nil_iff]
  constructor
  · rintro ⟨v, hv, hs⟩
    exact ⟨v.severity, hs, v, hv, rfl⟩
  · rintro ⟨t, hs, v, hv, rfl⟩
    exact ⟨v, hv, hs⟩

theorem hasErrors_eq_reaches : r.hasErrors = r.reaches .error := by
  rw [Bool.eq_iff_iff, hasErrors, reaches, List.any_eq_true, List.any_eq_true]
  refine exists_congr fun v => and_congr_right fun _ => ?_
  rw [beq_iff_eq, decide_eq_true_iff, Severity.le_iff_rank]
  cases v.severity <;> simp [Severity.rank]

/-- Violations that reach a threshold reach every lower one. -/
theorem reaches_of_le {s t : Severity} (h : s ≤ t) (ht : r.reaches t = true) : r.reaches s = true := by
  obtain ⟨u, htu, hu⟩ := r.reaches_iff.1 ht
  exact r.reaches_iff.2 ⟨u, Nat.le_trans h htu, hu⟩

theorem reaches_none_iff : r.reaches .none = true ↔ r.violations ≠ [] := by
  rw [reaches, List.any_eq_true, ← List.length_pos_iff, List.length_pos_iff_exists_mem]
  refine exists_congr fun v => and_iff_left ?_
  exact decide_eq_true (Nat.zero_le _)

/-! ## 4. Sorted reports -/

/-- The violations of one severity are sorted among themselves. -/
theorem sorted_atSeverity (s : Severity) :
    r.sorted.atSeverity s = Violation.sort (r.atSeverity s) :=
  Violation.filter_sort _ r.violations

theorem sorted_counts : r.sorted.counts = r.counts := by
  have hlength : ∀ s, (r.sorted.atSeverity s).length = (r.atSeverity s).length := fun s => by
    rw [sorted_atSeverity, (Violation.sort_perm _).length_eq]
  rw [counts_eq, counts_eq, hlength, hlength, hlength]

theorem sorted_reaches (s : Severity) : r.sorted.reaches s = r.reaches s :=
  (Violation.sort_perm r.violations).any_eq

/-- **The views of a report agree.**  (i) The counts are the numbers of violations of each severity, and
their sum is the number of all.  (ii) The violations of a severity stand as in the report, and are just
those that have it.  (iii) Those of two severities have none in common, and those of all three are all
violations, each as often as before.  (iv) A report has errors when their count is positive, which is
when it reaches the threshold `error`.  (v) It reaches a threshold when there are violations of a
severity that is not less, so with a threshold it reaches every lower one, and `none` if it has any
violation.  (vi) Sorting changes no count and no answer, and sorts the violations of each severity. -/
theorem views_agree :
    (r.counts =
        { errors := (r.atSeverity .error).length
          warnings := (r.atSeverity .warning).length
          suppressed := (r.atSeverity .none).length } ∧
      r.counts.errors + r.counts.warnings + r.counts.suppressed = r.violations.length) ∧
      (∀ s, (r.atSeverity s).Sublist r.violations ∧
        ∀ v, v ∈ r.atSeverity s ↔ v ∈ r.violations ∧ v.severity = s) ∧
      ((∀ s t, s ≠ t → (r.atSeverity s).Disjoint (r.atSeverity t)) ∧
        (r.atSeverity .error ++ (r.atSeverity .warning ++ r.atSeverity .none)).Perm
          r.violations) ∧
      ((r.hasErrors = true ↔ 0 < r.counts.errors) ∧
        (r.hasErrors = true ↔ r.reaches .error = true)) ∧
      ((∀ s, r.reaches s = true ↔ ∃ t, s ≤ t ∧ r.atSeverity t ≠ []) ∧
        (∀ s t, s ≤ t → r.reaches t = true → r.reaches s = true) ∧
        (r.reaches .none = true ↔ r.violations ≠ [])) ∧
      r.sorted.counts = r.counts ∧ r.sorted.hasErrors = r.hasErrors ∧
        ∀ s, r.sorted.reaches s = r.reaches s ∧
          r.sorted.atSeverity s = Violation.sort (r.atSeverity s) := by
  have hsum : r.counts.errors + r.counts.warnings + r.counts.suppressed = r.violations.length := by
    rw [counts_eq, ← r.atSeverity_perm.length_eq, List.length_append, List.length_append,
      Nat.add_assoc]
  have herrors : r.hasErrors = true ↔ 0 < r.counts.errors := by
    rw [counts_eq, hasErrors, List.any_eq_true, List.length_pos_iff, atSeverity_ne_nil_iff]
    simp only [beq_iff_eq]
  refine ⟨⟨r.counts_eq, hsum⟩, fun s => ⟨List.filter_sublist, fun v => r.mem_atSeverity⟩,
    ⟨fun s t h => r.disjoint_atSeverity h, r.atSeverity_perm⟩,
    ⟨herrors, by rw [hasErrors_eq_reaches]⟩,
    ⟨fun s => r.reaches_iff, fun s t h => r.reaches_of_le h, r.reaches_none_iff⟩,
    r.sorted_counts, ?_, fun s => ⟨r.sorted_reaches s, r.sorted_atSeverity s⟩⟩
  rw [hasErrors_eq_reaches, hasErrors_eq_reaches, sorted_reaches]

/-- A report with two warnings and a suppressed violation reaches `warning`, hence `none`. -/
theorem views_agree_warnings :
    let violation (s : Severity) (line : Nat) : Violation := ⟨"a", "A", s, ⟨"a.strings", line, 1⟩, "bad"⟩
    let r : Report := ⟨[violation .warning 3, violation .none 2, violation .warning 1], 1⟩
    Severity.none ≤ Severity.warning ∧ r.reaches .warning = true ∧ r.reaches .none = true ∧
      Severity.error ≠ Severity.warning ∧
      (r.atSeverity .error).Disjoint (r.atSeverity .warning) ∧
      r.sorted.counts = ⟨0, 2, 1⟩ := by
  intro violation r
  obtain ⟨-, -, ⟨hdisjoint, -⟩, -, ⟨-, hlower, -⟩, hcounts, -⟩ := views_agree r
  have hle : Severity.none ≤ Severity.warning := by decide
  have hreaches : r.reaches .warning = true := by decide
  have hne : Severity.error ≠ Severity.warning := by decide
  exact ⟨hle, hreaches, hlower _ _ hle hreaches, hne, hdisjoint _ _ hne, hcounts.trans (by decide)⟩

end CatalogLint.Report
