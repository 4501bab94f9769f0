/-
# The order of a report, key by key

`Violation.compare` joins five comparisons into one.  Here the order is written out: by the parts of the
path, the line, the column, the rule and the reason, each deciding among those that agree in all before
it.

* `Path.Before`, `Location.Before` and `Violation.InOrder` are this order in words that do not mention
  a comparison, and each comparison decides its order (`Path.compare_eq_lt_iff`,
  `Location.compare_eq_lt_iff`, `Violation.before_iff`).  Two violations that are tied agree in all
  five keys (`Violation.tied_iff_sameKeys`).
* Any two locations compare (`Location.isLE_total`), and they compare equal when their paths are spelt
  alike and lines and columns agree (`Location.compare_eq_iff_respelled`).
* A sorted report is in this order, and ties, repeated sorting and filtering do to it what they should
  (`Report.sorted_lawful`).
-/
import CatalogLint.Proofs.Path.Spelling
import CatalogLint.Proofs.Violation.Sorting
import CatalogLint.Report

namespace CatalogLint

/-! ## 1. Paths -/

namespace Path

/-- Parts in order: by kind, names among themselves by code point. -/
def Part.Before (p q : Part) : Prop := p.rank < q.rank ∨ p.rank = q.rank ∧ p.name < q.name

/-- Paths in order: the first part in which they differ decides, and a path stands before those that go
on behind it. -/
def Before (p q : String) : Prop := List.Lex Part.Before (parts p) (parts q)

theorem Part.compare_eq_lt_iff {p q : Part} : Ord.compare p q = .lt ↔ p.Before q := by
  change (Ord.compare p.rank q.rank).then (Ord.compare p.name q.name) = .lt ↔ _
  rw [Ordering.then_eq_lt, Nat.compare_eq_lt, Nat.compare_eq_eq, Part.Before]
  refine or_congr_right (and_congr_right fun _ => ?_)
  exact compareOfLessAndEq_eq_lt

/-- Lists are compared by the first items in which they differ. -/
theorem compareLex_eq_lt_iff {ps qs : List Part} :
    List.compareLex Ord.compare ps qs = .lt ↔ List.Lex Part.Before ps qs := by
  induction ps generalizing qs with
  | nil =>
    cases qs with
    | nil => simp [List.compareLex_nil_nil]
    | cons q qs => simp [List.compareLex_nil_cons]
  | cons p ps ih =>
    cases qs with
    | nil => simp [List.compareLex_cons_nil]
    | cons q qs =>
      rw [List.compareLex_cons_cons, Ordering.then_eq_lt, ih, Part.compare_eq_lt_iff,
        List.cons_lex_cons_iff, Std.LawfulEqCmp.compare_eq_iff_eq]

theorem compare_eq_lt_iff {p q : String} : compare p q = .lt ↔ Before p q := by
  rw [Before, ← compareLex_eq_lt_iff]
  rfl

end Path

/-! ## 2. Locations -/

namespace Location

variable {a b c : Location}

/-- Locations in order: by path, line and column. -/
def Before (a b : Location) : Prop :=
  Path.Before a.file b.file ∨ Path.parts a.file = Path.parts b.file ∧
    (a.line < b.line ∨ a.line = b.line ∧ a.column < b.column)

theorem compare_eq_lt_iff : compare a b = .lt ↔ Before a b := by
  simp only [compare_def, Ordering.then_eq_lt, Path.compare_eq_lt_iff, Path.compare_eq_iff,
    Nat.compare_eq_lt, Nat.compare_eq_eq, Before]

theorem isLE_total (a b : Location) : (compare a b).isLE = true ∨ (compare b a).isLE = true := by
  have hswap : compare b a = (compare a b).swap := Std.OrientedCmp.eq_swap
  rw [hswap]
  cases compare a b
  · exact .inl rfl
  · exact .inl rfl
  · exact .inr rfl

/-- **Locations compare equal** when their paths are spellings of one path, and line and column
agree. -/
theorem compare_eq_iff_respelled :
    compare a b = .eq ↔ Path.Respelled a.file b.file ∧ a.line = b.line ∧ a.column = b.column := by
  rw [compare_eq_iff, Path.parts_eq_iff]

end Location

/-! ## 3. Violations -/

namespace Violation

variable {a b : Violation}

/-- Two violations agree in all that decides their places in a report. -/
def SameKeys (a b : Violation) : Prop :=
  Path.parts a.location.file = Path.parts b.location.file ∧ a.location.line = b.location.line ∧
    a.location.column = b.location.column ∧ a.rule = b.rule ∧ a.reason = b.reason

instance (a b : Violation) : Decidable (SameKeys a b) :=
  inferInstanceAs (Decidable (_ ∧ _ ∧ _ ∧ _ ∧ _))

/-- Violations in order: by location, rule and reason.  Two that agree in all of these are in order
either way. -/
def InOrder (a b : Violation) : Prop :=
  a.location.Before b.location ∨
    Path.parts a.location.file = Path.parts b.location.file ∧ a.location.line = b.location.line ∧
      a.location.column = b.location.column ∧ (a.rule < b.rule ∨ a.rule = b.rule ∧ a.reason ≤ b.reason)

theorem before_iff : before a b = true ↔ InOrder a b := by
  have hrule : Ord.compare a.rule b.rule = .lt ↔ a.rule < b.rule := compareOfLessAndEq_eq_lt
  have hreason : (Ord.compare a.reason b.reason).isLE = true ↔ a.reason ≤ b.reason := by
    have hlt : Ord.compare a.reason b.reason = .lt ↔ a.reason < b.reason := compareOfLessAndEq_eq_lt
    rw [Ordering.isLE_iff_eq_lt_or_eq_eq, hlt, Std.LawfulEqCmp.compare_eq_iff_eq,
      ← Std.le_iff_lt_or_eq]
  rw [before, compare, Ordering.isLE_then_iff_or, Ordering.isLE_then_iff_or,
    Location.compare_eq_lt_iff, Location.compare_eq_iff, hrule, hreason,
    Std.LawfulEqCmp.compare_eq_iff_eq, and_assoc, and_assoc]
  rfl

theorem tied_iff_sameKeys : tied a b = true ↔ SameKeys a b := by
  rw [tied_iff, compare_eq_iff, Location.compare_eq_iff, and_assoc, and_assoc]
  rfl

end Violation

/-! ## 4. Reports -/

namespace Report

variable (r : Report)

/-- The report of those violations that satisfy a predicate. -/
def keep (p : Violation → Bool) : Report := { r with violations := r.violations.filter p }

/-- Violations that agree in all that decides their places stay as they stood. -/
theorem filter_sameKeys_sorted (v : Violation) :
    (r.sorted.violations.filter fun w => decide (v.SameKeys w)) =
      r.violations.filter fun w => decide (v.SameKeys w) := by
  have htied : (fun w => decide (v.SameKeys w)) = Violation.tied v := by
    funext w
    rw [Bool.eq_iff_iff, decide_eq_true_iff, Violation.tied_iff_sameKeys]
  rw [htied]
  exact Violation.filter_tied_sort v r.violations

/-- **A report is sorted as it should be.**  (i) Sorting a report only reorders its violations. (ii) Any
violation of the result is in order with each one behind it, and (iii) those that agree in all five keys
stand as they stood.  (iv) Sorting again changes nothing, and (v) it is the same to sort and then keep
some violations, or to keep them and then sort.  (vi) The comparison of locations, which comes first, is
total, transitive and antisymmetric, and (vii) it answers `eq` for locations of the same line and column
in files whose paths differ only in separators and dots that say nothing. -/
theorem sorted_lawful :
    r.sorted.violations.Perm r.violations ∧ r.sorted.filesChecked = r.filesChecked ∧
      r.sorted.violations.Pairwise Violation.InOrder ∧
      (∀ v : Violation, (r.sorted.violations.filter fun w => decide (v.SameKeys w)) =
        r.violations.filter fun w => decide (v.SameKeys w)) ∧
      r.sorted.sorted = r.sorted ∧
      (∀ p, r.sorted.keep p = (r.keep p).sorted) ∧
      (∀ a b : Location, (compare a b).isLE = true ∨ (compare b a).isLE = true) ∧
      (∀ a b c : Location, (compare a b).isLE = true → (compare b c).isLE = true →
        (compare a c).isLE = true) ∧
      (∀ a b : Location, (compare a b).isLE = true → (compare b a).isLE = true →
        compare a b = .eq) ∧
      ∀ a b : Location, compare a b = .eq ↔
        Path.Respelled a.file b.file ∧ a.line = b.line ∧ a.column = b.column := by
  have hsorted := Violation.sort_pairwise r.violations
  refine ⟨Violation.sort_perm r.violations, rfl, ?_, r.filter_sameKeys_sorted, ?_, fun p => ?_,
    Location.isLE_total, fun a b c => Std.TransCmp.isLE_trans,
    fun a b => Std.OrientedCmp.isLE_antisymm, fun a b => Location.compare_eq_iff_respelled⟩
  · exact hsorted.imp fun h => Violation.before_iff.1 h
  · exact congrArg (Report.mk · r.filesChecked) (Violation.sort_of_pairwise hsorted)
  · exact congrArg (Report.mk · r.filesChecked) (Violation.filter_sort p r.violations)

/-- Two violations are at one place, whose path is spelt in two ways: they are sorted before the third,
whose path has no leading dot, and stay as they stood although the second is more severe. -/
theorem sorted_lawful_respelled :
    let late : Violation := ⟨"b", "B", .error, ⟨"a/b", 0, 0⟩, "late"⟩
    let first : Violation := ⟨"b", "B", .warning, ⟨"./a//b", 1, 1⟩, "same"⟩
    let second : Violation := ⟨"b", "B", .error, ⟨"./a/./b/", 1, 1⟩, "same"⟩
    let r : Report := ⟨[late, first, second], 1⟩
    (compare first.location second.location).isLE = true ∧
      (compare second.location first.location).isLE = true ∧
      (compare second.location late.location).isLE = true ∧
      (compare first.location late.location).isLE = true ∧
      compare first.location second.location = .eq ∧
      Path.Respelled "./a//b" "./a/./b/" ∧
      (r.sorted.violations.filter fun w => decide (second.SameKeys w)) = [first, second] := by
  intro late first second r
  obtain ⟨-, -, -, hstable, -, -, -, htrans, hantisymm, hequal⟩ := sorted_lawful r
  have hfirst : (compare first.location second.location).isLE = true := by decide
  have hsecond : (compare second.location first.location).isLE = true := by decide
  have hlate : (compare second.location late.location).isLE = true := by decide
  have heq := hantisymm first.location second.location hfirst hsecond
  refine ⟨hfirst, hsecond, hlate, htrans _ _ _ hfirst hlate, heq,
    ((hequal first.location second.location).1 heq).1, ?_⟩
  rw [hstable]
  decide

end Report

end CatalogLint
