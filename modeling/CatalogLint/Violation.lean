/-
# Violations

A violation is one finding of one rule at one location, with a severity and a reason.  A report
lists violations by location, rule and reason (`compare`); severity and rule name never decide a
place.  `sort` keeps violations that compare equal as they stood.  Main facts: sorting only reorders
(`sort_perm`), its result is in order (`sort_pairwise`), and an ordered list stays as it is
(`sort_of_pairwise`).
-/
import CatalogLint.Location
import CatalogLint.Severity

namespace CatalogLint

/-- One finding of a rule. -/
structure Violation where
  /-- Identifier of the rule. -/
  rule : String
  /-- Name of the rule for a reader. -/
  name : String
  /-- How much it matters. -/
  severity : Severity
  /-- Where it was found. -/
  location : Location
  /-- What is wrong, as a sentence. -/
  reason : String
  deriving DecidableEq, Repr

namespace Violation

/-! ## 1. Texts -/

/-- The violation on one line. -/
def display (v : Violation) : String :=
  v.location.display ++ ": " ++ v.severity.name ++ " [" ++ v.rule ++ "] " ++ v.reason

/-- The violation as two lines for a terminal. -/
def format (v : Violation) : String :=
  v.name ++ " at " ++ v.location.display ++ "\n  " ++ v.severity.name ++ ": " ++ v.reason ++
    " [" ++ v.rule ++ "]\n"

/-- A violation as a diagnostic shows it: a message, a line of help and labelled spans. -/
structure Diagnostic where
  /-- The message. -/
  message : String
  /-- The line of help. -/
  help : String
  /-- Label, offset and length of each span. -/
  labels : List (String × Nat × Nat)
  deriving DecidableEq, Repr

/-- The diagnostic of a violation, labelled with the rule's name at an empty span. -/
def diagnostic (v : Violation) : Diagnostic where
  message := "[" ++ v.rule ++ "] " ++ v.reason
  help := "reported at " ++ v.location.display
  labels := [(v.name, 0, 0)]

/-! ## 2. Order

Two violations are the `same` when they agree in everything, their paths read part by part. -/

/-- Violations are ordered by location, rule identifier and reason. -/
def compare (a b : Violation) : Ordering :=
  (Ord.compare a.location b.location).then
    ((Ord.compare a.rule b.rule).then (Ord.compare a.reason b.reason))

instance : Std.TransCmp compare :=
  inferInstanceAs (Std.TransCmp (compareLex (compareOn location)
    (compareLex (compareOn rule) (compareOn reason))))

/-- Whether a violation may stand before another in a report. -/
def before (a b : Violation) : Bool := (compare a b).isLE

/-- Whether two violations agree in everything, their paths part by part. -/
def same (a b : Violation) : Bool :=
  a.rule == b.rule && a.name == b.name && a.severity == b.severity &&
    a.location.same b.location && a.reason == b.reason

theorem before_trans {a b c : Violation} (h : before a b = true) (h' : before b c = true) :
    before a c = true :=
  Std.TransCmp.isLE_trans h h'

theorem before_total (a b : Violation) : (before a b || before b a) = true := by
  unfold before
  have h : compare b a = (compare a b).swap := Std.OrientedCmp.eq_swap
  rw [h]
  cases compare a b <;> rfl

/-- Violations compare equal exactly when their places, rules and reasons are equal. -/
theorem compare_eq_iff {a b : Violation} :
    compare a b = .eq ↔
      Ord.compare a.location b.location = .eq ∧ a.rule = b.rule ∧ a.reason = b.reason := by
  simp [compare, Ordering.then_eq_eq]

/-! ## 3. Sorting -/

/-- The violations in order, those that compare equal as they stood. -/
def sort (vs : List Violation) : List Violation := vs.mergeSort before

theorem sort_perm (vs : List Violation) : (sort vs).Perm vs := List.mergeSort_perm vs before

theorem sort_pairwise (vs : List Violation) : (sort vs).Pairwise fun a b => before a b = true :=
  @List.pairwise_mergeSort _ before (fun _ _ _ => before_trans) before_total vs

theorem sort_of_pairwise {vs : List Violation}
    (h : vs.Pairwise fun a b => before a b = true) : sort vs = vs := by
  unfold sort
  exact List.mergeSort_of_pairwise h

end Violation

end CatalogLint
