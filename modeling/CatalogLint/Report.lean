/-
# Reports

A report holds the violations of a run and the number of files that were read.  `counts`,
`atSeverity`, `hasErrors` and `reaches` are its views by severity; `sorted` puts its violations in
order.
-/
import CatalogLint.Violation

namespace CatalogLint

/-- The result of a run. -/
structure Report where
  /-- The violations found. -/
  violations : List Violation := []
  /-- How many files were read. -/
  filesChecked : Nat := 0
  deriving DecidableEq, Repr

namespace Report

/-- Adds a violation at the end. -/
def push (r : Report) (v : Violation) : Report := { r with violations := r.violations ++ [v] }

/-- The report with its violations in order. -/
def sorted (r : Report) : Report := { r with violations := Violation.sort r.violations }

/-- The violations of one severity. -/
def atSeverity (r : Report) (s : Severity) : List Violation :=
  r.violations.filter fun v => v.severity == s

/-- How many violations there are of each severity. -/
structure Counts where
  /-- Number of errors. -/
  errors : Nat := 0
  /-- Number of warnings. -/
  warnings : Nat := 0
  /-- Number of suppressed violations. -/
  suppressed : Nat := 0
  deriving DecidableEq, Repr

/-- Counts one more violation of a severity. -/
def Counts.add (c : Counts) : Severity → Counts
  | .error => { c with errors := c.errors + 1 }
  | .warning => { c with warnings := c.warnings + 1 }
  | .none => { c with suppressed := c.suppressed + 1 }

/-- The counts of a report, taken in one pass. -/
def counts (r : Report) : Counts := r.violations.foldl (fun c v => c.add v.severity) {}

/-- Whether some violation is an error. -/
def hasErrors (r : Report) : Bool := r.violations.any fun v => v.severity == .error

/-- Whether some violation is at least as severe as the threshold. -/
def reaches (r : Report) (threshold : Severity) : Bool :=
  r.violations.any fun v => threshold ≤ v.severity

end Report

end CatalogLint
