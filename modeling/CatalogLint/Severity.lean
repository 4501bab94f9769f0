/-
# Severities

A finding is suppressed, a warning or an error, in this order: `none < warning < error`.  A
severity has one name, and `parse` reads a name with white space around it and in any ASCII case, and
nothing else (`parse_eq_ok_iff`).
-/
import CatalogLint.Text.CodeSet
import CatalogLint.Text.Printable

namespace CatalogLint

/-- How much a finding matters. -/
inductive Severity
  /-- Suppressed, but still reported. -/
  | none
  /-- Should be addressed. -/
  | warning
  /-- Must be fixed. -/
  | error
  deriving DecidableEq, Repr, Inhabited

/-- A text that names no severity. -/
structure UnknownSeverity where
  /-- The text as it was given. -/
  text : String
  deriving DecidableEq, Repr

/-- The sentence that refuses an unknown name. -/
def UnknownSeverity.message (e : UnknownSeverity) : String :=
  "Unknown severity: " ++ Text.quoted e.text ++ " (expected none, warning or error)"

namespace Severity

/-- All severities, ascending. -/
def all : List Severity := [none, warning, error]

/-- The name of a severity. -/
def name : Severity → String
  | none => "none"
  | warning => "warning"
  | error => "error"

/-- The place of a severity in the order. -/
def rank : Severity → Nat
  | none => 0
  | warning => 1
  | error => 2

instance : Ord Severity := ⟨compareOn rank⟩

instance : LE Severity := ⟨fun a b => a.rank ≤ b.rank⟩

instance (a b : Severity) : Decidable (a ≤ b) := inferInstanceAs (Decidable (a.rank ≤ b.rank))

/-- The greater of two severities. -/
def max (a b : Severity) : Severity := if a ≤ b then b else a

/-- Reads the name of a severity. -/
def parse (text : String) : Except UnknownSeverity Severity :=
  match all.find? fun s => Text.spells s.name text with
  | some s => .ok s
  | Option.none => .error ⟨text⟩

theorem le_iff_rank {a b : Severity} : a ≤ b ↔ a.rank ≤ b.rank := Iff.rfl

theorem mem_all (s : Severity) : s ∈ all := by cases s <;> decide

theorem name_injective {a b : Severity} (h : a.name = b.name) : a = b := by
  cases a <;> cases b <;> first | rfl | exact absurd h (by decide)

/-- A text is read as the one severity whose name it spells. -/
theorem parse_eq_ok_iff {text : String} {s : Severity} :
    parse text = .ok s ↔ Text.spells s.name text = true := by
  unfold parse
  constructor
  · intro h
    split at h
    · next hf => cases h; have := List.find?_some hf; exact this
    · simp at h
  · intro h
    cases hf : all.find? fun s => Text.spells s.name text with
    | none => exact absurd h (List.find?_eq_none.1 hf s (mem_all s))
    | some t =>
      have ht := List.find?_some hf
      simp [name_injective (Text.eq_of_spells ht h)]

end Severity

end CatalogLint
