/-
# Records and their sources

A record is one occurrence of a localized string: declared in a resource file or used at some place
of the code.  Its placeholder count is the greatest among its values, unless it is set.

A source reads the records of files in some form, and says first which files it takes.  `collect` is
how a rule reads: a file that is not taken has no records, and one that cannot be read has none
either, which is logged.  Main facts: the records of a file are those of a successful reading
(`value_collect`), so a failure and an empty file look alike to a rule.
-/
import CatalogLint.Logged
import CatalogLint.Placeholder

namespace CatalogLint

/-! ## 1. Records -/

/-- One occurrence of a localized string. -/
structure Record where
  /-- Key of the string, or name of the accessor that uses it. -/
  key : String
  /-- Where the record was found. -/
  location : Location := {}
  /-- Table of the string, if known. -/
  table : Option String := none
  /-- Locale of the string, if known. -/
  locale : Option String := none
  /-- Comment at the declaration. -/
  comment : Option String := none
  /-- Translated values; plural forms give more than one. -/
  values : List String := []
  /-- Number of placeholders. -/
  placeholderCount : Nat := 0
  deriving DecidableEq, Repr

namespace Record

/-- Sets the values, and with them the placeholder count: the greatest of any value, zero for
none. -/
def withValues (r : Record) (values : List String) : Record :=
  { r with values, placeholderCount := (values.map Placeholder.count).foldl max 0 }

/-- Sets the placeholder count. -/
def withCount (r : Record) (n : Nat) : Record := { r with placeholderCount := n }

end Record

/-! ## 2. Sources -/

/-- The outcome of reading a file. -/
abbrev Reading := Except FormatError (List Record)

/-- The records of a reading; a failure has none. -/
def Reading.records : Reading → List Record
  | .ok records => records
  | .error _ => []

/-- A reader of records. -/
structure Source where
  /-- Name of the source in a log. -/
  name : String
  /-- Whether the source takes a file. -/
  supports : SourceFile → Bool
  /-- Reads a file. -/
  read : SourceFile → Logged Reading

namespace Source

/-- The records of a file, as far as the source takes it and can read it. -/
def collect (s : Source) (file : SourceFile) : Logged (List Record) :=
  if s.supports file then do
    match ← s.read file with
    | .ok records => return records
    | .error e =>
      Logged.log (.fileFailed file.path e)
      return []
  else
    pure []

theorem value_collect (s : Source) (file : SourceFile) :
    (s.collect file).value =
      if s.supports file then Reading.records (s.read file).value else [] := by
  unfold collect
  split
  · rw [Logged.value_bind]
    cases (s.read file).value <;> rfl
  · rfl

/-- A file that is not taken leaves no trace. -/
theorem collect_of_not_supports {s : Source} {file : SourceFile} (h : s.supports file = false) :
    s.collect file = pure [] := by
  simp [collect, h]

end Source

end CatalogLint
