/-
# Files and places in them

A file is a path and a text; nothing is ever fetched.  A reader that cannot read a file says why: the
text does not have the expected form, or no reader takes such files.

A location names a file, a line and a column; line and column are zero when they are not known.
Locations are ordered by the parts of their paths, then by line, then by column, and two that
compare equal lie at the same place, however their paths are spelt (`compare_eq_iff`).
-/
import CatalogLint.Path

namespace CatalogLint

/-! ## 1. Files -/

/-- A file that is handed to readers. -/
structure SourceFile where
  /-- Path of the file. -/
  path : String
  /-- Text of the file. -/
  content : String := ""
  deriving DecidableEq, Repr

/-- Whether the path of a file has the given extension, in any ASCII case. -/
def SourceFile.hasExtension (file : SourceFile) (ext : String) : Bool :=
  Path.hasExtension file.path ext

/-- Why a file cannot be read. -/
inductive FormatError
  /-- The text does not have the expected form. -/
  | undecodable (path message : String)
  /-- No reader takes the file. -/
  | unsupported (path : String)
  deriving DecidableEq, Repr

/-- The sentence that reports an error. -/
def FormatError.message : FormatError → String
  | undecodable path message => "Failed to decode " ++ path ++ ": " ++ message
  | unsupported path => "No reader supports " ++ path

/-! ## 2. Places -/

/-- Where something was found. -/
structure Location where
  /-- Path of the file, as its reader gives it. -/
  file : String := ""
  /-- Line, from one; zero when unknown. -/
  line : Nat := 0
  /-- Column, from one; zero when unknown. -/
  column : Nat := 0
  deriving DecidableEq, Repr, Inhabited

namespace Location

/-- The text of a location: file, line and column between colons. -/
def display (l : Location) : String :=
  l.file ++ ":" ++ toString l.line ++ ":" ++ toString l.column

/-- Locations are ordered by path, line and column. -/
instance : Ord Location where
  compare a b := (Path.compare a.file b.file).then
    ((compare a.line b.line).then (compare a.column b.column))

theorem compare_def (a b : Location) :
    compare a b = (Path.compare a.file b.file).then
      ((compare a.line b.line).then (compare a.column b.column)) := rfl

instance : Std.TransOrd Location :=
  inferInstanceAs (Std.TransCmp (compareLex (compareOn fun l : Location => Path.parts l.file)
    (compareLex (compareOn line) (compareOn column))))

/-- Whether two locations are the same place. -/
def same (a b : Location) : Bool := compare a b == .eq

/-- Locations compare equal exactly when path parts, lines and columns are equal. -/
theorem compare_eq_iff {a b : Location} :
    compare a b = .eq ↔
      Path.parts a.file = Path.parts b.file ∧ a.line = b.line ∧ a.column = b.column := by
  simp [compare_def, Ordering.then_eq_eq, Path.compare_eq_iff]

end Location

end CatalogLint
