/-
# Ignore files

An ignore file lists declared keys that may go unused, for strings that are still in progress.  It
must name who is responsible; where it does not, that is found, and its keys count all the same.
Main fact: what a reader collects is what it reads without failing (`value_collect`).
-/
import CatalogLint.Location
import CatalogLint.Logged

namespace CatalogLint

/-- A key that an ignore file lists. -/
structure ExemptKey where
  /-- The key as it is declared. -/
  key : String
  /-- Where it is listed. -/
  location : Location
  deriving DecidableEq, Repr

/-- The contents of an ignore file. -/
structure IgnoreFile where
  /-- The keys that it lists. -/
  keys : List ExemptKey := []
  /-- The places at which an owner is missing. -/
  ownerless : List Location := []
  deriving DecidableEq, Repr

/-- A reader of ignore files. -/
structure IgnoreReader where
  /-- Whether the reader takes a file. -/
  supports : SourceFile → Bool
  /-- Reads a file. -/
  read : SourceFile → Except FormatError IgnoreFile

namespace IgnoreReader

/-- The contents of a file, as far as the reader takes it and can read it. -/
def collect (reader : IgnoreReader) (file : SourceFile) : Logged IgnoreFile :=
  if reader.supports file then
    match reader.read file with
    | .ok contents => do
      Logged.log
        (.ignoreFileRead file.path contents.keys.length contents.ownerless.length)
      return contents
    | .error e => do
      Logged.log (.ignoreFileFailed file.path e)
      return {}
  else
    pure {}

/-- A reader that takes no file. -/
def absent : IgnoreReader where
  supports _ := false
  read file := .error (.unsupported file.path)

theorem value_collect (reader : IgnoreReader) (file : SourceFile) :
    (reader.collect file).value =
      if reader.supports file then
        match reader.read file with
        | .ok contents => contents
        | .error _ => {}
      else {} := by
  unfold collect
  split
  · cases reader.read file <;> rfl
  · rfl

end IgnoreReader

end CatalogLint
