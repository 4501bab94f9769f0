/-
# What readers yield

A rule never sees a reader fail: a file that is not taken and one that cannot be read both come to
it as no records.  This module names what is left, so that statements about runs need not speak of
how a reading is logged.

* `Source.yield` is what one source gives for one file, and `Source.yieldAll` what it gives for a
  run, file by file; `collect` is `yield` with a log (`value_collect_eq_yield`).
* A composition yields what its sources yield, one after the other (`yield_compose`).
* `IgnoreReader.parsed` holds the ignore files of a run, those that were read without failing.

All of them depend on the order of the files only up to a permutation (`yieldAll_perm`,
`parsed_perm`).
-/
import CatalogLint.IgnoreFile
import CatalogLint.Rule.CommentCheck
import CatalogLint.Source.Composition

namespace CatalogLint

/-! ## 1. Records -/

namespace Source

/-- The records that a source yields for a file: those of a file that it takes and can read. -/
def yield (s : Source) (file : SourceFile) : List Record :=
  if s.supports file then
    match (s.read file).value with
    | .ok records => records
    | .error _ => []
  else []

/-- The records that a source yields for files, in the order in which they are read. -/
def yieldAll (s : Source) (files : List SourceFile) : List Record := files.flatMap s.yield

theorem value_collect_eq_yield (s : Source) (file : SourceFile) :
    (s.collect file).value = s.yield file := by
  rw [value_collect, yield]
  split
  · cases (s.read file).value <;> rfl
  · rfl

/-- **A composition yields what its sources yield**, one after the other: a source that fails takes
nothing from the others. -/
theorem yield_compose (sources : List Source) (file : SourceFile) :
    (compose sources).yield file = sources.flatMap fun s => s.yield file := by
  rw [← value_collect_eq_yield, value_collect_compose]
  simp only [value_collect_eq_yield]

theorem yieldAll_append (s : Source) (xs ys : List SourceFile) :
    s.yieldAll (xs ++ ys) = s.yieldAll xs ++ s.yieldAll ys := List.flatMap_append

theorem yieldAll_singleton (s : Source) (file : SourceFile) : s.yieldAll [file] = s.yield file := by
  simp [yieldAll]

theorem yieldAll_perm (s : Source) {xs ys : List SourceFile} (h : xs.Perm ys) :
    (s.yieldAll xs).Perm (s.yieldAll ys) :=
  h.flatMap_right _

end Source

/-- A check of comments judges what its source yields. -/
theorem CommentCheck.declared_eq_yieldAll (c : CommentCheck) (files : List SourceFile) :
    c.declared files = c.declarations.yieldAll files := by
  simp only [declared, Source.yieldAll, Source.value_collect_eq_yield]

/-! ## 2. Ignore files -/

namespace IgnoreReader

/-- The ignore file that a reader finds in a file that it takes and can read. -/
def parsed? (reader : IgnoreReader) (file : SourceFile) : Option IgnoreFile :=
  if reader.supports file then (reader.read file).toOption else none

/-- The ignore files among files, in the order in which they are read. -/
def parsed (reader : IgnoreReader) (files : List SourceFile) : List IgnoreFile :=
  files.filterMap reader.parsed?

/-- A file without an ignore file in it counts as an empty one. -/
theorem value_collect_eq_parsed (reader : IgnoreReader) (file : SourceFile) :
    (reader.collect file).value = (reader.parsed? file).getD {} := by
  rw [value_collect, parsed?]
  split
  · cases reader.read file <;> rfl
  · rfl

theorem parsed_append (reader : IgnoreReader) (xs ys : List SourceFile) :
    reader.parsed (xs ++ ys) = reader.parsed xs ++ reader.parsed ys := List.filterMap_append

/-- What is gathered from the ignore file in one file, if a file without one gives nothing. -/
theorem flatMap_parsed_singleton {α : Type} (reader : IgnoreReader) (file : SourceFile)
    {f : IgnoreFile → List α} (hf : f {} = []) :
    (reader.parsed [file]).flatMap f = f ((reader.collect file).value) := by
  rw [value_collect_eq_parsed, parsed, List.filterMap_cons, List.filterMap_nil]
  cases reader.parsed? file with
  | none => exact hf.symm
  | some contents => exact List.flatMap_singleton f contents

theorem parsed_perm (reader : IgnoreReader) {xs ys : List SourceFile} (h : xs.Perm ys) :
    (reader.parsed xs).Perm (reader.parsed ys) :=
  h.filterMap _

end IgnoreReader

end CatalogLint
