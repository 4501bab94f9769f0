/-
# The cross reference reports what it should, and nothing else

The rule reads each file once and keeps what it needs: declared keys rewritten to their accessors,
used keys in small letters, the entries of ignore files as they stand.  Only when all files are in
are the four sources of keys brought to match keys and compared.  This module says what the rule
reports in terms of the FILES, without what is kept in between.

* `Holds` is the invariant: what is kept is what the readers yield for the files so far, in order.
  A file keeps it (`holds_take`), and so does a run (`holds_takeAll`).
* `Live` and `Watched` say which match keys are used or exempt, and which must not be used yet, for
  the files of a whole run.  The comparison looks up the same keys (`mem_liveKeys`,
  `mem_watchedKeys`).
* Each part of the report is then a list over what the readers yield (`unused_eq`, `referenced_eq`,
  `ownerless_eq`), and the report is these three parts (`findings_takeAll`).

A declared key is normalised twice on its way to the comparison and once more on the side of each
exemption.  That these agree is what `unused_eq` rests on; the key that is reported travels in the
place of the comment, untouched.
-/
import CatalogLint.Proofs.Yield
import CatalogLint.Rule.CrossReference
import Mathlib.Data.List.Basic

namespace CatalogLint

namespace CrossReference

variable {x : CrossReference} {i : Intake} {files : List SourceFile}

/-! ## 1. What is taken in -/

/-- `x.Holds i files`: what is kept in `i` is what the readers of `x` yield for `files`. -/
structure Holds (x : CrossReference) (i : Intake) (files : List SourceFile) : Prop where
  declared : i.declared = (x.declarations.yieldAll files).map toDeclared
  used : i.used = (x.usages.yieldAll files).map toUsed
  exempt : i.exempt = (x.ignoreFiles.parsed files).flatMap IgnoreFile.keys
  ownerless : i.ownerless = (x.ignoreFiles.parsed files).flatMap IgnoreFile.ownerless

/-- Before any file, nothing is kept. -/
theorem holds_nil (x : CrossReference) : x.Holds {} [] := ⟨rfl, rfl, rfl, rfl⟩

/-- **The step.**  A file adds to each part what its readers yield for it. -/
theorem holds_take (h : x.Holds i files) (file : SourceFile) :
    x.Holds (x.take i file).value (files ++ [file]) := by
  constructor
  · rw [Source.yieldAll_append, List.map_append, ← h.declared, Source.yieldAll_singleton,
      ← Source.value_collect_eq_yield]
    rfl
  · rw [Source.yieldAll_append, List.map_append, ← h.used, Source.yieldAll_singleton,
      ← Source.value_collect_eq_yield]
    rfl
  · rw [IgnoreReader.parsed_append, List.flatMap_append, ← h.exempt,
      IgnoreReader.flatMap_parsed_singleton _ _ rfl]
    rfl
  · rw [IgnoreReader.parsed_append, List.flatMap_append, ← h.ownerless,
      IgnoreReader.flatMap_parsed_singleton _ _ rfl]
    rfl

/-- **The run.**  After any files, what is kept is what the readers yield for all of them. -/
theorem holds_takeAll (h : x.Holds i files) (more : List SourceFile) :
    x.Holds (x.takeAll i more).value (files ++ more) := by
  induction more generalizing i files with
  | nil => simpa [takeAll] using h
  | cons file more ih =>
    have hstep := ih (holds_take h file)
    rw [List.append_assoc, List.singleton_append] at hstep
    simpa only [takeAll, Logged.value_bind] using hstep

/-- A run that starts with nothing. -/
theorem holds_run (x : CrossReference) (files : List SourceFile) :
    x.Holds (x.takeAll {} files).value files :=
  holds_takeAll (holds_nil x) files

/-! ## 2. Keys of a whole run -/

/-- Some ignore file of the run lists a key with this match key. -/
def Exempt (x : CrossReference) (files : List SourceFile) (k : String) : Prop :=
  ∃ contents ∈ x.ignoreFiles.parsed files, ∃ e ∈ contents.keys, Accessor.keyOf e.key = k

/-- The match key belongs to a string in progress, by the configuration or by an ignore file. -/
def Watched (x : CrossReference) (files : List SourceFile) (k : String) : Prop :=
  (∃ key ∈ x.inProgress, Accessor.keyOf key = k) ∨ x.Exempt files k

/-- Some place of the run uses a string under this match key. -/
def Used (x : CrossReference) (files : List SourceFile) (k : String) : Prop :=
  ∃ r ∈ x.usages.yieldAll files, Accessor.matchKey r.key = k

/-- The match key belongs to a string that is used or may go unused. -/
def Live (x : CrossReference) (files : List SourceFile) (k : String) : Prop :=
  x.Used files k ∨ (∃ key ∈ x.ignored, Accessor.keyOf key = k) ∨ x.Watched files k

instance (x : CrossReference) (files : List SourceFile) (k : String) :
    Decidable (x.Exempt files k) :=
  inferInstanceAs (Decidable (∃ contents ∈ x.ignoreFiles.parsed files,
    ∃ e ∈ contents.keys, Accessor.keyOf e.key = k))

instance (x : CrossReference) (files : List SourceFile) (k : String) :
    Decidable (x.Watched files k) :=
  inferInstanceAs (Decidable (_ ∨ _))

instance (x : CrossReference) (files : List SourceFile) (k : String) :
    Decidable (x.Used files k) :=
  inferInstanceAs (Decidable (∃ r ∈ x.usages.yieldAll files, Accessor.matchKey r.key = k))

instance (x : CrossReference) (files : List SourceFile) (k : String) :
    Decidable (x.Live files k) :=
  inferInstanceAs (Decidable (_ ∨ _ ∨ _))

theorem mem_watchedKeys (h : x.Holds i files) (k : String) :
    k ∈ x.watchedKeys i ↔ x.Watched files k := by
  simp only [watchedKeys, Watched, Exempt, h.exempt, List.mem_append, List.mem_map,
    List.mem_flatMap]
  refine or_congr Iff.rfl ?_
  constructor
  · rintro ⟨e, ⟨contents, hc, he⟩, hk⟩
    exact ⟨contents, hc, e, he, hk⟩
  · rintro ⟨contents, hc, e, he, hk⟩
    exact ⟨e, ⟨contents, hc, he⟩, hk⟩

theorem mem_liveKeys (h : x.Holds i files) (k : String) :
    k ∈ x.liveKeys i ↔ x.Live files k := by
  have hused : k ∈ i.used.map Record.key ↔ x.Used files k := by
    rw [h.used, List.map_map, List.mem_map]
    rfl
  rw [liveKeys, List.mem_append, List.mem_append, hused, mem_watchedKeys h, List.mem_map, or_assoc]
  rfl

/-! ## 3. The parts of the report -/

/-- **Unused strings.**  One violation for each declared record whose key is not empty and whose
match key is not live, in the order in which they were read. -/
theorem unused_eq (h : x.Holds i files) :
    x.unused i =
      ((x.declarations.yieldAll files).filter fun r =>
        decide (r.key ≠ "" ∧ ¬ x.Live files (Accessor.keyOf r.key))).map
          fun r => x.violation (.unused r.key) r.location := by
  rw [unused, h.declared, List.filter_map, List.filterMap_map, List.filterMap_filter,
    ← List.filterMap_eq_map, List.filterMap_filter]
  refine List.filterMap_congr fun r _ => ?_
  -- the accessor of the record is looked up, and its comment is the key as it was declared
  have hlive : (x.liveKeys i).contains (Accessor.matchKey (toDeclared r).key) =
      decide (x.Live files (Accessor.keyOf r.key)) := by
    rw [List.contains_eq_mem]
    exact decide_eq_decide.2 (mem_liveKeys h _)
  have hname : (x.unusedViolation? ∘ toDeclared) r =
      if r.key = "" then none else some (x.violation (.unused r.key) r.location) := rfl
  rw [hname, Function.comp_apply, hlive]
  by_cases hkey : r.key = "" <;> by_cases hl : x.Live files (Accessor.keyOf r.key) <;>
    simp [hkey, hl]

/-- **Strings used too early.**  One violation for each place whose match key is watched, in the
order in which they were read. -/
theorem referenced_eq (h : x.Holds i files) :
    x.referenced i =
      ((x.usages.yieldAll files).filter fun r =>
        decide (x.Watched files (Accessor.matchKey r.key))).map
          fun r => x.violation .referenced r.location := by
  rw [referenced, h.used, List.filter_map, List.map_map]
  have hwatched : ∀ r : Record, (x.watchedKeys i).contains (toUsed r).key =
      decide (x.Watched files (Accessor.matchKey r.key)) := by
    intro r
    rw [List.contains_eq_mem]
    exact decide_eq_decide.2 (mem_watchedKeys h _)
  simp only [Function.comp_def, hwatched]
  rfl

/-- **Ignore files without an owner.**  One violation for each place at which an owner is missing. -/
theorem ownerless_eq (h : x.Holds i files) :
    i.ownerless.map (x.violation .missingOwner) =
      (x.ignoreFiles.parsed files).flatMap fun contents =>
        contents.ownerless.map (x.violation .missingOwner) := by
  rw [h.ownerless, List.map_flatMap]

/-! ## 4. The report -/

/-- **The report is exact.**  Whatever files are handed over, and in whatever order declarations,
uses and ignore files come among them, the report consists of three lists and nothing else: a
declared record is in it unless its key is empty or live, a place that uses a string is in it when
its key is watched, and every missing owner is in it.  Each entry stands once, in reading order, at
the place of its record, and names a declared key as it was declared. -/
theorem findings_takeAll (x : CrossReference) (files : List SourceFile) :
    x.findings (x.takeAll {} files).value =
      (((x.declarations.yieldAll files).filter fun r =>
          decide (r.key ≠ "" ∧ ¬ x.Live files (Accessor.keyOf r.key))).map
            fun r => x.violation (.unused r.key) r.location) ++
        (((x.usages.yieldAll files).filter fun r =>
            decide (x.Watched files (Accessor.matchKey r.key))).map
              fun r => x.violation .referenced r.location) ++
          (x.ignoreFiles.parsed files).flatMap fun contents =>
            contents.ownerless.map (x.violation .missingOwner) := by
  have h := holds_run x files
  rw [findings, unused_eq h, referenced_eq h, ownerless_eq h]

end CrossReference

end CatalogLint
