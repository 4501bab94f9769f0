/-
# What more files change for the cross reference

Files are handed over one after the other, and a report may be asked for at any time.  This module
compares the report after some files with the report after more of them, violation by violation and
with multiplicity.

The two directions of the comparison behave differently.  A place that uses a string too early and a
missing owner stay in the report for good.  An unused string may vanish from it, once a later file
uses it or exempts it, but it never comes into the report unless it is declared anew.  An ignore file
does both at once: it takes unused strings out and puts places that were read before in.

* `count_map_violation` counts violations in a list of findings: violations of different findings, or
  at different places, differ (`violation_inj`).
* Each kind of finding has a count of its own over what the readers yield (`count_unused`,
  `count_referenced`, `count_missingOwner`), and in it the files occur only through the keys that are
  watched or live.
* Those keys grow with the files, and only by what the new files use or list (`watched_append`,
  `live_append`).
-/
import CatalogLint.Proofs.CrossReference.Findings
import CatalogLint.Proofs.Reason
import CatalogLint.Proofs.Run.Rules

namespace CatalogLint

namespace CrossReference

variable {x : CrossReference} {files more : List SourceFile}

/-! ## 1. Counting violations -/

/-- A violation tells the finding and the place. -/
theorem violation_inj {a b : Rule.Finding} {l m : Location}
    (h : x.violation a l = x.violation b m) : a = b ∧ l = m := by
  exact ⟨(reason_eq_iff rfl).1 (congrArg Violation.reason h), congrArg Violation.location h⟩

theorem violation_beq (x : CrossReference) (a b : Rule.Finding) (l m : Location) :
    (x.violation a l == x.violation b m) = decide (a = b ∧ l = m) := by
  by_cases h : a = b ∧ l = m
  · simp [h.1, h.2]
  · have hne : x.violation a l ≠ x.violation b m := fun he => h (violation_inj he)
    simp [h, hne]

/-- The violations of a finding at a place, in a list of violations that are made one by one. -/
theorem count_map_violation {α : Type} (x : CrossReference) (finding : α → Rule.Finding)
    (place : α → Location) (as : List α) (f : Rule.Finding) (l : Location) :
    (as.map fun a => x.violation (finding a) (place a)).count (x.violation f l) =
      as.countP fun a => decide (finding a = f ∧ place a = l) := by
  rw [List.count, List.countP_map]
  simp only [Function.comp_def, violation_beq]

/-! ## 2. The counts of a report -/

/-- The report of a run, in its three parts. -/
theorem violations_eq_parts (x : CrossReference) (files : List SourceFile) :
    x.violations files =
      ((x.declarations.yieldAll files).filter fun r =>
          decide (r.key ≠ "" ∧ ¬ x.Live files (Accessor.keyOf r.key))).map
            (fun r => x.violation (.unused r.key) r.location) ++
        ((x.usages.yieldAll files).filter fun r =>
          decide (x.Watched files (Accessor.matchKey r.key))).map
            (fun r => x.violation .referenced r.location) ++
        ((x.ignoreFiles.parsed files).flatMap IgnoreFile.ownerless).map
          (x.violation .missingOwner) := by
  have h := holds_run x files
  rw [violations, findings, unused_eq h, referenced_eq h, h.ownerless]

/-- How often a finding is reported at a place: the three parts are counted one by one. -/
theorem count_violations (x : CrossReference) (files : List SourceFile) (f : Rule.Finding)
    (l : Location) :
    (x.violations files).count (x.violation f l) =
      ((x.declarations.yieldAll files).filter fun r =>
          decide (r.key ≠ "" ∧ ¬ x.Live files (Accessor.keyOf r.key))).countP
            (fun r => decide (.unused r.key = f ∧ r.location = l)) +
        ((x.usages.yieldAll files).filter fun r =>
          decide (x.Watched files (Accessor.matchKey r.key))).countP
            (fun r => decide (.referenced = f ∧ r.location = l)) +
        ((x.ignoreFiles.parsed files).flatMap IgnoreFile.ownerless).countP
          (fun place => decide (.missingOwner = f ∧ place = l)) := by
  have hownerless := count_map_violation x (fun _ => .missingOwner) id
    ((x.ignoreFiles.parsed files).flatMap IgnoreFile.ownerless) f l
  rw [violations_eq_parts, List.count_append, List.count_append, count_map_violation,
    count_map_violation]
  exact congrArg _ hownerless

/-- **Unused strings.**  A key is reported at a place as often as it is declared there, or not at
all. -/
theorem count_unused (x : CrossReference) (files : List SourceFile) (key : String) (l : Location) :
    (x.violations files).count (x.violation (.unused key) l) =
      if key ≠ "" ∧ ¬ x.Live files (Accessor.keyOf key) then
        (x.declarations.yieldAll files).countP fun r => decide (r.key = key ∧ r.location = l)
      else 0 := by
  rw [count_violations, List.countP_filter]
  simp only [Rule.Finding.unused.injEq, reduceCtorEq, false_and, decide_false, List.countP_false,
    Function.const_apply, Nat.add_zero]
  split
  · next h =>
    refine List.countP_congr fun r _ => ?_
    simp only [Bool.and_eq_true, decide_eq_true_eq, and_iff_left_iff_imp]
    rintro ⟨rfl, -⟩
    exact h
  · next h =>
    refine List.countP_eq_zero.2 fun r _ => ?_
    simp only [Bool.and_eq_true, decide_eq_true_eq]
    rintro ⟨⟨rfl, -⟩, hr⟩
    exact h hr

/-- **Strings used too early.**  Each use at a place counts whose key is watched. -/
theorem count_referenced (x : CrossReference) (files : List SourceFile) (l : Location) :
    (x.violations files).count (x.violation .referenced l) =
      (x.usages.yieldAll files).countP fun r =>
        decide (r.location = l ∧ x.Watched files (Accessor.matchKey r.key)) := by
  rw [count_violations, List.countP_filter (l := x.usages.yieldAll files)]
  simp

/-- **Missing owners.**  Each counts. -/
theorem count_missingOwner (x : CrossReference) (files : List SourceFile) (l : Location) :
    (x.violations files).count (x.violation .missingOwner l) =
      ((x.ignoreFiles.parsed files).flatMap IgnoreFile.ownerless).countP
        fun place => decide (place = l) := by
  rw [count_violations]
  simp

/-! ## 3. Keys of more files -/

theorem used_append (k : String) : x.Used (files ++ more) k ↔ x.Used files k ∨ x.Used more k := by
  simp only [Used, Source.yieldAll_append, List.mem_append, or_and_right, exists_or]

theorem exempt_append (k : String) :
    x.Exempt (files ++ more) k ↔ x.Exempt files k ∨ x.Exempt more k := by
  simp only [Exempt, IgnoreReader.parsed_append, List.mem_append, or_and_right, exists_or]

theorem watched_append (k : String) :
    x.Watched (files ++ more) k ↔ x.Watched files k ∨ x.Exempt more k := by
  rw [Watched, Watched, exempt_append, or_assoc]

/-- More keys are live by what the new files use or list, and by nothing else. -/
theorem live_append (k : String) :
    x.Live (files ++ more) k ↔ x.Live files k ∨ x.Used more k ∨ x.Exempt more k := by
  rw [Live, Live, used_append, watched_append]
  simp only [or_assoc, or_left_comm]

/-! ## 4. The comparison -/

/-- What only a use or an entry of an ignore file can do: a string that some files leave unused stays
unused with files that have neither. -/
theorem count_unused_append_of_not_live {key : String} (hused : ¬ x.Used more (Accessor.keyOf key))
    (hexempt : ¬ x.Exempt more (Accessor.keyOf key)) (l : Location) :
    (x.violations files).count (x.violation (.unused key) l) ≤
      (x.violations (files ++ more)).count (x.violation (.unused key) l) := by
  rw [count_unused, count_unused, Source.yieldAll_append, List.countP_append]
  simp only [live_append, hused, hexempt, or_false]
  split
  · exact Nat.le_add_right _ _
  · exact Nat.le_refl 0

/-- Files that hold declarations only change no key. -/
theorem keys_append_of_declarations (hused : x.usages.yieldAll more = [])
    (hexempt : ∀ contents ∈ x.ignoreFiles.parsed more, contents.keys = []) (k : String) :
    ¬ x.Used more k ∧ ¬ x.Exempt more k := by
  constructor
  · rintro ⟨r, hr, -⟩
    rw [hused] at hr
    exact List.not_mem_nil hr
  · rintro ⟨contents, hc, e, he, -⟩
    rw [hexempt contents hc] at he
    exact List.not_mem_nil he

/-- **Declarations only add.**  Files that hold nothing else leave the report as it is, but for the
unused strings that they declare. -/
theorem violations_append_of_declarations (hused : x.usages.yieldAll more = [])
    (hignore : ∀ contents ∈ x.ignoreFiles.parsed more,
      contents.keys = [] ∧ contents.ownerless = []) :
    (x.violations (files ++ more)).Perm
      (x.violations files ++ ((x.declarations.yieldAll more).filter fun r =>
        decide (r.key ≠ "" ∧ ¬ x.Live files (Accessor.keyOf r.key))).map
          fun r => x.violation (.unused r.key) r.location) := by
  have hkeys := keys_append_of_declarations hused fun contents hc => (hignore contents hc).1
  have hlive : ∀ k, x.Live (files ++ more) k ↔ x.Live files k := by
    intro k
    rw [live_append, or_iff_left (not_or.2 (hkeys k))]
  have hwatched : ∀ k, x.Watched (files ++ more) k ↔ x.Watched files k := by
    intro k
    rw [watched_append, or_iff_left (hkeys k).2]
  have hownerless : (x.ignoreFiles.parsed more).flatMap IgnoreFile.ownerless = [] :=
    List.flatMap_eq_nil_iff.2 fun contents hc => (hignore contents hc).2
  rw [violations_eq_parts, violations_eq_parts]
  simp only [hlive, hwatched, Source.yieldAll_append, IgnoreReader.parsed_append, hused, hownerless,
    List.flatMap_append, List.append_nil, List.filter_append, List.map_append, List.append_assoc]
  -- the new declarations stand behind the old ones, and move to the end
  refine List.Perm.append_left _ ?_
  rw [← List.append_assoc (List.map _ (List.filter _ (x.usages.yieldAll files)))]
  exact List.perm_append_comm

/-- **More files.**  (i) What is reported about a place that uses a string too early, or about a
missing owner, is reported at least as often after more files.  (ii) An unused string is reported no
more often than before, but for its new declarations.  (iii) It is reported less often only if a new
file uses its key or lists it as exempt.  (iv) If the new files hold nothing but declarations,
everything stays, and all that is new are unused strings that they declare. -/
theorem violations_append_monotone (x : CrossReference) (files more : List SourceFile) :
    (∀ l,
      (x.violations files).count (x.violation .referenced l) ≤
          (x.violations (files ++ more)).count (x.violation .referenced l) ∧
        (x.violations files).count (x.violation .missingOwner l) ≤
          (x.violations (files ++ more)).count (x.violation .missingOwner l)) ∧
      (∀ key l,
        (x.violations (files ++ more)).count (x.violation (.unused key) l) ≤
          (x.violations files).count (x.violation (.unused key) l) +
            (x.declarations.yieldAll more).countP
              fun r => decide (r.key = key ∧ r.location = l)) ∧
      (∀ key l,
        (x.violations (files ++ more)).count (x.violation (.unused key) l) <
            (x.violations files).count (x.violation (.unused key) l) →
          x.Used more (Accessor.keyOf key) ∨ x.Exempt more (Accessor.keyOf key)) ∧
      (x.usages.yieldAll more = [] →
        (∀ contents ∈ x.ignoreFiles.parsed more,
          contents.keys = [] ∧ contents.ownerless = []) →
        (x.violations (files ++ more)).Perm
          (x.violations files ++ ((x.declarations.yieldAll more).filter fun r =>
            decide (r.key ≠ "" ∧ ¬ x.Live files (Accessor.keyOf r.key))).map
              fun r => x.violation (.unused r.key) r.location)) := by
  refine ⟨fun l => ⟨?_, ?_⟩, fun key l => ?_, fun key l h => ?_, fun hused hignore => ?_⟩
  · rw [count_referenced, count_referenced, Source.yieldAll_append, List.countP_append]
    refine Nat.le_trans (List.countP_mono_left fun r _ hr => ?_) (Nat.le_add_right _ _)
    simp only [decide_eq_true_eq, watched_append] at hr ⊢
    exact ⟨hr.1, .inl hr.2⟩
  · rw [count_missingOwner, count_missingOwner, IgnoreReader.parsed_append, List.flatMap_append,
      List.countP_append]
    exact Nat.le_add_right _ _
  · rw [count_unused, count_unused, Source.yieldAll_append, List.countP_append]
    simp only [live_append]
    split
    · next h =>
      have h' : key ≠ "" ∧ ¬ x.Live files (Accessor.keyOf key) := ⟨h.1, fun hl => h.2 (.inl hl)⟩
      exact Nat.le_of_eq (by rw [if_pos h'])
    · exact Nat.zero_le _
  · by_contra hnone
    rw [not_or] at hnone
    exact absurd (count_unused_append_of_not_live hnone.1 hnone.2 l) (Nat.not_le.2 h)
  · exact violations_append_of_declarations hused hignore

/-- A comparison of keys: a file of the extension `strings` declares its text, and one of the
extension `ignore` exempts it. -/
def ofKeys : CrossReference where
  declarations := Collaborators.ofKeys.declarationSource
  usages := Collaborators.ofKeys.usageSource
  ignoreFiles := Collaborators.ofKeys.ignoreFiles

/-- A key is declared and then exempt, which takes it out of the report, or a second key is declared,
which adds it. -/
theorem violations_append_monotone_exempt :
    (ofKeys.violations ([⟨"a.strings", "key"⟩] ++ [⟨"b.ignore", "key"⟩])).count
          (ofKeys.violation (.unused "key") { file := "a.strings" }) <
        (ofKeys.violations [⟨"a.strings", "key"⟩]).count
          (ofKeys.violation (.unused "key") { file := "a.strings" }) ∧
      (ofKeys.Used [⟨"b.ignore", "key"⟩] (Accessor.keyOf "key") ∨
        ofKeys.Exempt [⟨"b.ignore", "key"⟩] (Accessor.keyOf "key")) ∧
      ofKeys.usages.yieldAll [⟨"c.strings", "other"⟩] = [] ∧
      ofKeys.ignoreFiles.parsed [⟨"c.strings", "other"⟩] = [] ∧
      (ofKeys.violations ([⟨"a.strings", "key"⟩] ++ [⟨"c.strings", "other"⟩])).Perm
        (ofKeys.violations [⟨"a.strings", "key"⟩] ++
          [ofKeys.violation (.unused "other") { file := "c.strings" }]) := by
  have hless : (ofKeys.violations ([⟨"a.strings", "key"⟩] ++ [⟨"b.ignore", "key"⟩])).count
        (ofKeys.violation (.unused "key") { file := "a.strings" }) <
      (ofKeys.violations [⟨"a.strings", "key"⟩]).count
        (ofKeys.violation (.unused "key") { file := "a.strings" }) := by
    rw [count_unused, count_unused]
    decide
  have hused : ofKeys.usages.yieldAll [⟨"c.strings", "other"⟩] = [] := by decide
  have hignore : ofKeys.ignoreFiles.parsed [⟨"c.strings", "other"⟩] = [] := by decide
  have hexempt := (violations_append_monotone ofKeys [⟨"a.strings", "key"⟩]
    [⟨"b.ignore", "key"⟩]).2.2.1 "key" { file := "a.strings" } hless
  have hperm := (violations_append_monotone ofKeys [⟨"a.strings", "key"⟩]
    [⟨"c.strings", "other"⟩]).2.2.2 hused (by simp [hignore])
  exact ⟨hless, hexempt, hused, hignore, hperm⟩

end CrossReference

end CatalogLint
