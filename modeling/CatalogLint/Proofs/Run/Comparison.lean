/-
# Two runs side by side

Readers may be exchanged and options changed, and the question is what this does to the report.  All
answers have one form: what the rules of the two runs find agrees, list by list and in order, when
one side is looked at through `f` and the other through `g`.  With the identity on both sides the
reports are equal; with a function that forgets the severity they agree in everything else.

* `Config.found` is what a run finds before it is sorted, and `Config.found_eq` takes it apart: the
  checks of comments of the preset and the cross reference, each if it is switched on.
* A check of comments is compared record by record (`CommentCheck.map_violations_eq`).  The cross
  reference takes in files step by step, so two of them that are handed the same of every file keep
  the same after every run (`CrossReference.value_takeAll_congr`), and then they are compared finding
  by finding (`CrossReference.map_violations_eq`).
* `Config.map_found_eq` puts the rules together again.
-/
import CatalogLint.Proofs.Run.Rules

namespace CatalogLint

variable {β : Type} {f g : Violation → β}

/-! ## 1. Checks of comments -/

/-- Two checks agree when they are handed the same records, judge them by the same validator, and
agree on every fault of a record. -/
theorem CommentCheck.map_violations_eq {x y : CommentCheck}
    (hread : ∀ file,
      (x.declarations.collect file).value = (y.declarations.collect file).value)
    (hvalidator : x.validator = y.validator)
    (hfault : ∀ r fault, f (x.violation r fault) = g (y.violation r fault))
    (files : List SourceFile) : (x.violations files).map f = (y.violations files).map g := by
  have hdeclared : x.declared files = y.declared files := by simp only [declared, hread]
  have hjudge : ∀ r, (x.judge r).map f = (y.judge r).map g := by
    intro r
    rw [judge, judge, hvalidator]
    cases y.validator.validate r with
    | none => rfl
    | some fault => exact congrArg some (hfault r fault)
  rw [violations, violations, List.map_filterMap, List.map_filterMap, hdeclared]
  simp only [hjudge]

/-! ## 2. The cross reference -/

namespace CrossReference

variable {x y : CrossReference}

/-- `x.ReadsLike y`: whatever file is handed over, the readers of `x` and of `y` give the same. -/
structure ReadsLike (x y : CrossReference) : Prop where
  declarations : ∀ file,
    (x.declarations.collect file).value = (y.declarations.collect file).value
  usages : ∀ file, (x.usages.collect file).value = (y.usages.collect file).value
  ignoreFiles : ∀ file, (x.ignoreFiles.collect file).value = (y.ignoreFiles.collect file).value

/-- **The step.**  A file is taken in alike. -/
theorem value_take_congr (h : x.ReadsLike y) (i : Intake) (file : SourceFile) :
    (x.take i file).value = (y.take i file).value := by
  simp only [take, Logged.value_bind, Logged.value_pure, h.declarations, h.usages, h.ignoreFiles]

/-- **The run.**  After any files, the same is kept. -/
theorem value_takeAll_congr (h : x.ReadsLike y) (i : Intake) (files : List SourceFile) :
    (x.takeAll i files).value = (y.takeAll i files).value := by
  induction files generalizing i with
  | nil => rfl
  | cons file files ih =>
    simp only [takeAll, Logged.value_bind]
    rw [value_take_congr h, ih]

/-- Two comparisons agree when they are handed the same, know the same keys, and agree on every
finding at a place. -/
theorem map_violations_eq (hread : x.ReadsLike y) (hignored : x.ignored = y.ignored)
    (hprogress : x.inProgress = y.inProgress)
    (hfinding : ∀ finding location,
      f (x.violation finding location) = g (y.violation finding location))
    (files : List SourceFile) : (x.violations files).map f = (y.violations files).map g := by
  have hintake := value_takeAll_congr hread {} files
  generalize hx : (x.takeAll {} files).value = i at hintake
  have hwatched : x.watchedKeys i = y.watchedKeys i := by
    rw [watchedKeys, watchedKeys, hprogress]
  have hlive : x.liveKeys i = y.liveKeys i := by
    rw [liveKeys, liveKeys, hignored, hwatched]
  have hunused : ∀ r, (x.unusedViolation? r).map f = (y.unusedViolation? r).map g := by
    intro r
    unfold unusedViolation?
    split
    · split
      · rfl
      · exact congrArg some (hfinding _ _)
    · rfl
  rw [violations, violations, hx, ← hintake]
  simp only [findings, unused, referenced, List.map_append, List.map_filterMap, List.map_map,
    Function.comp_def, hlive, hwatched, hunused, hfinding]

end CrossReference

/-! ## 3. Whole runs -/

/-- What the rules of a run find in files, rule by rule. -/
def Config.found (config : Config) (c : Collaborators) (files : List SourceFile) :
    List Violation :=
  (config.activeRules c).flatMap fun r => r.violations files

/-- The report of a run: what is found, sorted. -/
theorem value_lint_found (files : List SourceFile) (config : Config) (c : Collaborators) :
    (lint files config c).value =
      { violations := Violation.sort (config.found c files), filesChecked := files.length } :=
  value_lint files config c

/-- What a run finds: what the checks of the preset find, and then the cross reference, each if it is
switched on. -/
theorem Config.found_eq (config : Config) (c : Collaborators) (files : List SourceFile) :
    config.found c files =
      ((Preset.resolve config).value.profiles.flatMap fun profile =>
        if (config.isEnabled profile.rule).value then
          (CommentCheck.ofConfig config c.declarationSource profile).value.violations files
        else []) ++
      if (config.isEnabled CrossReference.identifier).value then
        (CrossReference.ofConfig config c.declarationSource c.usageSource
          c.ignoreFiles).value.violations files
      else [] := by
  rw [found, activeRules, Preset.value_rules, List.filter_append, List.flatMap_append]
  congr 1
  · induction (Preset.resolve config).value.profiles with
    | nil => rfl
    | cons profile profiles ih =>
      rw [List.map_cons, List.filter_cons, List.flatMap_cons, ← ih,
        CommentCheck.identifier_rule_ofConfig]
      split
      · rw [List.flatMap_cons]
        rfl
      · rw [List.nil_append]
  · rw [List.filter_singleton]
    change List.flatMap _ (bif (config.isEnabled CrossReference.identifier).value then _ else _) = _
    cases (config.isEnabled CrossReference.identifier).value with
    | false => rfl
    | true => exact List.flatMap_singleton _ _

/-- **Runs agree when their rules do**: the presets are the same, the same of their rules are switched
on, and these agree in pairs. -/
theorem Config.map_found_eq {config config' : Config} {c c' : Collaborators}
    {files : List SourceFile}
    (hpreset : (Preset.resolve config).value = (Preset.resolve config').value)
    (hon : ∀ id ∈ (Preset.resolve config).value.identifiers,
      (config.isEnabled id).value = (config'.isEnabled id).value)
    (hcheck : ∀ profile,
      ((CommentCheck.ofConfig config c.declarationSource profile).value.violations files).map f =
        ((CommentCheck.ofConfig config' c'.declarationSource profile).value.violations files).map g)
    (hcross :
      ((CrossReference.ofConfig config c.declarationSource c.usageSource
          c.ignoreFiles).value.violations files).map f =
        ((CrossReference.ofConfig config' c'.declarationSource c'.usageSource
          c'.ignoreFiles).value.violations files).map g) :
    (config.found c files).map f = (config'.found c' files).map g := by
  rw [found_eq, found_eq, List.map_append, List.map_append, ← hpreset, List.map_flatMap,
    List.map_flatMap]
  congr 1
  · refine List.flatMap_congr fun profile hprofile => ?_
    have hid : profile.rule ∈ (Preset.resolve config).value.identifiers :=
      List.mem_append_left _ (List.mem_map_of_mem hprofile)
    rw [← hon _ hid]
    split
    · exact hcheck profile
    · rfl
  · have hid : CrossReference.identifier ∈ (Preset.resolve config).value.identifiers :=
      List.mem_append_right _ List.mem_cons_self
    rw [← hon _ hid]
    split
    · exact hcross
    · rfl

end CatalogLint
