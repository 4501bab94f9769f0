/-
# Failing readers leave no trace in a report

A reader that takes a file and cannot read it might as well have found nothing there, or never have
taken the file: the report is the same.  So a reader that fails costs its own records and nothing
else, neither those of another reader of the same file, nor another file, nor another rule.

* A reader answers nothing about a file, or with a reading, which may be a failure (`Answer`).
  `Answer.Mended` relates an answer to itself, and a failure also to an empty reading and to none at
  all.  Whichever it is, the contents are the same (`Answer.Mended.contents_eq`).
* Readers are mended file by file, each for any files on which it fails (`Source.Mended`,
  `IgnoreReader.Mended`, `Collaborators.Mended`).  A rule collects the same from a mended reader, also
  through a composition, although that one keeps books on its failures (`value_collect_compose`).
* So mended readers give the same of every file (`Collaborators.Mended.readsLike`), and a run reports
  the same (`reader_failures_invisible`).
-/
import CatalogLint.Proofs.Run.Detection
import CatalogLint.Proofs.Source.Answer
import CatalogLint.Proofs.Yield

namespace CatalogLint

/-! ## 1. Answers -/

namespace Answer

variable {α : Type} {empty : α} {a b : Answer α}

/-- The contents of an answer.  No answer has none, and neither has a failure. -/
def contents (empty : α) : Answer α → α
  | some (.ok x) => x
  | _ => empty

/-- An answer and what may stand in its place: where it is a failure, an empty reading or no answer;
else only itself. -/
inductive Mended (empty : α) : Answer α → Answer α → Prop
  /-- The answer is left as it is. -/
  | kept (a : Answer α) : Mended empty a a
  /-- A failure becomes a reading without contents. -/
  | emptied (e : FormatError) : Mended empty (some (.error e)) (some (.ok empty))
  /-- A failure becomes a file that is not taken. -/
  | refused (e : FormatError) : Mended empty (some (.error e)) none

/-- **Mending an answer keeps its contents.** -/
theorem Mended.contents_eq (h : Mended empty a b) : contents empty b = contents empty a := by
  cases h with
  | kept => rfl
  | emptied e => rfl
  | refused e => rfl

end Answer

/-! ## 2. Readers -/

namespace Source

/-- `s.Mended t`: the source `t` answers like `s`, but for some files on which `s` fails. -/
def Mended (s t : Source) : Prop :=
  ∀ file, Answer.Mended [] (s.answer? file) (t.answer? file)

theorem value_collect_eq_contents (s : Source) (file : SourceFile) :
    (s.collect file).value = (s.answer? file).contents [] := by
  rw [value_collect, answer?]
  split
  · cases (s.read file).value <;> rfl
  · rfl

theorem Mended.value_collect {s t : Source} (h : s.Mended t) (file : SourceFile) :
    (t.collect file).value = (s.collect file).value := by
  rw [value_collect_eq_contents, value_collect_eq_contents, (h file).contents_eq]

/-- **A composition of mended sources collects the same.**  One failure among several readings, only
failures, and no reading at all come to it in different ways; the records are those of its sources
one by one. -/
theorem value_collect_compose_mended {ss ts : List Source} (h : List.Forall₂ Mended ss ts)
    (file : SourceFile) :
    ((compose ts).collect file).value = ((compose ss).collect file).value := by
  rw [value_collect_compose, value_collect_compose]
  induction h with
  | nil => rfl
  | cons hst _ ih => rw [List.flatMap_cons, List.flatMap_cons, hst.value_collect, ih]

end Source

namespace IgnoreReader

/-- What a reader of ignore files answers about a file. -/
def answer? (reader : IgnoreReader) (file : SourceFile) : Answer IgnoreFile :=
  if reader.supports file then some (reader.read file) else none

/-- `r.Mended s`: the reader `s` answers like `r`, but for some files on which `r` fails. -/
def Mended (r s : IgnoreReader) : Prop :=
  ∀ file, Answer.Mended {} (r.answer? file) (s.answer? file)

theorem value_collect_eq_contents (reader : IgnoreReader) (file : SourceFile) :
    (reader.collect file).value = (reader.answer? file).contents {} := by
  rw [value_collect, answer?]
  split
  · cases reader.read file <;> rfl
  · rfl

theorem Mended.value_collect {r s : IgnoreReader} (h : r.Mended s) (file : SourceFile) :
    (s.collect file).value = (r.collect file).value := by
  rw [value_collect_eq_contents, value_collect_eq_contents, (h file).contents_eq]

end IgnoreReader

/-! ## 3. Runs -/

/-- `c.Mended d`: the readers of `d` are those of `c`, each mended for some files on which it
fails. -/
structure Collaborators.Mended (c d : Collaborators) : Prop where
  declarations : List.Forall₂ Source.Mended c.declarations d.declarations
  usages : List.Forall₂ Source.Mended c.usages d.usages
  ignoreFiles : c.ignoreFiles.Mended d.ignoreFiles

/-- Mended readers give the same of every file. -/
theorem Collaborators.Mended.readsLike {c d : Collaborators} (h : c.Mended d) : d.ReadsLike c where
  declarations := Source.value_collect_compose_mended h.declarations
  usages := Source.value_collect_compose_mended h.usages
  ignoreFiles := h.ignoreFiles.value_collect

/-- The rules of a run find the same with mended readers. -/
theorem Collaborators.Mended.found_eq {c d : Collaborators} (h : c.Mended d) (config : Config)
    (files : List SourceFile) : config.found d files = config.found c files :=
  (Config.DetectsLike.refl config).found_eq h.readsLike (fun _ _ _ => rfl) (fun _ _ => rfl) files

/-- **Failures of readers do not show in a report.**  (i) The report is the same if any readers, each
on any files on which it fails, found nothing there instead, or did not take the file.  (ii) Every
file counts as checked.  (iii) What the readers give together for a file is what each gives by
itself, so one that fails hides no record of another. -/
theorem reader_failures_invisible (config : Config) (c : Collaborators) (files : List SourceFile) :
    (∀ d, c.Mended d → (lint files config d).value = (lint files config c).value) ∧
      (lint files config c).value.filesChecked = files.length ∧
      ∀ file,
        c.declarationSource.yield file = c.declarations.flatMap (fun s => s.yield file) ∧
          c.usageSource.yield file = c.usages.flatMap fun s => s.yield file := by
  refine ⟨fun d h => ?_, congrArg Report.filesChecked (value_lint files config c), fun file => ?_⟩
  · rw [value_lint_found, value_lint_found, h.found_eq]
  · exact ⟨Source.yield_compose c.declarations file, Source.yield_compose c.usages file⟩

/-- A source that takes every file and can read none. -/
def Source.failing : Source where
  name := "failing"
  supports _ := true
  read file := pure (.error (.undecodable file.path "not a catalogue"))

/-- A reader of ignore files that takes every file and can read none. -/
def IgnoreReader.failing : IgnoreReader where
  supports _ := true
  read file := .error (.undecodable file.path "not a list of keys")

/-- A reader of keys behind one that fails on every file, and nothing but failures for uses and ignore
files. -/
def Collaborators.failing : Collaborators where
  declarations := .failing :: ofKeys.declarations
  usages := [.failing]
  ignoreFiles := .failing

/-- Each failing reader is mended in its own way: the first takes only files of the extension `swift`,
the second finds nothing in any file, the third takes no file. -/
def Collaborators.lessFailing : Collaborators where
  declarations :=
    { Source.failing with supports := fun file => file.hasExtension "swift" } :: ofKeys.declarations
  usages := [{ Source.failing with read := fun _ => pure (.ok []) }]

/-- The string that the second reader declares is reported twice, whether the readers beside it fail
or not. -/
theorem reader_failures_invisible_beside :
    Collaborators.failing.Mended .lessFailing ∧
      (lint [⟨"a.strings", "key"⟩, ⟨"b.ignore", "key"⟩] {} .failing).value.violations.length = 2 ∧
      (lint [⟨"a.strings", "key"⟩, ⟨"b.ignore", "key"⟩] {} .lessFailing).value =
        (lint [⟨"a.strings", "key"⟩, ⟨"b.ignore", "key"⟩] {} .failing).value := by
  have hmended : Collaborators.failing.Mended .lessFailing := by
    refine ⟨.cons (fun file => ?_) (.cons (fun file => .kept _) .nil),
      .cons (fun file => .emptied _) .nil, fun file => .refused _⟩
    change Answer.Mended _ (some _) (if file.hasExtension "swift" then some _ else none)
    split
    · exact .kept _
    · exact .refused _
  refine ⟨hmended, ?_, (reader_failures_invisible {} .failing _).1 .lessFailing hmended⟩
  rw [value_lint_found, (Violation.sort_perm _).length_eq]
  decide

end CatalogLint
