/-
# Several sources as one

A composition takes what one of its sources takes.  Every source that takes a file reads it, and the
records stand in the order of the sources; a source that fails is logged and left out.  Only when all
of them fail does the composition fail, for the reason of the first.  Main facts: the failure of a
merged reading (`merge_eq_error_iff`), its records (`records_merge`), and the records that a
composition collects (`value_collect_compose`), which are those of its sources one by one.
-/
import CatalogLint.Source.Basic
import CatalogLint.Text.Printable

namespace CatalogLint

/-! ## 1. Merging readings -/

namespace Reading

/-- Why a reading failed. -/
def failure? : Reading → Option FormatError
  | .ok _ => none
  | .error e => some e

/-- The first failure of several readings. -/
def firstFailure? (readings : List Reading) : Option FormatError := readings.findSome? failure?

/-- Whether every reading failed. -/
def allFail (readings : List Reading) : Bool := readings.all fun r => r.failure?.isSome

/-- Several readings of one file as one. -/
def merge (readings : List Reading) : Reading :=
  match firstFailure? readings with
  | some e => if allFail readings then .error e else .ok (readings.flatMap records)
  | none => .ok (readings.flatMap records)

theorem allFail_cons (r : Reading) (rs : List Reading) :
    allFail (r :: rs) = (r.failure?.isSome && allFail rs) := rfl

/-- Merged readings fail when there is one and all fail, for the reason of the first. -/
theorem merge_eq_error_iff {readings : List Reading} {e : FormatError} :
    merge readings = .error e ↔ firstFailure? readings = some e ∧ allFail readings = true := by
  unfold merge
  split
  · next e' he =>
    rw [he]
    split
    · next h => simp [h]
    · next h => simp [h]
  · next he => simp [he]

/-- Readings that all fail have no records. -/
theorem flatMap_records_of_allFail {readings : List Reading} (h : allFail readings = true) :
    readings.flatMap records = [] := by
  induction readings with
  | nil => rfl
  | cons r rs ih =>
    rw [allFail_cons, Bool.and_eq_true] at h
    rw [List.flatMap_cons, ih h.2]
    cases r with
    | ok xs => simp [failure?] at h
    | error e => rfl

/-- Merging loses no record and adds none. -/
theorem records_merge (readings : List Reading) :
    (merge readings).records = readings.flatMap records := by
  unfold merge
  split
  · split
    · next h => rw [flatMap_records_of_allFail h]; rfl
    · rfl
  · rfl

end Reading

/-! ## 2. Composing sources -/

namespace Source

/-- Reads a file as one source of several, which logs its failure. -/
def attempt (file : SourceFile) (s : Source) : Logged Reading := do
  let reading ← s.read file
  if let .error e := reading then
    Logged.log (.readerFailed s.name file.path e)
  return reading

/-- Several sources as one. -/
def compose (sources : List Source) : Source where
  name := "composed"
  supports file := sources.any fun s => s.supports file
  read file :=
    if sources.any fun s => s.supports file then
      Reading.merge <$> (sources.filter fun s => s.supports file).mapM (attempt file)
    else
      pure (.error (.unsupported file.path))

/-- The names of sources as a list in brackets. -/
def listing (sources : List Source) : String :=
  "[" ++ ", ".intercalate (sources.map fun s => Text.quoted s.name) ++ "]"

theorem value_attempt (file : SourceFile) (s : Source) :
    (attempt file s).value = (s.read file).value := by
  unfold attempt
  rw [Logged.value_bind]
  cases (s.read file).value <;> rfl

/-- The reading of a composition: one of each source that takes the file. -/
theorem value_read_compose {sources : List Source} {file : SourceFile}
    (h : (compose sources).supports file = true) :
    ((compose sources).read file).value = Reading.merge
      ((sources.filter fun s => s.supports file).map fun s => (s.read file).value) := by
  have h' : (sources.any fun s => s.supports file) = true := h
  simp only [compose, h', if_true, Logged.value_map, Logged.value_mapM, value_attempt]

theorem value_read_compose_of_not_supports {sources : List Source} {file : SourceFile}
    (h : (compose sources).supports file = false) :
    (compose sources).read file = pure (.error (.unsupported file.path)) := by
  have h' : (sources.any fun s => s.supports file) = false := h
  simp only [compose, h']
  rfl

/-- A composition collects what its sources collect, one after the other. -/
theorem value_collect_compose (sources : List Source) (file : SourceFile) :
    ((compose sources).collect file).value =
      sources.flatMap fun s => (s.collect file).value := by
  rw [value_collect]
  split
  · next h =>
    rw [value_read_compose h, Reading.records_merge]
    clear h
    induction sources with
    | nil => rfl
    | cons s ss ih =>
      rw [List.flatMap_cons, value_collect, List.filter_cons]
      split <;> simp_all
  · next h =>
    symm
    rw [List.flatMap_eq_nil_iff]
    intro s hs
    have : s.supports file = false := by
      have h' : ¬ (sources.any fun s => s.supports file) = true := h
      simp only [List.any_eq_true, not_exists, not_and] at h'
      exact Bool.eq_false_iff.2 (h' s hs)
    simp [value_collect, this]

end Source

end CatalogLint
