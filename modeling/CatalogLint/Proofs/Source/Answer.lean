/-
# What a composition answers

A source that is asked about a file does not take it, fails on it, or gives records.  This module says
what several sources answer as one, and that it does not matter how they are grouped.

* `Answer` holds these three cases.  Two answers are JOINED into one: an answer that is none says
  nothing, a failure is forgotten beside records, the first of two failures stays, and records are
  put one behind the other (`Answer.join`).  Joining is associative (`Answer.join_assoc`).
* A composition answers the join of what its sources answer (`Source.answer?_compose`), so a
  composition of compositions answers like all their sources in one (`Source.answer?_compose_nested`).
* The reading of a composition is exact (`Source.compose_exact`): it is said of a file being called
  unsupported, of any other failure and of the records of a success when they arise.  The result alone
  does not tell that no source takes a file (`Source.compose_unsupported_though_taken`).
-/
import CatalogLint.Source.Composition

namespace CatalogLint

/-! ## 1. Joining answers -/

/-- What a reader answers about a file: nothing if it does not take the file, else its reading. -/
abbrev Answer (α : Type) := Option (Except FormatError α)

namespace Answer

variable {α : Type}

/-- Two answers about one file as one. -/
def join : Answer (List α) → Answer (List α) → Answer (List α)
  | none, b => b
  | some a, none => some a
  | some (.ok xs), some (.ok ys) => some (.ok (xs ++ ys))
  | some (.ok xs), some (.error _) => some (.ok xs)
  | some (.error _), some (.ok ys) => some (.ok ys)
  | some (.error e), some (.error _) => some (.error e)

/-- Several answers about one file as one. -/
def joinAll (answers : List (Answer (List α))) : Answer (List α) := answers.foldr join none

theorem join_none (a : Answer (List α)) : join a none = a := by
  rcases a with _ | _ | _ <;> rfl

/-- **It does not matter which answers are joined first.**  With two failures among three answers the
first one stays on either side, unless the third gives records. -/
theorem join_assoc (a b c : Answer (List α)) : join (join a b) c = join a (join b c) := by
  rcases a with _ | e | xs
  · rfl
  · rcases b with _ | e' | ys
    · rfl
    · rcases c with _ | _ | _ <;> rfl
    · rcases c with _ | _ | _ <;> rfl
  · rcases b with _ | e' | ys
    · rfl
    · rcases c with _ | _ | _ <;> rfl
    · rcases c with _ | e'' | zs
      · rfl
      · rfl
      · exact congrArg (fun records => some (Except.ok records)) (List.append_assoc xs ys zs)

theorem joinAll_append (as bs : List (Answer (List α))) :
    joinAll (as ++ bs) = join (joinAll as) (joinAll bs) := by
  induction as with
  | nil => rfl
  | cons a as ih =>
    change join a (joinAll (as ++ bs)) = join (join a (joinAll as)) (joinAll bs)
    rw [ih, join_assoc]

/-- Answers may be joined group by group. -/
theorem joinAll_flatten (groups : List (List (Answer (List α)))) :
    joinAll (groups.map joinAll) = joinAll groups.flatten := by
  induction groups with
  | nil => rfl
  | cons as groups ih =>
    rw [List.flatten_cons, joinAll_append, ← ih]
    rfl

end Answer

/-! ## 2. Merged readings -/

namespace Reading

variable {readings : List Reading}

theorem isSome_failure?_iff {r : Reading} : r.failure?.isSome = true ↔ ∃ e, r = .error e := by
  cases r <;> simp [failure?]

/-- Readings of which one succeeds are merged into the records of all that do. -/
theorem merge_of_not_allFail (h : allFail readings = false) :
    merge readings = .ok (readings.flatMap records) := by
  unfold merge
  split
  · rw [h]
    rfl
  · rfl

/-- Readings that all fail are merged into the first of them. -/
theorem merge_of_allFail {r : Reading} (h : allFail (r :: readings) = true) :
    merge (r :: readings) = r := by
  cases r with
  | ok xs => exact absurd h Bool.false_ne_true
  | error e => exact merge_eq_error_iff.2 ⟨rfl, h⟩

/-- Readings are merged into a failure when all of them fail, and the first one is the reason. -/
theorem merge_cons_eq_error_iff {r : Reading} {e : FormatError} :
    merge (r :: readings) = .error e ↔ r = .error e ∧ ∀ r' ∈ readings, ∃ e', r' = .error e' := by
  have hfails : allFail (r :: readings) = true ↔
      (∃ e', r = .error e') ∧ ∀ r' ∈ readings, ∃ e', r' = .error e' := by
    rw [allFail_cons, Bool.and_eq_true, isSome_failure?_iff, allFail, List.all_eq_true]
    simp only [isSome_failure?_iff]
  constructor
  · intro h
    have hall := (merge_eq_error_iff.1 h).2
    rw [merge_of_allFail hall] at h
    exact ⟨h, (hfails.1 hall).2⟩
  · rintro ⟨hr, hrest⟩
    rw [merge_of_allFail (hfails.2 ⟨⟨e, hr⟩, hrest⟩), hr]

/-- Readings are merged into records when one of them succeeds. -/
theorem merge_eq_ok_iff {xs : List Record} (h : readings ≠ []) :
    merge readings = .ok xs ↔ allFail readings = false ∧ xs = readings.flatMap records := by
  cases hall : allFail readings with
  | false =>
    rw [merge_of_not_allFail hall, Except.ok.injEq]
    exact ⟨fun heq => ⟨rfl, heq.symm⟩, fun heq => heq.2.symm⟩
  | true =>
    obtain ⟨r, rest, rfl⟩ := List.exists_cons_of_ne_nil h
    rw [merge_of_allFail hall]
    rw [allFail_cons, Bool.and_eq_true, isSome_failure?_iff] at hall
    obtain ⟨⟨e, rfl⟩, -⟩ := hall
    refine iff_of_false (fun heq => ?_) fun heq => Bool.false_ne_true heq.1.symm
    cases heq

theorem merge_singleton (r : Reading) : merge [r] = r := by
  cases r with
  | ok xs => exact congrArg Except.ok (List.append_nil xs)
  | error e => rfl

/-- One more reading in front is joined to what the others are merged into. -/
theorem merge_cons (r : Reading) (h : readings ≠ []) :
    some (merge (r :: readings)) = Answer.join (some r) (some (merge readings)) := by
  obtain ⟨first, rest, rfl⟩ := List.exists_cons_of_ne_nil h
  cases hall : allFail (first :: rest) with
  | true =>
    -- nothing but failures behind `r`: they hold no records, and `r` comes before them
    obtain ⟨e, rfl⟩ : ∃ e, first = .error e := by
      cases first with
      | ok xs => exact absurd hall Bool.false_ne_true
      | error e => exact ⟨e, rfl⟩
    rw [merge_of_allFail hall]
    cases r with
    | ok xs =>
      rw [merge_of_not_allFail rfl, List.flatMap_cons, flatMap_records_of_allFail hall,
        List.append_nil]
      rfl
    | error e' =>
      rw [merge_of_allFail (by rw [allFail_cons, hall]; rfl)]
      rfl
  | false =>
    rw [merge_of_not_allFail hall, merge_of_not_allFail (by rw [allFail_cons, hall, Bool.and_false])]
    cases r with
    | ok xs => rfl
    | error e => rfl

end Reading

/-! ## 3. Compositions -/

namespace Source

variable {sources : List Source} {file : SourceFile}

/-- What a source answers about a file. -/
def answer? (s : Source) (file : SourceFile) : Answer (List Record) :=
  if s.supports file then some (s.read file).value else none

/-- The records of a file that a source takes and can read. -/
def parsed? (s : Source) (file : SourceFile) : Option (List Record) :=
  if s.supports file then (s.read file).value.toOption else none

/-- The readings of the sources that take a file. -/
def readings (sources : List Source) (file : SourceFile) : List Reading :=
  (sources.filter fun s => s.supports file).map fun s => (s.read file).value

theorem not_supports_compose_iff :
    (compose sources).supports file = false ↔ ∀ s ∈ sources, s.supports file = false := by
  change (sources.any fun s => s.supports file) = false ↔ _
  simp only [List.any_eq_false, Bool.not_eq_true]

theorem readings_eq_nil_iff :
    readings sources file = [] ↔ (compose sources).supports file = false := by
  rw [not_supports_compose_iff, readings, List.map_eq_nil_iff, List.filter_eq_nil_iff]
  simp only [Bool.not_eq_true]

/-- A composition answers with what is merged of the readings, if there are any. -/
theorem answer?_compose_eq (sources : List Source) (file : SourceFile) :
    (compose sources).answer? file =
      if readings sources file = [] then none else some (Reading.merge (readings sources file)) := by
  rw [answer?]
  cases h : (compose sources).supports file with
  | true =>
    have hreadings : readings sources file ≠ [] := by simp [readings_eq_nil_iff, h]
    rw [if_neg hreadings, value_read_compose h]
    rfl
  | false => rw [if_pos (readings_eq_nil_iff.2 h)]; rfl

/-- **A composition answers the join of the answers.** -/
theorem answer?_compose (sources : List Source) (file : SourceFile) :
    (compose sources).answer? file = Answer.joinAll (sources.map fun s => s.answer? file) := by
  induction sources with
  | nil => rfl
  | cons s ss ih =>
    change _ = Answer.join (s.answer? file) (Answer.joinAll (ss.map fun s => s.answer? file))
    rw [← ih, answer?_compose_eq, answer?_compose_eq, readings, List.filter_cons, answer?]
    split
    · next h =>
      rw [List.map_cons, if_neg (List.cons_ne_nil _ _)]
      change some (Reading.merge (_ :: readings ss file)) = _
      by_cases hnil : readings ss file = []
      · rw [if_pos hnil, hnil, Answer.join_none]
        exact congrArg some (Reading.merge_singleton _)
      · rw [if_neg hnil, Reading.merge_cons _ hnil]
    · rfl

/-- **Compositions may be nested**: a composition of compositions answers like all their sources in
one. -/
theorem answer?_compose_nested (groups : List (List Source)) (file : SourceFile) :
    (compose (groups.map compose)).answer? file = (compose groups.flatten).answer? file := by
  rw [answer?_compose, answer?_compose, List.map_map, List.map_flatten, ← Answer.joinAll_flatten,
    List.map_map]
  exact congrArg Answer.joinAll (List.map_congr_left fun group _ => answer?_compose group file)

theorem isSome_answer? (s : Source) (file : SourceFile) :
    (s.answer? file).isSome = s.supports file := by
  rw [answer?]
  cases s.supports file <;> rfl

/-- The answers of compositions decide what they take and how they read it. -/
theorem read_compose_of_answer?_eq {ss ts : List Source}
    (h : (compose ss).answer? file = (compose ts).answer? file) :
    (compose ss).supports file = (compose ts).supports file ∧
      ((compose ss).read file).value = ((compose ts).read file).value := by
  have hsupports : (compose ss).supports file = (compose ts).supports file := by
    rw [← isSome_answer?, h, isSome_answer?]
  refine ⟨hsupports, ?_⟩
  cases ht : (compose ts).supports file with
  | true =>
    rw [answer?, answer?, if_pos (hsupports.trans ht), if_pos ht] at h
    exact Option.some_inj.1 h
  | false =>
    rw [value_read_compose_of_not_supports (hsupports.trans ht),
      value_read_compose_of_not_supports ht]

/-! ## 4. Exactness -/

/-- Of the sources of a composition that takes a file one is the first to take it. -/
theorem exists_takers (h : (compose sources).supports file = true) :
    ∃ first rest, (sources.filter fun s => s.supports file) = first :: rest := by
  obtain ⟨s, hs, hsup⟩ := List.any_eq_true.1 h
  exact List.exists_cons_of_ne_nil (List.ne_nil_of_mem (List.mem_filter.2 ⟨hs, hsup⟩))

/-- **A composition fails** on a file that some source takes when all that take it fail, for the
reason of the first. -/
theorem read_compose_fails_iff {first : Source} {rest : List Source}
    (htakers : (sources.filter fun s => s.supports file) = first :: rest) (e : FormatError) :
    ((compose sources).read file).value = .error e ↔
      (first.read file).value = .error e ∧
        ∀ s ∈ rest, ∃ e', (s.read file).value = .error e' := by
  have hsup : (compose sources).supports file = true := by
    have hfirst : first ∈ sources.filter fun s => s.supports file := htakers ▸ List.mem_cons_self
    exact List.any_eq_true.2 ⟨first, List.mem_filter.1 hfirst⟩
  rw [value_read_compose hsup, htakers, List.map_cons, Reading.merge_cons_eq_error_iff,
    List.forall_mem_map]

/-- **A composition calls a file unsupported** when no source takes it, and when all that take it fail
and the first of them calls it unsupported. -/
theorem read_compose_unsupported_iff :
    ((compose sources).read file).value = .error (.unsupported file.path) ↔
      (∀ s ∈ sources, s.supports file = false) ∨
        ∃ first rest, (sources.filter fun s => s.supports file) = first :: rest ∧
          (first.read file).value = .error (.unsupported file.path) ∧
          ∀ s ∈ rest, ∃ e', (s.read file).value = .error e' := by
  cases htakers : sources.filter fun s => s.supports file with
  | nil =>
    have hnone : ∀ s ∈ sources, s.supports file = false := fun s hs =>
      Bool.eq_false_iff.2 (List.filter_eq_nil_iff.1 htakers s hs)
    rw [value_read_compose_of_not_supports (not_supports_compose_iff.2 hnone)]
    exact iff_of_true rfl (.inl hnone)
  | cons first rest =>
    obtain ⟨hfirst, hsup⟩ : first ∈ sources ∧ first.supports file = true :=
      List.mem_filter.1 (htakers ▸ List.mem_cons_self)
    rw [read_compose_fails_iff htakers]
    constructor
    · exact fun hfail => .inr ⟨first, rest, rfl, hfail⟩
    · rintro (hnone | ⟨_, _, heq, hfail⟩)
      · exact absurd hsup (Bool.eq_false_iff.1 (hnone first hfirst))
      · obtain ⟨rfl, rfl⟩ := List.cons.inj heq
        exact hfail

theorem isSome_parsed?_iff {s : Source} :
    (s.parsed? file).isSome = true ↔
      s.supports file = true ∧ (s.read file).value.failure?.isSome = false := by
  rw [parsed?]
  split
  · next h =>
    rw [h]
    cases (s.read file).value <;> simp [Reading.failure?, Except.toOption]
  · next h => simp [h]

/-- The records of all readings are those of the sources that can read the file. -/
theorem flatMap_records_readings (sources : List Source) (file : SourceFile) :
    (readings sources file).flatMap Reading.records =
      (sources.filterMap fun s => s.parsed? file).flatten := by
  induction sources with
  | nil => rfl
  | cons s ss ih =>
    rw [readings] at ih ⊢
    rw [List.filterMap_cons, parsed?, List.filter_cons]
    split
    · rw [List.map_cons, List.flatMap_cons, ih]
      cases (s.read file).value <;> rfl
    · exact ih

theorem allFail_readings_eq_false_iff :
    Reading.allFail (readings sources file) = false ↔
      ∃ s ∈ sources, (s.parsed? file).isSome = true := by
  simp only [Reading.allFail, readings, List.all_eq_false, List.mem_map, List.mem_filter,
    isSome_parsed?_iff, Bool.not_eq_true]
  constructor
  · rintro ⟨_, ⟨s, ⟨hs, hsup⟩, rfl⟩, hread⟩
    exact ⟨s, hs, hsup, hread⟩
  · rintro ⟨s, hs, hsup, hread⟩
    exact ⟨_, ⟨s, ⟨hs, hsup⟩, rfl⟩, hread⟩

/-- **A composition succeeds** when some source takes the file and can read it, with the records of
all that do. -/
theorem read_compose_succeeds_iff (records : List Record) :
    ((compose sources).read file).value = .ok records ↔
      (∃ s ∈ sources, (s.parsed? file).isSome = true) ∧
        records = (sources.filterMap fun s => s.parsed? file).flatten := by
  cases hsup : (compose sources).supports file with
  | true =>
    have hreadings : readings sources file ≠ [] := by simp [readings_eq_nil_iff, hsup]
    rw [value_read_compose hsup, ← flatMap_records_readings, ← allFail_readings_eq_false_iff]
    exact Reading.merge_eq_ok_iff hreadings
  | false =>
    refine iff_of_false (fun h => ?_) ?_
    · rw [value_read_compose_of_not_supports hsup] at h
      cases h
    · rintro ⟨⟨s, hs, hparsed⟩, -⟩
      rw [isSome_parsed?_iff, not_supports_compose_iff.1 hsup s hs] at hparsed
      exact Bool.false_ne_true hparsed.1

/-- **The composition of readers is exact, and flattens.**  (i) It calls a file unsupported if and only
if none of its sources takes the file, or all that take it fail and the first of them calls it
unsupported.  (ii) Of those that take the file let one be the first: the composition fails for the
reason of that one if and only if it fails and so do all behind it.  (iii) It succeeds if and only if
one of them can read the file, and gives the records of just those that can, in the order of the
sources.  (iv) So it collects what its sources collect.  (v) Two compositions in one take what all their
sources in one composition take, and read it with the same result, failures included. -/
theorem compose_exact (sources : List Source) (file : SourceFile) :
    (((compose sources).read file).value = .error (.unsupported file.path) ↔
        (∀ s ∈ sources, s.supports file = false) ∨
          ∃ first rest, (sources.filter fun s => s.supports file) = first :: rest ∧
            (first.read file).value = .error (.unsupported file.path) ∧
            ∀ s ∈ rest, ∃ e', (s.read file).value = .error e') ∧
      (∀ first rest, (sources.filter fun s => s.supports file) = first :: rest → ∀ e,
        (((compose sources).read file).value = .error e ↔
          (first.read file).value = .error e ∧
            ∀ s ∈ rest, ∃ e', (s.read file).value = .error e')) ∧
      (∀ records, ((compose sources).read file).value = .ok records ↔
        (∃ s ∈ sources, (s.parsed? file).isSome = true) ∧
          records = (sources.filterMap fun s => s.parsed? file).flatten) ∧
      ((compose sources).collect file).value =
        (sources.flatMap fun s => (s.collect file).value) ∧
      ∀ as bs,
        (compose [compose as, compose bs]).supports file = (compose (as ++ bs)).supports file ∧
          ((compose [compose as, compose bs]).read file).value =
            ((compose (as ++ bs)).read file).value := by
  refine ⟨read_compose_unsupported_iff, fun first rest htakers e => read_compose_fails_iff htakers e,
    read_compose_succeeds_iff, value_collect_compose sources file, fun as bs => ?_⟩
  have hanswer := answer?_compose_nested [as, bs] file
  rw [List.flatten_cons, List.flatten_cons, List.flatten_nil, List.append_nil] at hanswer
  exact read_compose_of_answer?_eq hanswer

/-- A source that reads the same in every file that it takes. -/
def constant (takes : Bool) (reading : Reading) : Source where
  name := "constant"
  supports _ := takes
  read _ := pure reading

/-- A file that is called unsupported by the one source that takes it is called unsupported by the
composition, so this result does not say that no source takes the file. -/
theorem compose_unsupported_though_taken :
    let file : SourceFile := ⟨"a.strings", ""⟩
    let sources := [constant true (.error (.unsupported "a.strings"))]
    ¬ (((compose sources).read file).value = .error (.unsupported file.path) ↔
      ∀ s ∈ sources, s.supports file = false) := by
  intro file sources h
  have hnone := h.1 (read_compose_unsupported_iff.2 (.inr ⟨_, [], rfl, rfl, by simp⟩))
  exact Bool.false_ne_true (hnone _ List.mem_cons_self).symm

/-- Behind a source that does not take the file, one fails and one calls the file unsupported: the first
failure is the reason.  The other way round the file is called unsupported, as it is when the source
that does not take it stands alone.  With a source that finds nothing behind them, nothing is found. -/
theorem compose_exact_failing :
    let file : SourceFile := ⟨"a.strings", ""⟩
    let other := constant false (.ok [{ key := "unread" }])
    let broken := constant true (.error (.undecodable "a.strings" "not a catalogue"))
    let refusing := constant true (.error (.unsupported "a.strings"))
    let unread : List Source := [other, broken, refusing]
    ((compose unread).read file).value = .error (.undecodable "a.strings" "not a catalogue") ∧
      ((compose [other, refusing, broken]).read file).value = .error (.unsupported "a.strings") ∧
      ((compose [other]).read file).value = .error (.unsupported "a.strings") ∧
      ((compose [compose unread, compose [constant true (.ok [])]]).read file).value = .ok [] := by
  intro file other broken refusing unread
  refine ⟨?_, ?_, ?_, ?_⟩
  · exact ((compose_exact unread file).2.1 _ _ rfl _).2 ⟨rfl, List.forall_mem_singleton.2 ⟨_, rfl⟩⟩
  · exact (compose_exact _ file).1.2
      (.inr ⟨refusing, [broken], rfl, rfl, List.forall_mem_singleton.2 ⟨_, rfl⟩⟩)
  · exact (compose_exact _ file).1.2 (.inl (List.forall_mem_singleton.2 rfl))
  · rw [((compose_exact unread file).2.2.2.2 unread _).2]
    exact ((compose_exact _ file).2.2.1 []).2
      ⟨⟨_, List.mem_append_right _ List.mem_cons_self, rfl⟩, rfl⟩

end Source

end CatalogLint
