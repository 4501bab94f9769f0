/-
# The first requirement that a comment fails

A validator asks several things of a comment, one after the other.  This module states each of them
without the code that checks it, and shows that the verdict is the first that fails.

* A `Requirement` says when it is met and which fault stands for its failure.  `FirstFailing` is the
  verdict of a list of them, and `Profile.requirements` the list of each profile, in order.
* `Checks` relates code to requirements.  Single checks are shown to check theirs, and one check behind
  another checks the requirements of both (`Checks.append`).
* `Verdict` puts the reading of the comment in front.  It is what `validate` returns
  (`validate_eq_iff`), as long as no value has `2 ^ 63` clusters: the number of clusters and the length
  are compared as words with a sign, and no shorter value tells them from the numbers themselves
  (`clampSigned_lt_toSigned_iff`).
-/
import CatalogLint.Proofs.Comment.Parts
import CatalogLint.Proofs.Text.ByteOrder
import Mathlib.Data.List.Sort

namespace CatalogLint.Comment

open Json

variable {members : Table Value} {c : Comment} {r : Record} {result : Option Fault}

/-! ## 1. Requirements -/

/-- Something that is asked of a comment. -/
structure Requirement where
  /-- It is met. -/
  Met : Prop
  /-- The fault that stands for its failure. -/
  Reports : Fault → Prop

/-- **The first of several requirements that fails**, by its fault; nothing if all are met. -/
inductive FirstFailing : List Requirement → Option Fault → Prop
  /-- Nothing is left to ask. -/
  | nil : FirstFailing [] none
  /-- The first requirement fails. -/
  | failed {q : Requirement} {qs : List Requirement} {fault : Fault} (h : ¬ q.Met)
    (hfault : q.Reports fault) : FirstFailing (q :: qs) (some fault)
  /-- The first requirement is met. -/
  | met {q : Requirement} {qs : List Requirement} {result : Option Fault} (h : q.Met)
    (hrest : FirstFailing qs result) : FirstFailing (q :: qs) result

namespace Requirement

/-- Every member is an allowed one.  The fault names the least that is not, by the bytes of its key. -/
def allowedMembers (members : Table Value) : Requirement where
  Met := ∀ m ∈ members, m.1 ∈ allowedKeys
  Reports fault := ∃ m ∈ members, fault = .unknownKey m.1 ∧ m.1 ∉ allowedKeys ∧
    ∀ n ∈ members, n.1 ∉ allowedKeys → Text.bytes m.1 ≤ Text.bytes n.1

/-- There is a description. -/
def described (c : Comment) : Requirement where
  Met := c.description ≠ none
  Reports fault := fault = .missingDescription

/-- The description is not empty. -/
def notEmpty (c : Comment) : Requirement where
  Met := c.description ≠ some ""
  Reports fault := fault = .emptyDescription

/-- Every placeholder is in the vocabulary.  The fault has exactly the others, each once. -/
def knownPlaceholders (vocabulary : List String) (c : Comment) : Requirement where
  Met := ∀ name ∈ c.placeholders.getD [], name ∈ vocabulary
  Reports fault := ∃ names, fault = .unknownPlaceholders names ∧ names.Pairwise (· < ·) ∧
    ∀ name, name ∈ names ↔ name ∈ c.placeholders.getD [] ∧ name ∉ vocabulary

/-- There are as many placeholders as in the string, repetitions counted. -/
def placeholderCount (c : Comment) (r : Record) : Requirement where
  Met := (c.placeholders.getD []).length = r.placeholderCount
  Reports fault := fault = .placeholderCount

/-- There is a screenshot. -/
def screenshot (c : Comment) : Requirement where
  Met := c.screenshot ≠ none
  Reports fault := fault = .missingScreenshot

/-- The screenshot has a valid address. -/
def validAddress (c : Comment) : Requirement where
  Met := ∀ address, c.screenshot = some address → Url.isUrl address
  Reports fault := fault = .invalidScreenshot

/-- No value has more clusters than the comment allows. -/
def shortValues (c : Comment) (r : Record) : Requirement where
  Met := ∀ n, c.greatestLength = some n → ∀ value ∈ r.values, (Text.clusterCount value : Int) ≤ n
  Reports fault := fault = .tooLong

end Requirement

open Requirement

/-- What a profile asks of a comment, in order. -/
def Profile.requirements (vocabulary : List String) (r : Record) (members : Table Value)
    (c : Comment) : Profile → List Requirement
  | full => [allowedMembers members, described c, notEmpty c, knownPlaceholders vocabulary c,
      Requirement.placeholderCount c r, Requirement.screenshot c, validAddress c, shortValues c r]
  | legacy => [described c, notEmpty c, knownPlaceholders vocabulary c,
      Requirement.placeholderCount c r]

/-- **The verdict on a record.**  Its comment must be read, whatever else may be wrong with it; what it
says must then meet the requirements of the profile. -/
inductive Verdict (v : Validator) (r : Record) : Option Fault → Prop
  /-- The comment is missing or is not read. -/
  | unread (h : ∀ members c, ¬ Decodes r.comment members c) : Verdict v r (some .invalidJson)
  /-- The comment is read and has a first fault, or none. -/
  | read {members : Table Value} {c : Comment} {result : Option Fault}
    (h : Decodes r.comment members c)
    (hfirst : FirstFailing (v.profile.requirements v.vocabulary r members c) result) :
    Verdict v r result

/-! ## 2. Checks -/

/-- A check tells the first of some requirements that fails. -/
def Checks (qs : List Requirement) (check : Option Fault) : Prop :=
  ∀ result, check = result ↔ FirstFailing qs result

theorem firstFailing_cons {q : Requirement} {qs : List Requirement} :
    FirstFailing (q :: qs) result ↔
      (q.Met ∧ FirstFailing qs result) ∨
        (¬ q.Met ∧ ∃ fault, result = some fault ∧ q.Reports fault) := by
  constructor
  · rintro (_ | ⟨h, hfault⟩ | ⟨h, hrest⟩)
    · exact .inr ⟨h, _, rfl, hfault⟩
    · exact .inl ⟨h, hrest⟩
  · rintro (⟨h, hrest⟩ | ⟨h, fault, rfl, hfault⟩)
    · exact .met h hrest
    · exact .failed h hfault

theorem firstFailing_nil : FirstFailing [] result ↔ result = none := by
  constructor
  · rintro ⟨⟩
    rfl
  · rintro rfl
    exact .nil

/-- The requirements of a second list count once those of the first are met. -/
theorem firstFailing_append {qs qs' : List Requirement} :
    FirstFailing (qs ++ qs') result ↔
      (FirstFailing qs none ∧ FirstFailing qs' result) ∨
        ∃ fault, result = some fault ∧ FirstFailing qs (some fault) := by
  induction qs with
  | nil => simp [firstFailing_nil]
  | cons q qs ih =>
    rw [List.cons_append, firstFailing_cons, firstFailing_cons, ih]
    simp only [firstFailing_cons]
    by_cases h : q.Met <;> simp [h]

/-- **A check behind another** checks the requirements of both. -/
theorem Checks.append {qs qs' : List Requirement} {check check' : Option Fault} (h : Checks qs check)
    (h' : Checks qs' check') : Checks (qs ++ qs') (check.orElse fun _ => check') := by
  intro result
  rw [firstFailing_append, ← h none, ← h' result]
  simp only [← h (some _)]
  cases check with
  | none => simp
  | some fault => simp [eq_comm]

/-- A check of one requirement: it finds nothing if the requirement is met, and else the one fault that
stands for its failure. -/
theorem Checks.single {q : Requirement} {check : Option Fault} (hmet : q.Met → check = none)
    (hfailed : ¬ q.Met → ∃ fault, check = some fault ∧ ∀ other, q.Reports other ↔ other = fault) :
    Checks [q] check := by
  intro result
  rw [firstFailing_cons, firstFailing_nil]
  by_cases h : q.Met
  · simp [h, hmet h, eq_comm]
  · obtain ⟨fault, hcheck, hreports⟩ := hfailed h
    simp [h, hcheck, hreports, eq_comm]

/-- A check of one requirement that has one fault. -/
theorem Checks.ite {q : Requirement} {p : Prop} [Decidable p] {fault : Fault} (hp : p ↔ ¬ q.Met)
    (hreports : ∀ other, q.Reports other ↔ other = fault) :
    Checks [q] (if p then some fault else none) :=
  .single (fun h => if_neg fun hnot => hp.1 hnot h) fun h => ⟨fault, if_pos (hp.2 h), hreports⟩

namespace Validator

/-- The members of an object ascend, so the first that is not allowed is the least. -/
theorem checks_keys (hsorted : Table.Sorted members) :
    Checks [allowedMembers members] (checkKeys members) := by
  refine .single (fun h => ?_) fun h => ?_
  · rw [checkKeys, List.find?_eq_none.2 fun m hm => by simpa using h m hm, Option.map_none]
  · obtain ⟨m, hm, hunknown⟩ : ∃ m ∈ members, m.1 ∉ allowedKeys := by
      simpa [allowedMembers] using h
    obtain ⟨first, hfirst⟩ : ∃ first, members.find? (!allowedKeys.contains ·.1) = some first :=
      Option.isSome_iff_exists.1 (List.find?_isSome.2 ⟨m, hm, by simpa using hunknown⟩)
    refine ⟨.unknownKey first.1, by rw [checkKeys, hfirst, Option.map_some], fun other => ?_⟩
    obtain ⟨hfirst', before, after, rfl, hbefore⟩ := List.find?_eq_some_iff_append.1 hfirst
    have hleast : ∀ n ∈ before ++ first :: after, n.1 ∉ allowedKeys → n = first ∨ first.1 < n.1 := by
      intro n hn hunknown
      rcases List.mem_append.1 hn with hn | hn
      · exact absurd hunknown (by simpa using hbefore n hn)
      · refine (List.mem_cons.1 hn).imp_right fun hn => ?_
        exact (List.pairwise_cons.1 (List.pairwise_append.1 hsorted).2.1).1 n hn
    constructor
    · rintro ⟨n, hn, rfl, hunknown, hn_least⟩
      rcases hleast n hn hunknown with rfl | hlt
      · rfl
      · have hle := Text.bytes_le_iff.1 (hn_least first (by simp) (by simpa using hfirst'))
        exact absurd hlt (Std.not_lt.2 hle)
    · rintro rfl
      refine ⟨first, by simp, rfl, by simpa using hfirst', fun n hn hunknown => ?_⟩
      rcases hleast n hn hunknown with rfl | hlt
      · exact Text.bytes_le_iff.2 (Std.le_refl _)
      · exact Text.bytes_le_iff.2 (Std.le_of_lt hlt)

/-- Both requirements on descriptions fail for one reason each. -/
theorem checks_description (c : Comment) : Checks [described c, notEmpty c] (checkDescription c) := by
  intro result
  rw [checkDescription]
  simp only [firstFailing_cons, firstFailing_nil, described, notEmpty]
  cases c.description with
  | none => cases result <;> simp [eq_comm]
  | some text => by_cases h : text = "" <;> cases result <;> simp [h, eq_comm]

theorem checks_screenshot (c : Comment) :
    Checks [Requirement.screenshot c, validAddress c] (checkScreenshot c) := by
  intro result
  rw [checkScreenshot]
  simp only [firstFailing_cons, firstFailing_nil, Requirement.screenshot, validAddress]
  cases c.screenshot with
  | none =>
    cases result <;> simp
    exact eq_comm
  | some address =>
    cases h : Url.isUrl address <;> cases result <;> simp [h]
    exact eq_comm

theorem mem_unknownNames {vocabulary names : List String} {name : String} :
    name ∈ unknownNames vocabulary names ↔ name ∈ names ∧ name ∉ vocabulary := by
  simp [unknownNames, Table.mem_distinct]

/-- The names that are told are determined: there is one ascending list of them. -/
theorem reports_unknownNames (vocabulary : List String) (c : Comment) (other : Fault) :
    (knownPlaceholders vocabulary c).Reports other ↔
      other = .unknownPlaceholders (unknownNames vocabulary (c.placeholders.getD [])) := by
  have hascending := Table.distinct_ascending
    ((c.placeholders.getD []).filter fun name => !vocabulary.contains name)
  constructor
  · rintro ⟨names, rfl, hnames, hmem⟩
    rw [hnames.eq_of_mem_iff hascending fun name => (hmem name).trans mem_unknownNames.symm]
    rfl
  · rintro rfl
    exact ⟨_, rfl, hascending, fun name => mem_unknownNames⟩

/-- The unknown placeholders are told before their number is looked at. -/
theorem checks_placeholders (vocabulary : List String) (c : Comment) (r : Record) :
    Checks [knownPlaceholders vocabulary c, Requirement.placeholderCount c r]
      (checkPlaceholders vocabulary c r) := by
  have hunknown : (!(unknownNames vocabulary (c.placeholders.getD [])).isEmpty) ↔
      ¬ (knownPlaceholders vocabulary c).Met := by
    simp [List.eq_nil_iff_forall_not_mem, mem_unknownNames, knownPlaceholders]
  have hcount : (c.placeholders.getD []).length ≠ r.placeholderCount ↔
      ¬ (Requirement.placeholderCount c r).Met := .rfl
  have hcheck := (Checks.ite hunknown (reports_unknownNames vocabulary c)).append
    (.ite hcount fun other => (.rfl : other = .placeholderCount ↔ _))
  rw [checkPlaceholders]
  split
  · next h =>
    rw [if_pos h] at hcheck
    exact hcheck
  · next h =>
    rw [if_neg h] at hcheck
    exact hcheck

/-- The two words that are compared tell which of the two numbers is greater. -/
theorem clampSigned_lt_toSigned_iff {n : Int} {count : Nat} (h : count < Number.signedLimit) :
    Number.clampSigned n < Number.toSigned count ↔ n < count := by
  rw [Number.toSigned, if_pos h]
  rw [Number.signedLimit] at h
  rw [Number.clampSigned, Number.signedLimit]
  omega

theorem checks_length (c : Comment) {r : Record}
    (h : ∀ value ∈ r.values, Text.clusterCount value < Number.signedLimit) :
    Checks [shortValues c r] (checkLength c.held r) := by
  rw [checkLength, held]
  cases hgreatest : c.greatestLength with
  | none => exact .single (fun _ => rfl) fun hnot => absurd (by simp [shortValues, hgreatest]) hnot
  | some n =>
    dsimp only [Option.map_some]
    have hany :
        (r.values.any fun v => Number.clampSigned n < Number.toSigned (Text.clusterCount v)) ↔
          ¬ (shortValues c r).Met := by
      simp only [shortValues, hgreatest, List.any_eq_true, decide_eq_true_eq, Option.some_inj,
        forall_eq', not_forall, not_le, exists_prop]
      exact exists_congr fun value => and_congr_right fun hvalue =>
        clampSigned_lt_toSigned_iff (h value hvalue)
    exact .ite hany fun _ => .rfl

/-! ## 3. The verdict -/

/-- The checks of each profile check its requirements. -/
theorem checks_check (v : Validator) (hsorted : Table.Sorted members)
    (h : ∀ value ∈ r.values, Text.clusterCount value < Number.signedLimit) :
    Checks (v.profile.requirements v.vocabulary r members c) (v.check members c.held r) := by
  have hdescription := checks_description c
  have hplaceholders := checks_placeholders v.vocabulary c r
  rw [check]
  cases v.profile with
  | full =>
    exact (checks_keys hsorted).append (hdescription.append (hplaceholders.append
      ((checks_screenshot c).append (checks_length c h))))
  | legacy => exact hdescription.append hplaceholders

/-- **The verdict is the first requirement that fails.**  A record gets no fault exactly when its
comment is read and meets every requirement of the profile, and else the fault of the first one that
it fails; a comment that is not read has no other fault. -/
theorem validate_eq_iff (v : Validator)
    (h : ∀ value ∈ r.values, Text.clusterCount value < Number.signedLimit) :
    v.validate r = result ↔ Verdict v r result := by
  constructor
  · rintro rfl
    by_cases hread : ∃ members c, Decodes r.comment members c
    · obtain ⟨members, c, hdecodes⟩ := hread
      refine .read hdecodes ?_
      rw [v.validate_of_decodes hdecodes]
      obtain ⟨s, -, hs⟩ := hdecodes.object
      exact (checks_check v (sorted_of_read? hs) h _).1 rfl
    · push Not at hread
      rw [v.validate_of_not_decodes hread]
      exact .unread hread
  · rintro (hread | ⟨hdecodes, hfirst⟩)
    · exact v.validate_of_not_decodes hread
    · rw [v.validate_of_decodes hdecodes]
      obtain ⟨s, -, hs⟩ := hdecodes.object
      exact (checks_check v (sorted_of_read? hs) h _).2 hfirst

/-- Two names are not in the vocabulary, one of them twice.  They are told, although the number of the
placeholders and the screenshot are wrong too. -/
theorem validate_eq_iff_placeholders :
    (∀ value ∈ ["ab"], Text.clusterCount value < Number.signedLimit) ∧
      Verdict {}
        { key := "k"
          comment := some
            "\x7b\"placeholders\":[\"b\",\"a\",\"b\"],\"img\":\"\",\"description\":\"x\"\x7d"
          values := ["ab"] }
        (some (.unknownPlaceholders ["a", "b"])) := by
  have hshort : ∀ value ∈ ["ab"], Text.clusterCount value < Number.signedLimit := by
    decide +kernel
  refine ⟨hshort, (validate_eq_iff {} hshort).1 ?_⟩
  decide +kernel

end Validator

end CatalogLint.Comment
