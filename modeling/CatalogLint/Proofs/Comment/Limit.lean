/-
# The greatest length of a value

A comment may limit the length of the values by a number, and a number comes in three forms.  The limit
is held as a word with a sign before it is compared, and a number that is no such word as it was read
goes through a double on the way.  Both steps lose something.  None of it is seen: what is compared are
the number of clusters and the number as it is written.

* `MeetsEarlier` is all that the full profile asks of a comment before it comes to the length, said of
  its members.  Behind it there is nothing but the length (`validate_of_meetsEarlier`), and a limit that
  is no integer is found in front of it (`validate_of_not_integer`).
* `length_limit_exact` says the verdict by the exact value of the limit, for every number that a text
  can hold, and that the two words are compared as the exact values are.
-/
import CatalogLint.Proofs.Comment.Verdict
import Mathlib

namespace CatalogLint

open Json CatalogLint.Number

namespace Comment

variable {members : Table Value} {r : Record} {x : Number} {vocabulary : List String}

/-- **All that is asked before the length.**  The comment is an object that has no other members than
allowed ones.  Its description is there and is not empty, its placeholders are known and as many as in
the string, and its screenshot has a valid address. -/
structure MeetsEarlier (vocabulary : List String) (r : Record) (members : Table Value) : Prop where
  object : ∃ s, r.comment = some s ∧ Value.read? s = some (.object members)
  allowed : ∀ m ∈ members, m.1 ∈ allowedKeys
  description : ∃ text, Table.get? members "description" = some (.string text) ∧ text ≠ ""
  placeholders : ∃ names : Option (List String),
    Holds (fun v names => v = .array (names.map .string)) (Table.get? members "placeholders") names ∧
      (∀ name ∈ names.getD [], name ∈ vocabulary) ∧ (names.getD []).length = r.placeholderCount
  screenshot : ∃ address, Table.get? members "img" = some (.string address) ∧ Url.isUrl address

namespace Validator

/-- A comment whose limit is no integer is not read. -/
theorem validate_of_not_integer (v : Validator)
    (hobject : ∃ s, r.comment = some s ∧ Value.read? s = some (.object members))
    (hx : Table.get? members "max_character_count" = some (.number x))
    (hnot : ∀ n : Int, x.rational? ≠ some (n : ℚ)) : v.validate r = some .invalidJson := by
  refine v.validate_of_not_decodes fun members' c hdecodes => ?_
  obtain ⟨s, hs, hread⟩ := hobject
  obtain ⟨s', hs', hread'⟩ := hdecodes.object
  obtain rfl : s = s' := Option.some_inj.1 (hs.symm.trans hs')
  obtain rfl : members = members' := Value.object.inj (Option.some_inj.1 (hread.symm.trans hread'))
  have hlength := hdecodes.parts.greatestLength
  rw [hx] at hlength
  generalize c.greatestLength = limit at hlength
  obtain - | - | ⟨y, hy, hinteger⟩ := hlength
  exact hnot _ (Value.number.inj hy ▸ hinteger)

/-- **Behind everything else there is only the length**: a value has more clusters than the limit, or
nothing is wrong. -/
theorem validate_of_meetsEarlier (h : MeetsEarlier vocabulary r members) {n : Int}
    (hx : Table.get? members "max_character_count" = some (.number x))
    (hn : x.rational? = some (n : ℚ))
    (hshort : ∀ value ∈ r.values, Text.clusterCount value < signedLimit) :
    (∃ value ∈ r.values, n < (Text.clusterCount value : Int)) ∧
        validate { vocabulary } r = some .tooLong ∨
      (∀ value ∈ r.values, (Text.clusterCount value : Int) ≤ n) ∧
        validate { vocabulary } r = none := by
  obtain ⟨s, -, hread⟩ := h.object
  obtain ⟨text, htext, hne⟩ := h.description
  obtain ⟨names, hnames, hknown, hcount⟩ := h.placeholders
  obtain ⟨address, haddress, hurl⟩ := h.screenshot
  obtain ⟨c, hc⟩ : ∃ c : Comment, c = ⟨some text, names, some address, some n⟩ := ⟨_, rfl⟩
  have hdecodes : Decodes r.comment members c := by
    subst hc
    exact ⟨h.object, htext ▸ .given rfl, hnames, haddress ▸ .given rfl, hx ▸ .given ⟨x, rfl, hn⟩⟩
  -- all requirements are met but the last, which decides
  have hlast {result : Option Fault} (hresult : FirstFailing [.shortValues c r] result) :
      validate { vocabulary } r = result := by
    rw [validate_of_decodes _ hdecodes]
    refine (checks_check _ (sorted_of_read? hread) hshort _).2 ?_
    subst hc
    exact .met h.allowed <| .met (by simp [Requirement.described]) <|
      .met (by simpa [Requirement.notEmpty] using hne) <| .met hknown <| .met hcount <|
      .met (by simp [Requirement.screenshot]) <|
      .met (fun a ha => Option.some_inj.1 ha ▸ hurl) hresult
  by_cases hlong : ∃ value ∈ r.values, n < (Text.clusterCount value : Int)
  · refine .inl ⟨hlong, hlast (.failed (fun hmet => ?_) rfl)⟩
    obtain ⟨value, hvalue, hlt⟩ := hlong
    exact absurd (hmet n (by rw [hc]) value hvalue) (not_le.2 hlt)
  · push Not at hlong
    refine .inr ⟨hlong, hlast (.met (fun k hk => ?_) .nil)⟩
    rw [hc] at hk
    exact Option.some_inj.1 hk ▸ hlong

/-- The verdict behind everything else, by the value of the limit. -/
theorem verdict_of_meetsEarlier (h : MeetsEarlier vocabulary r members) {n : Int}
    (hx : Table.get? members "max_character_count" = some (.number x))
    (hn : x.rational? = some (n : ℚ))
    (hshort : ∀ value ∈ r.values, Text.clusterCount value < signedLimit) :
    validate { vocabulary } r ≠ some .invalidJson ∧
      (validate { vocabulary } r = some .tooLong ↔
        ∃ value ∈ r.values, (n : ℚ) < (Text.clusterCount value : ℚ)) ∧
      (validate { vocabulary } r = none ↔
        ∀ value ∈ r.values, (Text.clusterCount value : ℚ) ≤ n) := by
  have hlt (value : String) :
      ((n : ℚ) < (Text.clusterCount value : ℚ)) ↔ n < (Text.clusterCount value : Int) := by
    exact_mod_cast Iff.rfl
  have hle (value : String) :
      ((Text.clusterCount value : ℚ) ≤ n) ↔ (Text.clusterCount value : Int) ≤ n := by
    exact_mod_cast Iff.rfl
  simp only [hlt, hle]
  rcases validate_of_meetsEarlier h hx hn hshort with ⟨hlong, hverdict⟩ | ⟨hall, hverdict⟩
  · rw [hverdict]
    exact ⟨nofun, iff_of_true rfl hlong, iff_of_false nofun (by simpa using hlong)⟩
  · rw [hverdict]
    exact ⟨nofun, iff_of_false nofun (by simpa using hall), iff_of_true rfl hall⟩

/-- **Lengths are compared exactly.**  If a comment meets all that is asked before the length, its limit
has an exact value, and the value alone decides.  If it is no integer, the comment is not read.  If it is
one, the comment is refused when some value has more clusters, and accepted else.  The comparison of the
two words tells which values these are.  Under a negative limit they are all values, so that only a
record without values is accepted. -/
theorem length_limit_exact (h : MeetsEarlier vocabulary r members)
    (hx : Table.get? members "max_character_count" = some (.number x))
    (hshort : ∀ value ∈ r.values, Text.clusterCount value < signedLimit) :
    ∃ q : ℚ, x.rational? = some q ∧
      (validate { vocabulary } r = some .invalidJson ↔ ¬ ∃ n : Int, q = n) ∧
      ((∃ n : Int, q = n) →
        (validate { vocabulary } r = some .tooLong ↔
          ∃ value ∈ r.values, q < (Text.clusterCount value : ℚ)) ∧
        (validate { vocabulary } r = none ↔
          ∀ value ∈ r.values, (Text.clusterCount value : ℚ) ≤ q) ∧
        (∃ limit, length? (.number x) = some limit ∧ fitsSigned limit ∧ ∀ value ∈ r.values,
          (limit < toSigned (Text.clusterCount value) ↔ q < (Text.clusterCount value : ℚ))) ∧
        (q < 0 → (validate { vocabulary } r = some .tooLong ↔ r.values ≠ []))) := by
  obtain ⟨s, -, hread⟩ := h.object
  have hfits : x.Fits := Value.fits_of_read? hread hx
  obtain ⟨q, hq⟩ := hfits.exists_rational?
  refine ⟨q, hq, ?_⟩
  by_cases hinteger : ∃ n : Int, q = n
  · obtain ⟨n, rfl⟩ := hinteger
    obtain ⟨hread, hlong, hnone⟩ := verdict_of_meetsEarlier h hx hq hshort
    refine ⟨iff_of_false hread (not_not.2 ⟨n, rfl⟩), fun _ => ⟨hlong, hnone, ?_, fun hn => ?_⟩⟩
    · refine ⟨clampSigned n, ?_, fitsSigned_clampSigned n, fun value hvalue => ?_⟩
      · rw [length?, wholeNumber?_eq hfits, Number.whole?_eq_some_iff.2 hq, Option.map_some]
      · rw [clampSigned_lt_toSigned_iff (hshort value hvalue)]
        exact_mod_cast Iff.rfl
    · have hevery (value : String) : (n : ℚ) < (Text.clusterCount value : ℚ) :=
        hn.trans_le (Nat.cast_nonneg _)
      simp [hlong, hevery, List.eq_nil_iff_forall_not_mem]
  · have hnot (n : Int) : x.rational? ≠ some (n : ℚ) := by
      rw [hq]
      exact fun heq => hinteger ⟨n, Option.some_inj.1 heq⟩
    simp [validate_of_not_integer _ h.object hx hnot, hinteger]

/-- The greatest word is rounded up to `2 ^ 64` and then held to `2 ^ 63 - 1`, and allows what it says. -/
theorem length_limit_exact_word :
    ∃ members,
      MeetsEarlier []
        { key := "k"
          comment := some
            "\x7b\"description\":\"d\",\"img\":\"a:b\",\"max_character_count\":18446744073709551615\x7d"
          values := ["", "ab"] }
        members ∧
      Table.get? members "max_character_count" = some (.number (.natural 0xFFFFFFFFFFFFFFFF)) ∧
      (∀ value ∈ ["", "ab"], Text.clusterCount value < signedLimit) ∧
      validate { vocabulary := [] }
        { key := "k"
          comment := some
            "\x7b\"description\":\"d\",\"img\":\"a:b\",\"max_character_count\":18446744073709551615\x7d"
          values := ["", "ab"] } = none := by
  have hnode : Node.read?
      "\x7b\"description\":\"d\",\"img\":\"a:b\",\"max_character_count\":18446744073709551615\x7d" =
      some (.object [(some "description", .string (some "d")), (some "img", .string (some "a:b")),
        (some "max_character_count",
          .number ⟨false, "18446744073709551615".toList, none, none⟩)]) := by
    cbv
  have hnumber : (⟨false, "18446744073709551615".toList, none, none⟩ : Numeral).number? =
      some (.natural 0xFFFFFFFFFFFFFFFF) := by
    decide +kernel
  have hentries : Node.membersWithin?
      [(some "description", .string (some "d")), (some "img", .string (some "a:b")),
        (some "max_character_count", .number ⟨false, "18446744073709551615".toList, none, none⟩)]
      (Node.deepest - 1) =
      some [("description", .string "d"), ("img", .string "a:b"),
        ("max_character_count", .number (.natural 0xFFFFFFFFFFFFFFFF))] := by
    simp only [Node.membersWithin?, Node.valueWithin?, hnumber, Option.bind_some, Option.map_some]
  have hmeets : MeetsEarlier []
      { key := "k"
        comment := some
          "\x7b\"description\":\"d\",\"img\":\"a:b\",\"max_character_count\":18446744073709551615\x7d"
        values := ["", "ab"] }
      [("description", .string "d"), ("img", .string "a:b"),
        ("max_character_count", .number (.natural 0xFFFFFFFFFFFFFFFF))] :=
    { object := members?_eq_some_iff.1 (members?_of_read? hnode hentries)
      allowed := by decide
      description := ⟨"d", rfl, by decide⟩
      placeholders := ⟨none, .absent, by decide, rfl⟩
      screenshot := ⟨"a:b", rfl, by decide +kernel⟩ }
  have hshort : ∀ value ∈ ["", "ab"], Text.clusterCount value < signedLimit := by
    decide +kernel
  obtain ⟨q, hq, -, hverdict⟩ := length_limit_exact hmeets rfl hshort
  have hword : q = 0xFFFFFFFFFFFFFFFF := by
    rw [Number.rational?, Option.some_inj] at hq
    rw [← hq]
    norm_num
  obtain ⟨-, hnone, -⟩ := hverdict ⟨0xFFFFFFFFFFFFFFFF, by rw [hword]; norm_num⟩
  have hshorter : ∀ value ∈ ["", "ab"], Text.clusterCount value ≤ 2 := by
    decide +kernel
  refine ⟨_, hmeets, rfl, hshort, hnone.2 fun value hvalue => ?_⟩
  have hle : (Text.clusterCount value : ℚ) ≤ 2 := by exact_mod_cast hshorter value hvalue
  exact hle.trans (by rw [hword]; norm_num)

end Validator

end Comment

end CatalogLint
