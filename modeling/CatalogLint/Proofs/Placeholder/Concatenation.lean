/-
# Texts put together

Two texts that are written one behind the other may have other placeholders than each has on its own: a
percent sign at the end of the first goes on in the second.  Here are two ways to keep them apart, both
said of the parts of a text and not of their number alone.

* No part other than plain text has a blank in it, and what is left unfinished before a blank is left
  unfinished at the end of a text too.  So the parts of two texts with a blank between them are the parts
  of each, and the blank (`Decomposes.append_blank`); placeholders are counted piece by piece
  (`count_across_blanks`).
* An escaped text leaves no percent sign open, whatever it is followed by.  Its parts are escaped percent
  signs and plain text, and the next text starts afresh behind them (`Decomposes.escape_append`,
  `count_escape_append`).
-/
import CatalogLint.Proofs.List
import CatalogLint.Proofs.Placeholder.Decomposition
import Mathlib

namespace CatalogLint.Placeholder

open Text

variable {cs p a b : List Char} {w : Char} {parts others : List Part}

/-! ## 1. Blanks -/

/-- A rule without blanks sees the text up to the next blank. -/
theorem starts_append_blank_iff {P : List Char → Prop}
    (hP : ∀ {p c}, P p → c ∈ p → isBlank c = false) (hw : isBlank w = true) :
    Starts P (a ++ w :: b) ↔ Starts P a := by
  constructor
  · rintro ⟨p, hp, hprefix⟩
    have hmem : w ∉ p := fun hmem => absurd hw (by simp [hP hp hmem])
    exact ⟨p, hp, List.prefix_of_prefix_append_cons hprefix hmem⟩
  · rintro ⟨p, hp, hprefix⟩
    exact ⟨p, hp, hprefix.trans (List.prefix_append _ _)⟩

theorem escaped_append_blank_iff (hw : isBlank w = true) :
    ['%', '%'] <+: a ++ w :: b ↔ ['%', '%'] <+: a := by
  refine ⟨fun h => List.prefix_of_prefix_append_cons h fun hmem => ?_,
    fun h => h.trans (List.prefix_append _ _)⟩
  simp only [List.mem_cons, List.not_mem_nil, or_false, or_self] at hmem
  rw [hmem] at hw
  exact absurd hw (by decide)

/-- **A text starts with the same part** when it goes on behind a blank. -/
theorem Part.Leads.append_blank {part : Part} (h : part.Leads a) (hw : isBlank w = true)
    (b : List Char) : part.Leads (a ++ w :: b) := by
  have hescaped := escaped_append_blank_iff (a := a) (b := b) hw
  have hreference := starts_append_blank_iff (a := a) (b := b) IsReference.isBlank_eq_false hw
  have hspecifier := starts_append_blank_iff (a := a) (b := b) IsSpecifier.isBlank_eq_false hw
  cases part with
  | escaped => exact hescaped.2 h
  | reference p =>
    exact ⟨h.1, h.2.1.trans (List.prefix_append _ _), hescaped.not.2 h.2.2⟩
  | specifier p =>
    exact ⟨h.1, h.2.1.trans (List.prefix_append _ _), hescaped.not.2 h.2.2.1,
      hreference.not.2 h.2.2.2⟩
  | plain c =>
    exact ⟨h.1.trans (List.prefix_append _ _), hescaped.not.2 h.2.1, hreference.not.2 h.2.2.1,
      hspecifier.not.2 h.2.2.2⟩

theorem Decomposes.plain_cons {c : Char} (hc : c ≠ '%') (h : Decomposes cs parts) :
    Decomposes (c :: cs) (.plain c :: parts) :=
  .cons rfl (leads_plain hc cs) h

/-- **The parts of two texts with a blank between them.** -/
theorem Decomposes.append_blank (ha : Decomposes a parts) (hb : Decomposes b others)
    (hw : isBlank w = true) : Decomposes (a ++ w :: b) (parts ++ .plain w :: others) := by
  induction ha with
  | nil =>
    have hne : w ≠ '%' := by
      rintro rfl
      exact absurd hw (by decide)
    exact hb.plain_cons hne
  | cons hcs hlead _ ih =>
    refine .cons ?_ (hlead.append_blank hw b) ih
    rw [hcs, List.append_assoc]

theorem countChars_append_blank (a b : List Char) (hw : isBlank w = true) :
    countChars (a ++ w :: b) = countChars a + countChars b := by
  obtain ⟨parts, hparts, ha⟩ := exists_decomposes a
  obtain ⟨others, hothers, hb⟩ := exists_decomposes b
  rw [(hparts.append_blank hothers hw).countChars_eq, List.countP_append, List.countP_cons, ha, hb]
  rfl

/-- **The pieces between blanks** are counted one by one. -/
theorem sum_countChars_splitOnP (cs : List Char) :
    ((cs.splitOnP isBlank).map countChars).sum = countChars cs := by
  induction hn : cs.length using Nat.strongRecOn generalizing cs with
  | _ n ih =>
    cases hfind : cs.find? isBlank with
    | none =>
      have hnone : ∀ c ∈ cs, isBlank c = false := by simpa using List.find?_eq_none.1 hfind
      rw [List.splitOnP_eq_singleton hnone]
      simp
    | some w =>
      obtain ⟨hw, front, behind, rfl, hfront⟩ := List.find?_eq_some_iff_append.1 hfind
      have hpiece : front.splitOnP isBlank = [front] :=
        List.splitOnP_eq_singleton fun c hc => by simpa using hfront c hc
      have hlength : behind.length < n := by
        rw [← hn, List.length_append, List.length_cons]
        omega
      rw [List.splitOnP_append_cons _ _ hw, hpiece, List.singleton_append, List.map_cons,
        List.sum_cons, ih _ hlength behind rfl, countChars_append_blank front behind hw]

/-- **Counting adds up over blanks.**  Two texts with a blank between them have the placeholders of both,
a text those of its pieces, and no part reaches from one piece into the next. -/
theorem count_across_blanks :
    (∀ (a b : String) (w : Char), isBlank w = true →
        count (a ++ String.singleton w ++ b) = count a + count b) ∧
      (∀ text : String, count text =
        ((text.toList.splitOnP isBlank).map fun piece => count (String.ofList piece)).sum) ∧
      ∀ (a b : List Char) (w : Char) (parts others : List Part), isBlank w = true →
        Decomposes a parts → Decomposes b others →
        Decomposes (a ++ w :: b) (parts ++ .plain w :: others) := by
  refine ⟨fun a b w hw => ?_, fun text => ?_, fun a b w parts others hw ha hb =>
    ha.append_blank hb hw⟩
  · rw [count, String.toList_append, String.toList_append, String.toList_singleton,
      List.append_assoc, List.singleton_append, countChars_append_blank _ _ hw]
    rfl
  · simp only [count, String.toList_ofList]
    exact (sum_countChars_splitOnP text.toList).symm

/-- Without the blank the two pieces would be one reference, which is no placeholder. -/
theorem count_across_blanks_reference :
    isBlank '\u3000' = true ∧
      count ("%#@n" ++ String.singleton '\u3000' ++ "x@") = count "%#@n" + count "x@" ∧
      count "%#@n" + count "x@" = 1 ∧ count "%#@nx@" = 0 := by
  have hblank : isBlank '\u3000' = true := by decide
  refine ⟨hblank, count_across_blanks.1 "%#@n" "x@" '\u3000' hblank, ?_, ?_⟩
  · cbv
  · cbv

/-! ## 2. Escapes -/

/-- A text with every percent sign doubled. -/
def escapeChars (cs : List Char) : List Char := cs.flatMap fun c => if c = '%' then ['%', '%'] else [c]

/-- A text with every percent sign doubled. -/
def escape (text : String) : String := String.ofList (escapeChars text.toList)

/-- What a character of an escaped text is a part of. -/
def escapedPart (c : Char) : Part := if c = '%' then .escaped else .plain c

/-- **The parts of an escaped text and one behind it.** -/
theorem Decomposes.escape_append (h : Decomposes b parts) (a : List Char) :
    Decomposes (escapeChars a ++ b) (a.map escapedPart ++ parts) := by
  induction a with
  | nil => exact h
  | cons c a ih =>
    rw [escapeChars, List.flatMap_cons, List.append_assoc, List.map_cons, List.cons_append, escapedPart]
    split
    · exact .cons rfl ⟨_, rfl⟩ ih
    · next hc => exact ih.plain_cons hc

theorem countP_escapedPart (a : List Char) : (a.map escapedPart).countP Part.isCounted = 0 := by
  rw [List.countP_eq_zero]
  intro part hpart
  obtain ⟨c, -, rfl⟩ := List.mem_map.1 hpart
  rw [escapedPart]
  split <;> exact Bool.false_ne_true

theorem countChars_escape_append (a b : List Char) :
    countChars (escapeChars a ++ b) = countChars b := by
  obtain ⟨parts, hparts, hb⟩ := exists_decomposes b
  rw [(hparts.escape_append a).countChars_eq, List.countP_append, countP_escapedPart, Nat.zero_add, hb]

/-- **An escaped text adds nothing**: not to what stands behind it, and it has no placeholder of its own.
Its parts are escaped percent signs and plain text, and the parts of the text behind it are its own. -/
theorem count_escape_append (a b : String) :
    count (escape a ++ b) = count b ∧ count (escape a) = 0 ∧
      ∀ parts, Decomposes b.toList parts →
        Decomposes (escape a ++ b).toList (a.toList.map escapedPart ++ parts) := by
  have hchars : (escape a ++ b).toList = escapeChars a.toList ++ b.toList := by
    rw [String.toList_append, escape, String.toList_ofList]
  refine ⟨?_, ?_, fun parts hparts => ?_⟩
  · rw [count, hchars, countChars_escape_append, count]
  · have h := countChars_escape_append a.toList []
    rw [List.append_nil, countChars_nil] at h
    rw [count, escape, String.toList_ofList, h]
  · rw [hchars]
    exact hparts.escape_append a.toList

/-- Without the escape the percent sign would take the letter behind it. -/
theorem count_escape_append_percent :
    Decomposes "d".toList [.plain 'd'] ∧
      Decomposes (escape "%" ++ "d").toList [.escaped, .plain 'd'] ∧
      count (escape "%" ++ "d") = count "d" ∧ count "d" = 0 ∧ count ("%" ++ "d") = 1 := by
  have hplain : Decomposes "d".toList [.plain 'd'] := Decomposes.nil.plain_cons (by decide)
  obtain ⟨hcount, -, hparts⟩ := count_escape_append "%" "d"
  refine ⟨hplain, hparts _ hplain, hcount, ?_, ?_⟩
  · cbv
  · cbv

end CatalogLint.Placeholder
