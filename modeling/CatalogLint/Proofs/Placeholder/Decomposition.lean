/-
# What a text is made of

A text is read from left to right.  At each place one of four things stands: an escaped percent sign, a
reference, a specifier or, if none of them does, a character of plain text.  `Part` is one of these and
`Part.Leads` says, by the grammar and in this order of priority, with which a text starts; a text
`Decomposes` into the parts that follow one another.

* Every text decomposes in exactly one way (`exists_decomposes`, `Decomposes.unique`).
* The number of placeholders is the number of specifiers among its parts (`Decomposes.countChars_eq`).
* `count_eq_counted_parts` joins both with the fact that makes the grammar unambiguous, and with what
  becomes of a reference that is not closed.
-/
import CatalogLint.Proofs.Placeholder.Grammar
import Mathlib

namespace CatalogLint.Placeholder

open Text

variable {cs p r rest : List Char} {c : Char}

/-! ## 1. Parts -/

/-- A part of a text. -/
inductive Part
  /-- An escaped percent sign. -/
  | escaped
  /-- A reference to a plural variable. -/
  | reference (text : List Char)
  /-- A format specifier. -/
  | specifier (text : List Char)
  /-- A character of plain text. -/
  | plain (c : Char)
  deriving DecidableEq, Repr

/-- A text of a rule stands at the front. -/
def Starts (P : List Char → Prop) (cs : List Char) : Prop := ∃ p, P p ∧ p <+: cs

namespace Part

/-- The characters of a part. -/
def chars : Part → List Char
  | escaped => ['%', '%']
  | reference text => text
  | specifier text => text
  | plain c => [c]

/-- Whether a part is a placeholder. -/
def isCounted : Part → Bool
  | specifier _ => true
  | _ => false

/-- **A text starts with a part**, and with none of a higher priority. -/
def Leads (cs : List Char) : Part → Prop
  | escaped => ['%', '%'] <+: cs
  | reference p => IsReference p ∧ p <+: cs ∧ ¬ ['%', '%'] <+: cs
  | specifier p => IsSpecifier p ∧ p <+: cs ∧ ¬ ['%', '%'] <+: cs ∧ ¬ Starts IsReference cs
  | plain c => [c] <+: cs ∧ ¬ ['%', '%'] <+: cs ∧ ¬ Starts IsReference cs ∧ ¬ Starts IsSpecifier cs

end Part

/-- **The parts of a text**, from left to right. -/
inductive Decomposes : List Char → List Part → Prop
  /-- Nothing is left. -/
  | nil : Decomposes [] []
  /-- The text starts with a part, and the rest has parts. -/
  | cons {cs rest : List Char} {part : Part} {parts : List Part} (hcs : cs = part.chars ++ rest)
    (h : part.Leads cs) (hrest : Decomposes rest parts) : Decomposes cs (part :: parts)

/-! ## 2. One way to decompose -/

theorem Part.Leads.chars_ne_nil {part : Part} (h : part.Leads cs) : part.chars ≠ [] := by
  cases part with
  | escaped => exact List.cons_ne_nil _ _
  | reference p =>
    obtain ⟨q, rfl⟩ := h.1.exists_cons
    exact List.cons_ne_nil _ _
  | specifier p =>
    obtain ⟨q, rfl⟩ := h.1.exists_cons
    exact List.cons_ne_nil _ _
  | plain c => exact List.cons_ne_nil _ _

/-- **A text starts with one part only.** -/
theorem Part.Leads.unique {a b : Part} (ha : a.Leads cs) (hb : b.Leads cs) : a = b := by
  cases a with
  | escaped =>
    cases b with
    | escaped => rfl
    | reference q => exact absurd ha hb.2.2
    | specifier q => exact absurd ha hb.2.2.1
    | plain c => exact absurd ha hb.2.1
  | reference p =>
    cases b with
    | escaped => exact absurd hb ha.2.2
    | reference q => rw [ha.1.unique hb.1 ha.2.1 hb.2.1]
    | specifier q => exact absurd ⟨p, ha.1, ha.2.1⟩ hb.2.2.2
    | plain c => exact absurd ⟨p, ha.1, ha.2.1⟩ hb.2.2.1
  | specifier p =>
    cases b with
    | escaped => exact absurd hb ha.2.2.1
    | reference q => exact absurd ⟨q, hb.1, hb.2.1⟩ ha.2.2.2
    | specifier q => rw [ha.1.unique hb.1 ha.2.1 hb.2.1]
    | plain c => exact absurd ⟨p, ha.1, ha.2.1⟩ hb.2.2.2
  | plain c =>
    cases b with
    | escaped => exact absurd hb ha.2.1
    | reference q => exact absurd ⟨q, hb.1, hb.2.1⟩ ha.2.2.1
    | specifier q => exact absurd ⟨q, hb.1, hb.2.1⟩ ha.2.2.2
    | plain d =>
      obtain ⟨r, rfl⟩ := ha.1
      rw [(List.cons_prefix_cons.1 hb.1).1]

/-- **A text has one list of parts only.** -/
theorem Decomposes.unique {parts others : List Part} (h : Decomposes cs parts)
    (h' : Decomposes cs others) : parts = others := by
  induction h generalizing others with
  | nil =>
    cases h' with
    | nil => rfl
    | cons hcs hlead _ => exact absurd (List.append_eq_nil_iff.1 hcs.symm).1 hlead.chars_ne_nil
  | cons hcs hlead _ ih =>
    cases h' with
    | nil => exact absurd (List.append_eq_nil_iff.1 hcs.symm).1 hlead.chars_ne_nil
    | cons hcs' hlead' hrest' =>
      obtain rfl := hlead.unique hlead'
      obtain rfl := List.append_cancel_left (hcs.symm.trans hcs')
      rw [ih hrest']

/-! ## 3. Counting part by part -/

/-- A rule whose texts a reader takes stands at the front when the reader takes something. -/
theorem starts_percent_iff {P : List Char → Prop} {read : List Char → Option (List Char)}
    (hcons : ∀ {p}, P p → ∃ q, p = '%' :: q)
    (hread : ∀ {cs r}, read cs = some r ↔ ∃ p, P ('%' :: p) ∧ cs = p ++ r) :
    Starts P ('%' :: cs) ↔ ∃ r, read cs = some r := by
  constructor
  · rintro ⟨p, hp, r, hr⟩
    obtain ⟨q, rfl⟩ := hcons hp
    exact ⟨r, hread.2 ⟨q, hp, (List.cons.inj hr).2.symm⟩⟩
  · rintro ⟨r, hr⟩
    obtain ⟨q, hq, rfl⟩ := hread.1 hr
    exact ⟨_, hq, r, rfl⟩

theorem starts_reference_iff : Starts IsReference ('%' :: cs) ↔ ∃ r, reference? cs = some r :=
  starts_percent_iff IsReference.exists_cons reference?_eq_some_iff

theorem starts_specifier_iff : Starts IsSpecifier ('%' :: cs) ↔ ∃ r, specifier? cs = some r :=
  starts_percent_iff IsSpecifier.exists_cons specifier?_eq_some_iff

/-- Whatever is not plain text starts with a percent sign. -/
theorem leads_plain (hc : c ≠ '%') (cs : List Char) : (Part.plain c).Leads (c :: cs) := by
  have hstarts {P : List Char → Prop} (hcons : ∀ {p}, P p → ∃ q, p = '%' :: q) :
      ¬ Starts P (c :: cs) := by
    rintro ⟨p, hp, hprefix⟩
    obtain ⟨q, rfl⟩ := hcons hp
    exact hc (List.cons_prefix_cons.1 hprefix).1.symm
  refine ⟨⟨cs, rfl⟩, fun h => hc (List.cons_prefix_cons.1 h).1.symm, ?_, ?_⟩
  · exact hstarts IsReference.exists_cons
  · exact hstarts IsSpecifier.exists_cons

theorem item?_of_ne (h : ∀ r, cs ≠ '%' :: r) :
    item? cs = match reference? cs with
      | some r => some (.skipped, r)
      | none => (specifier? cs).map fun r => (.counted, r) := by
  unfold item?
  split
  · next r => exact absurd rfl (h r)
  · rfl

theorem countChars_of_skipped (h : item? cs = some (.skipped, r)) :
    countChars ('%' :: cs) = countChars r := by
  rw [countChars, if_pos rfl]
  split <;> simp_all

theorem countChars_of_counted (h : item? cs = some (.counted, r)) :
    countChars ('%' :: cs) = countChars r + 1 := by
  rw [countChars, if_pos rfl]
  split <;> simp_all

theorem countChars_of_none (h : item? cs = none) : countChars ('%' :: cs) = countChars cs := by
  rw [countChars, if_pos rfl]
  split <;> simp_all

/-- **One step**: a text that is not empty starts with a part, which is counted if it is a placeholder,
and counting goes on behind it. -/
theorem exists_leads (c : Char) (cs : List Char) :
    ∃ (part : Part) (rest : List Char), c :: cs = part.chars ++ rest ∧ part.Leads (c :: cs) ∧
      countChars (c :: cs) = countChars rest + if part.isCounted then 1 else 0 := by
  by_cases hc : c = '%'
  · subst hc
    by_cases hpercent : ∃ r, cs = '%' :: r
    · obtain ⟨r, rfl⟩ := hpercent
      exact ⟨.escaped, r, rfl, ⟨r, rfl⟩, countChars_of_skipped rfl⟩
    · push Not at hpercent
      have hescaped : ¬ ['%', '%'] <+: '%' :: cs := by
        rintro ⟨r, hr⟩
        exact hpercent r (List.cons.inj hr).2.symm
      have hitem := item?_of_ne hpercent
      cases hreference : reference? cs with
      | some r =>
        rw [hreference] at hitem
        obtain ⟨p, hp, rfl⟩ := reference?_eq_some_iff.1 hreference
        exact ⟨.reference ('%' :: p), r, rfl, ⟨hp, ⟨r, rfl⟩, hescaped⟩, countChars_of_skipped hitem⟩
      | none =>
        rw [hreference] at hitem
        have hnone : ¬ Starts IsReference ('%' :: cs) := by simp [starts_reference_iff, hreference]
        cases hspecifier : specifier? cs with
        | some r =>
          rw [hspecifier] at hitem
          obtain ⟨p, hp, rfl⟩ := specifier?_eq_some_iff.1 hspecifier
          exact ⟨.specifier ('%' :: p), r, rfl, ⟨hp, ⟨r, rfl⟩, hescaped, hnone⟩,
            countChars_of_counted hitem⟩
        | none =>
          rw [hspecifier] at hitem
          have hnone' : ¬ Starts IsSpecifier ('%' :: cs) := by
            simp [starts_specifier_iff, hspecifier]
          exact ⟨.plain '%', cs, rfl, ⟨⟨cs, rfl⟩, hescaped, hnone, hnone'⟩, countChars_of_none hitem⟩
  · exact ⟨.plain c, cs, rfl, leads_plain hc cs, count_cons_of_ne hc cs⟩

/-- **Every text has parts**, and its placeholders are the specifiers among them. -/
theorem exists_decomposes (cs : List Char) :
    ∃ parts, Decomposes cs parts ∧ countChars cs = parts.countP Part.isCounted := by
  induction hn : cs.length using Nat.strongRecOn generalizing cs with
  | _ n ih =>
    cases cs with
    | nil => exact ⟨[], .nil, countChars_nil⟩
    | cons c cs =>
      obtain ⟨part, rest, hcs, hlead, hcount⟩ := exists_leads c cs
      have hlength : rest.length < n := by
        have hpos := List.length_pos_iff.2 hlead.chars_ne_nil
        rw [← hn, hcs, List.length_append]
        omega
      obtain ⟨parts, hparts, hrest⟩ := ih _ hlength rest rfl
      refine ⟨part :: parts, .cons hcs hlead hparts, ?_⟩
      rw [hcount, hrest, List.countP_cons]

theorem Decomposes.countChars_eq {parts : List Part} (h : Decomposes cs parts) :
    countChars cs = parts.countP Part.isCounted := by
  obtain ⟨others, hothers, hcount⟩ := exists_decomposes cs
  rw [hcount, h.unique hothers]

/-- Without the closing at sign, what stands up to the name is counted and the name is read on its own. -/
theorem countChars_of_unclosed {position name : List Char} (h : Optional IsPosition position)
    (hname : ∀ c ∈ name, IsNameCharacter c) (hrest : ∀ c ∈ rest.head?, isBlank c = true) :
    countChars ('%' :: (position ++ '#' :: '@' :: (name ++ rest))) =
      countChars (name ++ rest) + 1 := by
  have hspecifier := specifier?_append (isSpecifier_of_unclosed h) (name ++ rest)
  simp only [List.append_assoc, List.cons_append, List.nil_append] at hspecifier
  refine countChars_of_counted ?_
  rw [item?_of_ne (position_append_ne_percent h _), reference?_of_unclosed h hname hrest, hspecifier]
  rfl

/-! ## 4. Counting follows the grammar -/

/-- **The count of a text is that of its parts.**  Every text decomposes, and in one way only, and its
placeholders are the specifiers among the parts.  The grammar is unambiguous: at most one specifier
stands at the front of a text, so that any reader that takes some specifier whenever there is one, in
whatever order it tries the optional parts, takes what `specifier?` takes.  A reference that is not
closed, or not before a blank, counts as the specifier that it starts with. -/
theorem count_eq_counted_parts :
    (∀ text : String, ∃ parts, Decomposes text.toList parts ∧
        (∀ others, Decomposes text.toList others → others = parts) ∧
        count text = parts.countP Part.isCounted) ∧
      (∀ cs p q, IsSpecifier p → IsSpecifier q → p <+: cs → q <+: cs → p = q) ∧
      (∀ read : List Char → Option (List Char),
        (∀ cs r, read cs = some r → ∃ p, IsSpecifier ('%' :: p) ∧ cs = p ++ r) →
        (∀ p r, IsSpecifier ('%' :: p) → read (p ++ r) ≠ none) → read = specifier?) ∧
      ∀ position name rest, Optional IsPosition position → (∀ c ∈ name, IsNameCharacter c) →
        (∀ c ∈ rest.head?, isBlank c = true) →
        countChars ('%' :: (position ++ '#' :: '@' :: (name ++ rest))) =
          countChars (name ++ rest) + 1 := by
  refine ⟨fun text => ?_, fun cs p q hp hq hpcs hqcs => hp.unique hq hpcs hqcs,
    fun read hsound htakes => ?_, fun position name rest => countChars_of_unclosed⟩
  · obtain ⟨parts, hparts, hcount⟩ := exists_decomposes text.toList
    exact ⟨parts, hparts, fun others hothers => hothers.unique hparts, hcount⟩
  · funext cs
    cases hread : read cs with
    | some r => exact (specifier?_eq_some_iff.2 (hsound cs r hread)).symm
    | none =>
      cases hspecifier : specifier? cs with
      | none => rfl
      | some r =>
        obtain ⟨p, hp, rfl⟩ := specifier?_eq_some_iff.1 hspecifier
        exact absurd hread (htakes p r hp)

/-- A blank breaks a reference, although an at sign comes behind it. -/
theorem count_eq_counted_parts_broken :
    Optional IsPosition ['1', '$'] ∧ (∀ c ∈ ['n'], IsNameCharacter c) ∧
      countChars ['%', '1', '$', '#', '@', 'n', ' ', 'm', '@'] = 1 := by
  have hposition : Optional IsPosition ['1', '$'] :=
    .inr ⟨['1'], ⟨by decide, List.forall_mem_singleton.2 (by decide)⟩, rfl⟩
  have hname : ∀ c ∈ ['n'], IsNameCharacter c :=
    List.forall_mem_singleton.2 ⟨by decide, by decide⟩
  have hblank : ∀ c ∈ [' ', 'm', '@'].head?, isBlank c = true := by
    rintro c ⟨⟩
    decide
  have hplain : countChars ['n', ' ', 'm', '@'] = 0 := by
    cbv
  refine ⟨hposition, hname, ?_⟩
  rw [← Nat.zero_add 1, ← hplain]
  exact count_eq_counted_parts.2.2.2 ['1', '$'] ['n'] [' ', 'm', '@'] hposition hname hblank

/-- Of three percent signs two are escaped, a reference is broken by a blank, and zeros are flags as well
as digits. -/
example : count "%%%1$#@n %#@m@ %007.*lld" = 2 := by
  cbv

end CatalogLint.Placeholder
