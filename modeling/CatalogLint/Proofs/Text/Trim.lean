/-
# Words with white space around them

A word is recognised with white space around it and in any case of its ASCII letters.  `Spells` says so
without a scan: in front of the word and behind it stands nothing but white space.

* A text that neither starts nor ends with white space is what is left of it when some is put around it
  (`trim_append`), and every text is what is left of it with white space around (`exists_trim`).
* So a word without white space is recognised exactly where it is spelled (`spells_iff`): to ignore
  case makes no letter of white space (`toLower_of_isBlank`).
-/
import CatalogLint.Proofs.List
import CatalogLint.Text.CodeSet

namespace CatalogLint.Text

variable {c : Char} {cs front back : List Char} {word text : String}

/-- The text is the word, in any case of its ASCII letters, with white space around it. -/
def Spells (word text : String) : Prop :=
  ∃ front core back, text.toList = front ++ core ++ back ∧ (∀ c ∈ front, isBlank c) ∧
    (∀ c ∈ back, isBlank c) ∧ core.map Char.toLower = word.toList

/-- No white space is a capital letter. -/
theorem toLower_of_isBlank (h : isBlank c) : c.toLower = c := by
  obtain ⟨r, hr, hfirst, hlast⟩ := CodeSet.contains_iff.1 h
  -- the ranges of white space end before the letters or begin behind them
  have hranges : ∀ r ∈ blanks.ranges, r.2 < 65 ∨ 90 < r.1 := by decide
  have hletter : ¬(65 ≤ c.toNat ∧ c.toNat ≤ 90) := by
    have := hranges r hr
    omega
  exact dif_neg fun hcapital => hletter hcapital

theorem trimEnd_append (hback : ∀ c ∈ back, isBlank c) (hcs : Stops isBlank cs.reverse) :
    trimEnd (cs ++ back) = cs := by
  have hreverse : ∀ c ∈ back.reverse, isBlank c := fun c hc => hback c (List.mem_reverse.1 hc)
  rw [trimEnd, List.reverse_append, dropWhile_append_of_stops hreverse hcs, List.reverse_reverse]

/-- White space around a text is dropped, and no more than that. -/
theorem trim_append (hfront : ∀ c ∈ front, isBlank c) (hback : ∀ c ∈ back, isBlank c)
    (hcs : Stops isBlank cs) (hend : Stops isBlank cs.reverse) : trim (front ++ cs ++ back) = cs := by
  rw [trim, List.append_assoc, List.dropWhile_append_of_pos hfront]
  cases cs with
  | nil => rw [List.nil_append, List.dropWhile_eq_nil_iff.2 hback]; rfl
  | cons c cs =>
    have hstops : Stops isBlank (c :: cs ++ back) := stops_cons.2 (stops_cons.1 hcs)
    rw [hstops.dropWhile_eq, trimEnd_append hback hend]

theorem exists_trimEnd (cs : List Char) :
    ∃ back, cs = trimEnd cs ++ back ∧ ∀ c ∈ back, isBlank c := by
  refine ⟨(cs.reverse.takeWhile isBlank).reverse, ?_, fun c hc => ?_⟩
  · rw [trimEnd, ← List.reverse_append, List.takeWhile_append_dropWhile, List.reverse_reverse]
  · exact List.mem_takeWhile_imp (List.mem_reverse.1 hc)

theorem exists_trim (cs : List Char) :
    ∃ front back, cs = front ++ trim cs ++ back ∧ (∀ c ∈ front, isBlank c) ∧
      ∀ c ∈ back, isBlank c := by
  obtain ⟨back, hback, hblank⟩ := exists_trimEnd (cs.dropWhile isBlank)
  refine ⟨cs.takeWhile isBlank, back, ?_, fun c hc => List.mem_takeWhile_imp hc, hblank⟩
  rw [List.append_assoc, trim, ← hback, List.takeWhile_append_dropWhile]

/-- **A word is recognised where it is spelled**, with white space around it and in any case. -/
theorem spells_iff (hword : ∀ c ∈ word.toList, isBlank c = false) :
    spells word text ↔ Spells word text := by
  rw [spells, beq_iff_eq]
  constructor
  · intro h
    obtain ⟨front, back, htext, hfront, hback⟩ := exists_trim text.toList
    exact ⟨front, trim text.toList, back, htext, hfront, hback, h⟩
  · rintro ⟨front, core, back, htext, hfront, hback, hcore⟩
    have hblank : ∀ c ∈ core, isBlank c = false := by
      intro c hc
      refine Bool.eq_false_iff.2 fun hb => ?_
      have hmem : c.toLower ∈ word.toList := hcore ▸ List.mem_map_of_mem hc
      rw [toLower_of_isBlank hb] at hmem
      exact Bool.eq_false_iff.1 (hword c hmem) hb
    have hstart : Stops isBlank core := fun c hc => hblank c (List.mem_of_mem_head? hc)
    have hend : Stops isBlank core.reverse := fun c hc =>
      hblank c (List.mem_reverse.1 (List.mem_of_mem_head? hc))
    rw [htext, trim_append hfront hback hstart hend, hcore]

end CatalogLint.Text
