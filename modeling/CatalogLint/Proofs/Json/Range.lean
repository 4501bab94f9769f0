/-
# The numbers that a text can hold

A number that was read is a word with or without a sign, or a finite double.  Words are bounded by the
reader itself; that a double is finite has to be shown, because it is made in several rounded steps.

* It starts from at most sixty-four bits (`wordSized_ofRatio`).  A division by a power of ten does not
  leave that range (`WordSized.divPowTen`), since the power is not rounded below one, and a product
  that does is refused.
* So scaling gives a finite double or nothing (`exists_rational?_of_scaleTen`), and each number of an
  object that was read is in its range (`Value.fits_of_read?`).
* A word that has no sign and is too great for one that has is rounded to a double that is too great as
  well, and is an integer still (`Number.exists_whole?_nearest`).
-/
import CatalogLint.Proofs.Json.Deletion
import CatalogLint.Proofs.Number.Rounding

namespace CatalogLint

namespace Double

variable {d p : Double} {e : Int} {k n : Nat}

/-! ## 1. Doubles -/

/-- A double is finite, and without its sign it is not beyond sixty-four bits. -/
inductive WordSized : Double → Prop
  | finite {s : Bool} {m : Nat} {e : Int} (h : (m : ℚ) * 2 ^ e ≤ 2 ^ (64 : ℤ)) :
    WordSized (finite s m e)

/-- A quotient that is not beyond sixty-four bits is not rounded beyond them. -/
theorem wordSized_ofRatio (s : Bool) {num den : Nat} (hden : 0 < den)
    (h : (num / den : ℚ) ≤ 2 ^ (64 : ℤ)) : (ofRatio s num den).WordSized := by
  obtain ⟨m, e, heq, hrounds⟩ := exists_ofRatio_eq_finite s hden (by decide) h
  rw [heq]
  exact .finite (hrounds.le_zpow 64 (by decide) h)

/-- A word, as the quotient that is rounded, is not beyond sixty-four bits. -/
theorem word_div_one_le (h : n < Number.wordLimit) : (n : ℚ) / (1 : Nat) ≤ 2 ^ (64 : ℤ) := by
  have hle : (n : ℚ) ≤ (Number.wordLimit : Nat) := by exact_mod_cast h.le
  rw [Nat.cast_one, div_one]
  exact hle.trans_eq (by norm_num [Number.wordLimit])

theorem WordSized.exists_rational? (h : d.WordSized) : ∃ q, d.rational? = some q := by
  obtain ⟨-⟩ := h
  exact ⟨_, rfl⟩

/-- A power of ten is not rounded below one. -/
theorem one_le_powTen {s : Bool} {m : Nat} (h : ofRatio false (Nat.pow 10 k) 1 = finite s m e) :
    1 ≤ (m : ℚ) * 2 ^ e := by
  have hone : (2 : ℚ) ^ (0 : ℤ) ≤ (Nat.pow 10 k : Nat) / (1 : Nat) := by
    rw [zpow_zero, Nat.cast_one, div_one]
    exact_mod_cast Nat.pow_pos (by decide : 0 < 10)
  simpa using (rounds_of_ofRatio Nat.one_pos h).zpow_le 0 (by decide) hone

/-- **A division by a power of ten** keeps to sixty-four bits. -/
theorem WordSized.divPowTen (h : d.WordSized) (k : Nat) : (d.divPowTen k).WordSized := by
  obtain @⟨s, m, e, hle⟩ := h
  cases hpow : ofRatio false (Nat.pow 10 k) 1 with
  | finite s' m' e' =>
    have hone := one_le_powTen hpow
    have hm' : 0 < m' := by
      rcases Nat.eq_zero_or_pos m' with rfl | hpos
      · norm_num at hone
      · exact hpos
    simp only [Double.divPowTen, hpow]
    refine wordSized_ofRatio s (scale_pos m hm' Nat.two_pos _) ?_
    rw [scale_div m hm' Nat.two_pos, Nat.cast_two, zpow_sub₀ two_ne_zero, div_mul_div_comm]
    exact (div_le_self (by positivity) hone).trans hle
  | infinite _ =>
    simp only [Double.divPowTen, hpow]
    exact .finite hle
  | nan =>
    simp only [Double.divPowTen, hpow]
    exact .finite hle

/-- A product with a power of ten is finite unless it is infinite. -/
theorem WordSized.mulPowTen (h : d.WordSized) (k : Nat) :
    (∃ s, d.mulPowTen k = infinite s) ∨ ∃ q, (d.mulPowTen k).rational? = some q := by
  obtain @⟨s, m, e, hle⟩ := h
  cases hpow : ofRatio false (Nat.pow 10 k) 1 with
  | finite s' m' e' =>
    simp only [Double.mulPowTen, hpow]
    cases hproduct : ofRatio s (ratio (m * m') (e + e')).1 (ratio (m * m') (e + e')).2 with
    | finite s m e => exact .inr ⟨_, rfl⟩
    | infinite s => exact .inl ⟨s, rfl⟩
    | nan => exact absurd hproduct (ofRatio_ne_nan (ratio_pos _ _))
  | infinite _ =>
    simp only [Double.mulPowTen, hpow]
    exact .inr ⟨_, rfl⟩
  | nan =>
    simp only [Double.mulPowTen, hpow]
    exact .inr ⟨_, rfl⟩

/-- **Scaling gives a finite double**, or nothing. -/
theorem exists_rational?_of_scaleTen (h : d.WordSized) (hp : d.scaleTen e = some p) :
    ∃ q, p.rational? = some q := by
  fun_induction scaleTen d e with
  | case1 d e _ _ => -- too great a power of a zero
    cases hp
    exact h.exists_rational?
  | case2 d e _ _ => cases hp
  | case3 d e _ _ s hproduct => cases hp
  | case4 d e _ _ hfinite => -- a product that is not infinite
    cases hp
    exact (h.mulPowTen e.toNat).resolve_left fun ⟨s, hs⟩ => hfinite s hs
  | case5 d e _ _ _ => -- the last division
    cases hp
    exact (h.divPowTen (-e).toNat).exists_rational?
  | case6 d e _ _ _ _ => -- too small a power of a zero
    cases hp
    exact h.exists_rational?
  | case7 d e _ _ _ _ ih => exact ih (h.divPowTen 308) hp

end Double

namespace Json

open CatalogLint.Number

/-! ## 2. Numbers -/

/-- A number is in the range of its form. -/
def Number.Fits : Number → Prop
  | natural n => n < wordLimit
  | negative n => 0 < n ∧ n ≤ signedLimit
  | double d => ∃ q, d.rational? = some q

theorem Number.Fits.exists_rational? {x : Number} (h : x.Fits) : ∃ q, x.rational? = some q := by
  cases x with
  | natural n => exact ⟨_, rfl⟩
  | negative n => exact ⟨_, rfl⟩
  | double d => exact h

/-- **A word beyond those with a sign** is rounded to an integer beyond them. -/
theorem Number.exists_whole?_nearest {n : Nat} (h : signedLimit ≤ n) (hn : n < wordLimit) :
    ∃ k : Int, (Number.natural n).nearest.whole? = some k ∧ (signedLimit : Int) ≤ k := by
  have hlow : (2 : ℚ) ^ (63 : ℤ) ≤ n / (1 : Nat) := by
    have hle : ((signedLimit : Nat) : ℚ) ≤ n := by exact_mod_cast h
    rw [Nat.cast_one, div_one]
    exact hle.trans_eq' (by norm_num [signedLimit])
  obtain ⟨m, e, heq, hrounds⟩ := Double.exists_ofRatio_eq_finite false Nat.one_pos
    (by decide) (Double.word_div_one_le hn)
  have hvalue : (2 : ℚ) ^ (63 : ℤ) ≤ m * 2 ^ e := hrounds.zpow_le 63 (by decide) hlow
  have he : 0 ≤ e :=
    hrounds.exponent_nonneg ((zpow_le_zpow_right₀ one_le_two (by decide)).trans hlow)
  obtain ⟨j, rfl⟩ := Int.eq_ofNat_of_zero_le he
  refine ⟨((m * 2 ^ j : Nat) : Int), ?_, ?_⟩
  · rw [nearest, heq, Double.whole?_eq_some_iff, Double.rational?]
    simp
  · rw [zpow_natCast] at hvalue
    have hle : ((signedLimit : Nat) : ℚ) ≤ ((m * 2 ^ j : Nat) : ℚ) := by
      push_cast
      exact hvalue.trans' (by norm_num [signedLimit])
    exact_mod_cast hle

namespace Numeral

theorem gather_lt {n : Nat} (h : n < wordLimit) (cs : List Char) : (gather n cs).1 < wordLimit := by
  induction cs generalizing n with
  | nil => exact h
  | cons c cs ih =>
    simp only [gather]
    split
    · next hc => exact ih hc
    · exact h

theorem exists_rational?_of_double? {x : Numeral} {d : Double} (h : x.double? = some d) :
    ∃ q, d.rational? = some q := by
  rw [double?] at h
  have hdigits := gather_lt (gather_lt (by decide : 0 < wordLimit) x.whole) (x.fraction.getD [])
  exact Double.exists_rational?_of_scaleTen
    (Double.wordSized_ofRatio x.negative Nat.one_pos (Double.word_div_one_le hdigits)) h

/-- **The value of a numeral** is in the range of its form. -/
theorem fits_of_number? {x : Numeral} {n : Number} (h : x.number? = some n) : n.Fits := by
  rw [number?] at h
  split at h
  · next k _ _ hwhole =>
    have hk : k < wordLimit := by
      have hlt := gather_lt (by decide : 0 < wordLimit) x.whole
      rwa [hwhole] at hlt
    split at h
    · cases h
      exact hk
    · split at h
      · next hsigned =>
        cases h
        exact hsigned
      · cases h
        exact (Double.wordSized_ofRatio true Nat.one_pos
          (Double.word_div_one_le hk)).exists_rational?
  · obtain ⟨d, hd, rfl⟩ := Option.map_eq_some_iff.1 h
    exact exists_rational?_of_double? hd

end Numeral

/-! ## 3. Objects -/

variable {item : Node} {x : Number}

/-- Only the tree of a number has a number for its value. -/
theorem Node.fits_of_valueWithin? {depth : Nat} (h : item.valueWithin? depth = some (.number x)) :
    x.Fits := by
  cases item with
  | number numeral =>
    rw [valueWithin?] at h
    obtain ⟨n, hn, heq⟩ := Option.map_eq_some_iff.1 h
    exact Value.number.inj heq ▸ Numeral.fits_of_number? hn
  | array items => cases depth <;> simp [valueWithin?] at h
  | object members => cases depth <;> simp [valueWithin?] at h
  | _ => simp [valueWithin?] at h

/-- Each entry of an object is the value of one of its trees. -/
theorem Node.exists_of_membersWithin? {nodes : List (Option String × Node)} {depth : Nat}
    {entries : List (String × Value)} (h : membersWithin? nodes depth = some entries)
    {entry : String × Value} (hentry : entry ∈ entries) :
    ∃ node ∈ nodes, node.2.valueWithin? depth = some entry.2 := by
  induction nodes generalizing entries with
  | nil =>
    cases h
    exact absurd hentry List.not_mem_nil
  | cons node nodes ih =>
    rw [membersWithin?] at h
    obtain ⟨k, -, hitem⟩ := Option.bind_eq_some_iff.1 h
    obtain ⟨v, hv, hmembers⟩ := Option.bind_eq_some_iff.1 hitem
    obtain ⟨rest, hrest, rfl⟩ := Option.map_eq_some_iff.1 hmembers
    rcases List.mem_cons.1 hentry with rfl | hentry
    · exact ⟨node, List.mem_cons_self, hv⟩
    · obtain ⟨node', hmem, hvalue⟩ := ih hrest hentry
      exact ⟨node', List.mem_cons_of_mem node hmem, hvalue⟩

/-- **The numbers of an object that was read** are in their range. -/
theorem Value.fits_of_read? {text : String} {members : Table Value} {key : String}
    (h : read? text = some (.object members)) (hget : Table.get? members key = some (.number x)) :
    x.Fits := by
  obtain ⟨nodes, entries, -, hentries, rfl⟩ := read?_eq_object_iff.1 h
  obtain ⟨node, -, hnode⟩ :=
    Node.exists_of_membersWithin? hentries (Table.mem_of_mem_ofEntries (Table.mem_of_get? hget))
  exact Node.fits_of_valueWithin? hnode

end Json

end CatalogLint
