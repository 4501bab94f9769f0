/-
# Rounding and powers of two

A quotient is rounded once, and rounding may move it either way.  It never moves it past a power of
two, and that is all that the bounds of integers in words need: a rounded quotient lies between the
same powers of two as the quotient.

* `topBit_spec` finds the powers of two around a quotient, and `le_roundDiv`, `roundDiv_le` round
  without passing an integer.
* `Rounds` is the fact about a quotient and the double that it becomes.  It holds of every double that
  `ofRatio` gives (`rounds_of_ofRatio`), and `ofRatio` gives one unless the quotient is beyond
  `2 ^ 1022` (`exists_ofRatio_eq_finite`).
-/
import CatalogLint.Proofs.Number.Exact
import Mathlib.Algebra.Order.Field.Power
import Mathlib.Tactic.GCongr
import Mathlib.Tactic.Positivity
import Mathlib.Tactic.Ring

namespace CatalogLint.Double

variable {num den m k : Nat} {e : Int} {s s' : Bool} {v : ℚ}

/-! ## 1. The powers of two around a quotient -/

/-- A positive natural number lies between two powers of two. -/
theorem zpow_log2_spec {n : Nat} (h : 0 < n) :
    (2 : ℚ) ^ (n.log2 : ℤ) ≤ n ∧ (n : ℚ) < 2 ^ ((n.log2 : ℤ) + 1) := by
  refine ⟨?_, ?_⟩
  · rw [zpow_natCast]
    exact_mod_cast Nat.log2_self_le h.ne'
  · have hlt : n < 2 ^ (n.log2 + 1) := Nat.lt_log2_self
    rw [← Nat.cast_succ, zpow_natCast]
    exact_mod_cast hlt

/-- **The highest bit** of a positive quotient: the quotient reaches its power of two, but not the
next. -/
theorem topBit_spec (hnum : 0 < num) (hden : 0 < den) :
    (2 : ℚ) ^ topBit num den ≤ num / den ∧ (num / den : ℚ) < 2 ^ (topBit num den + 1) := by
  obtain ⟨hnum_le, hnum_lt⟩ := zpow_log2_spec hnum
  obtain ⟨hden_le, hden_lt⟩ := zpow_log2_spec hden
  have hden' : (0 : ℚ) < den := by exact_mod_cast hden
  obtain ⟨n, hn⟩ : ∃ n : ℤ, n = (num.log2 : ℤ) - den.log2 := ⟨_, rfl⟩
  have hle : (2 : ℚ) ^ (n - 1) ≤ num / den := by
    rw [le_div_iff₀ hden']
    calc (2 : ℚ) ^ (n - 1) * den ≤ 2 ^ (n - 1) * 2 ^ ((den.log2 : ℤ) + 1) := by gcongr
      _ = 2 ^ (num.log2 : ℤ) := by rw [← zpow_add₀ two_ne_zero]; congr 1; omega
      _ ≤ num := hnum_le
  have hlt : (num / den : ℚ) < 2 ^ (n + 1) := by
    rw [div_lt_iff₀ hden']
    calc (num : ℚ) < 2 ^ ((num.log2 : ℤ) + 1) := hnum_lt
      _ = 2 ^ (n + 1) * 2 ^ (den.log2 : ℤ) := by rw [← zpow_add₀ two_ne_zero]; congr 1; omega
      _ ≤ 2 ^ (n + 1) * den := by gcongr
  -- the test compares the quotient with the power of two that the two logarithms suggest
  have htest : (scale num den 2 (-n)).2 ≤ (scale num den 2 (-n)).1 ↔ (2 : ℚ) ^ n ≤ num / den := by
    have hpos : (0 : ℚ) < (scale num den 2 (-n)).2 := by
      exact_mod_cast scale_pos num hden Nat.two_pos (-n)
    rw [← @Nat.cast_le ℚ, ← one_le_div hpos, scale_div num hden Nat.two_pos, Nat.cast_two,
      zpow_neg, ← div_eq_mul_inv, one_le_div (by positivity)]
  rw [topBit, ← hn]
  dsimp only
  split
  · next h => exact ⟨htest.1 h, hlt⟩
  · next h =>
    rw [sub_add_cancel]
    exact ⟨hle, not_le.1 (htest.not.1 h)⟩

theorem le_roundDiv (hden : 0 < den) (h : (k : ℚ) ≤ num / den) : k ≤ roundDiv num den := by
  have hden' : (0 : ℚ) < den := by exact_mod_cast hden
  have h : k * den ≤ num := by
    rw [le_div_iff₀ hden'] at h
    exact_mod_cast h
  have hround := le_two_mul_roundDiv num hden
  by_contra hlt
  have hmul : (roundDiv num den + 1) * den ≤ k * den := Nat.mul_le_mul_right den (by omega)
  rw [Nat.add_mul] at hmul
  omega

theorem roundDiv_le (hden : 0 < den) (h : (num / den : ℚ) ≤ k) : roundDiv num den ≤ k := by
  have hden' : (0 : ℚ) < den := by exact_mod_cast hden
  have h : num ≤ k * den := by
    rw [div_le_iff₀ hden'] at h
    exact_mod_cast h
  have hround := two_mul_roundDiv_le num hden
  by_contra hlt
  have hmul : (k + 1) * den ≤ roundDiv num den * den := Nat.mul_le_mul_right den (by omega)
  rw [Nat.add_mul] at hmul
  omega

/-! ## 2. Rounding -/

/-- **What rounding keeps.**  A value lies between the same powers of two after it was rounded, as long
as these are not below the least positive double. -/
structure Rounds (v : ℚ) (m : Nat) (e : Int) : Prop where
  mantissa_le : m ≤ 2 * leastMantissa
  le_zpow : ∀ k, leastExponent ≤ k → v ≤ 2 ^ k → (m : ℚ) * 2 ^ e ≤ 2 ^ k
  zpow_le : ∀ k, leastExponent ≤ k → 2 ^ k ≤ v → 2 ^ k ≤ (m : ℚ) * 2 ^ e

/-- A mantissa that has become too great is halved. -/
theorem Rounds.carry (h : Rounds v (2 * leastMantissa) e) : Rounds v leastMantissa (e + 1) := by
  have hvalue : ((2 * leastMantissa : Nat) : ℚ) * 2 ^ e = (leastMantissa : ℚ) * 2 ^ (e + 1) := by
    rw [zpow_add_one₀ two_ne_zero, Nat.cast_mul, Nat.cast_two]
    ring
  exact ⟨by decide, hvalue ▸ h.le_zpow, hvalue ▸ h.zpow_le⟩

/-- Beyond its fifty-three bits a mantissa is a multiple of a whole power of two. -/
theorem Rounds.exponent_nonneg (h : Rounds v m e) (hv : 2 ^ (54 : ℤ) ≤ v) : 0 ≤ e := by
  have hvalue : (2 : ℚ) ^ (54 : ℤ) ≤ m * 2 ^ e := h.zpow_le 54 (by decide) hv
  have hmantissa : (m : ℚ) ≤ 2 ^ (53 : ℤ) := by
    have hle : (m : ℚ) ≤ (2 * leastMantissa : Nat) := by exact_mod_cast h.mantissa_le
    exact hle.trans_eq (by norm_num [leastMantissa])
  by_contra hneg
  have hpow : (2 : ℚ) ^ e ≤ 1 := zpow_le_one_of_nonpos₀ one_le_two (by omega)
  have hsmall : (m : ℚ) * 2 ^ e ≤ 2 ^ (53 : ℤ) :=
    (mul_le_of_le_one_right (Nat.cast_nonneg m) hpow).trans hmantissa
  exact absurd (hvalue.trans hsmall) (by norm_num)

/-- Rounding to multiples of a power of two, if the value is below fifty-three bits of them and, unless
the power is least, at least one of them. -/
theorem rounds_roundDiv (hden : 0 < den) (hleast : leastExponent ≤ e)
    (hlt : (num / den : ℚ) < 2 ^ (e + 53))
    (hle : leastExponent < e → (2 : ℚ) ^ e ≤ num / den) :
    Rounds (num / den) (roundDiv (scale num den 2 (-e)).1 (scale num den 2 (-e)).2) e := by
  have hpos := scale_pos num hden Nat.two_pos (-e)
  have hscale := scale_div num hden Nat.two_pos (-e)
  rw [Nat.cast_two, zpow_neg, ← div_eq_mul_inv] at hscale
  have hunit : (0 : ℚ) < 2 ^ e := by positivity
  -- in multiples of the power, other powers of two that are not less are integers
  have hpow (j : Nat) : (2 : ℚ) ^ (e + j) = ((2 ^ j : Nat) : ℚ) * 2 ^ e := by
    rw [zpow_add₀ two_ne_zero, zpow_natCast, mul_comm, Nat.cast_pow, Nat.cast_two]
  have hup (j : Nat) (h : (num / den : ℚ) ≤ 2 ^ (e + j)) :
      roundDiv (scale num den 2 (-e)).1 (scale num den 2 (-e)).2 ≤ 2 ^ j := by
    refine roundDiv_le hpos ?_
    rwa [hscale, div_le_iff₀ hunit, ← hpow]
  have hdown (j : Nat) (h : (2 : ℚ) ^ (e + j) ≤ num / den) :
      2 ^ j ≤ roundDiv (scale num den 2 (-e)).1 (scale num den 2 (-e)).2 := by
    refine le_roundDiv hpos ?_
    rwa [hscale, le_div_iff₀ hunit, ← hpow]
  refine ⟨hup 53 hlt.le, fun k hk hv => ?_, fun k hk hv => ?_⟩
  · have hek : e ≤ k := by
      by_contra hnot
      have hpass := (hle (by omega)).trans hv
      exact hnot ((zpow_le_zpow_iff_right₀ one_lt_two).1 hpass)
    obtain ⟨j, rfl⟩ := Int.le.dest hek
    rw [hpow, mul_le_mul_iff_left₀ hunit]
    exact_mod_cast hup j hv
  · rcases le_or_gt e k with hek | hek
    · obtain ⟨j, rfl⟩ := Int.le.dest hek
      rw [hpow, mul_le_mul_iff_left₀ hunit]
      exact_mod_cast hdown j hv
    · have hone : 1 ≤ roundDiv (scale num den 2 (-e)).1 (scale num den 2 (-e)).2 :=
        hdown 0 (by simpa using hle (by omega))
      calc (2 : ℚ) ^ k ≤ 2 ^ e := zpow_le_zpow_right₀ one_le_two hek.le
        _ = (1 : ℚ) * 2 ^ e := (one_mul _).symm
        _ ≤ _ := by
          rw [mul_le_mul_iff_left₀ hunit]
          exact_mod_cast hone

/-- A rounded quotient, before it is looked at whether it is too great for a double.  Its exponent is
at most fifty-two below the highest bit and one carry. -/
theorem exists_ofRatio_eq (s : Bool) (hnum : 0 < num) (hden : 0 < den) :
    ∃ m e, Rounds (num / den) m e ∧ e ≤ max (topBit num den - 52) leastExponent + 1 ∧
      ofRatio s num den = if greatestExponent < e then infinite s else finite s m e := by
  obtain ⟨hle, hlt⟩ := topBit_spec hnum hden
  obtain ⟨e, he⟩ : ∃ e, e = max (topBit num den - 52) leastExponent := ⟨_, rfl⟩
  have hrounds : Rounds (num / den)
      (roundDiv (scale num den 2 (-e)).1 (scale num den 2 (-e)).2) e := by
    refine rounds_roundDiv hden (by omega) (hlt.trans_le ?_) fun h => le_trans ?_ hle
    · exact zpow_le_zpow_right₀ one_le_two (by omega)
    · exact zpow_le_zpow_right₀ one_le_two (by omega)
  unfold ofRatio
  rw [if_neg hnum.ne', ← he]
  dsimp only
  by_cases hcarry : roundDiv (scale num den 2 (-e)).1 (scale num den 2 (-e)).2 = 2 * leastMantissa
  · rw [hcarry] at hrounds
    rw [if_pos hcarry]
    exact ⟨leastMantissa, e + 1, hrounds.carry, le_rfl, rfl⟩
  · rw [if_neg hcarry]
    exact ⟨_, e, hrounds, by omega, rfl⟩

theorem rounds_zero : Rounds 0 0 leastExponent := by
  refine ⟨Nat.zero_le _, fun k _ _ => ?_, fun k _ hk => ?_⟩
  · rw [Nat.cast_zero, zero_mul]
    positivity
  · exact absurd (zpow_pos two_pos k) (not_lt.2 hk)

/-- **Rounding does not pass a power of two.** -/
theorem rounds_of_ofRatio (hden : 0 < den) (h : ofRatio s num den = finite s' m e) :
    Rounds (num / den) m e := by
  rcases Nat.eq_zero_or_pos num with rfl | hnum
  · cases h
    simpa using rounds_zero
  · obtain ⟨m', e', hrounds, -, heq⟩ := exists_ofRatio_eq s hnum hden
    rw [heq] at h
    split at h
    · cases h
    · cases h
      exact hrounds

/-- A quotient that is not beyond the doubles is rounded to one of them. -/
theorem exists_ofRatio_eq_finite (s : Bool) (hden : 0 < den) {k : Int} (hk : k ≤ 1022)
    (h : (num / den : ℚ) ≤ 2 ^ k) :
    ∃ m e, ofRatio s num den = finite s m e ∧ Rounds (num / den) m e := by
  suffices hfinite : ∃ m e, ofRatio s num den = finite s m e by
    obtain ⟨m, e, heq⟩ := hfinite
    exact ⟨m, e, heq, rounds_of_ofRatio hden heq⟩
  rcases Nat.eq_zero_or_pos num with rfl | hnum
  · exact ⟨0, leastExponent, rfl⟩
  · obtain ⟨m, e, -, he, heq⟩ := exists_ofRatio_eq s hnum hden
    have htop : topBit num den ≤ k :=
      (zpow_le_zpow_iff_right₀ one_lt_two).1 ((topBit_spec hnum hden).1.trans h)
    have hfits : ¬ greatestExponent < e := by
      simp only [greatestExponent, leastExponent] at he ⊢
      omega
    exact ⟨m, e, heq.trans (if_neg hfits)⟩

theorem ofRatio_ne_nan (hden : 0 < den) : ofRatio s num den ≠ nan := by
  rcases Nat.eq_zero_or_pos num with rfl | hnum
  · exact nofun
  · obtain ⟨m, e, -, -, heq⟩ := exists_ofRatio_eq s hnum hden
    rw [heq]
    split <;> exact nofun

end CatalogLint.Double
