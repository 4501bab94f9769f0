/-
# Numbers by their exact values

A number of JSON comes in one of three forms, and each has an exact value: a double is a whole number
of powers of two.  Whether a number is whole is a matter of that value, not of its form.

* `Double.rational?` and `Json.Number.rational?` are the values, as rational numbers.  An infinity has
  none.
* The integer that `whole?` gives is the exact value, and it gives one whenever the value is an
  integer (`Double.whole?_eq_some_iff`, `Json.Number.whole?_eq_some_iff`).
-/
import CatalogLint.Json.Number
import Mathlib.Algebra.Field.Rat
import Mathlib.Tactic.FieldSimp
import Mathlib.Tactic.NormNum

namespace CatalogLint

namespace Double

/-- The rational number that a double is, if it is finite. -/
def rational? : Double → Option ℚ
  | finite s m e => some ((if s then -1 else 1) * ((m : ℚ) * (2 : ℚ) ^ e))
  | infinite _ => none
  | nan => none

theorem scale_pos (num : Nat) {den base : Nat} (hden : 0 < den) (hbase : 0 < base) (e : Int) :
    0 < (scale num den base e).2 := by
  unfold scale
  split
  · exact hden
  · exact Nat.mul_pos hden (Nat.pow_pos hbase)

/-- A scaled quotient is the quotient times the power. -/
theorem scale_div (num : Nat) {den base : Nat} (hden : 0 < den) (hbase : 0 < base) (e : Int) :
    ((scale num den base e).1 : ℚ) / (scale num den base e).2 = num / den * (base : ℚ) ^ e := by
  have hden' : (den : ℚ) ≠ 0 := by exact_mod_cast hden.ne'
  have hbase' : (base : ℚ) ≠ 0 := by exact_mod_cast hbase.ne'
  unfold scale
  split
  · next h =>
    obtain ⟨k, rfl⟩ := Int.eq_ofNat_of_zero_le h
    simp [div_mul_eq_mul_div]
  · next h =>
    obtain ⟨k, hk⟩ := Int.eq_ofNat_of_zero_le (a := -e) (by omega)
    have he : e = -(k : ℤ) := by omega
    subst he
    simp only [neg_neg, Int.toNat_natCast, Nat.pow_eq, Nat.cast_mul, Nat.cast_pow, zpow_neg,
      zpow_natCast]
    field_simp

theorem ratio_pos (m : Nat) (e : Int) : 0 < (ratio m e).2 := scale_pos m Nat.one_pos Nat.two_pos e

/-- The quotient that stands for a double is its value. -/
theorem ratio_exact (m : Nat) (e : Int) :
    ((ratio m e).1 : ℚ) = m * (2 : ℚ) ^ e * (ratio m e).2 := by
  have hpos : ((ratio m e).2 : ℚ) ≠ 0 := by exact_mod_cast (ratio_pos m e).ne'
  have hscale := scale_div m Nat.one_pos Nat.two_pos e
  rw [Nat.cast_one, div_one, Nat.cast_two] at hscale
  rw [← div_eq_iff hpos]
  exact hscale

/-- A quotient of natural numbers is an integer exactly when nothing remains. -/
theorem natCast_eq_mul_iff {p q : Nat} (hq : 0 < q) {k : Int} :
    (p : ℚ) = (k : ℚ) * q ↔ p % q = 0 ∧ ((p / q : Nat) : Int) = k := by
  constructor
  · intro h
    have h : (p : Int) = k * q := by exact_mod_cast h
    refine ⟨?_, ?_⟩
    · have hmod : ((p % q : Nat) : Int) = 0 := by rw [Int.natCast_emod, h, Int.mul_emod_left]
      exact_mod_cast hmod
    · rw [Int.natCast_ediv, h, Int.mul_ediv_cancel _ (by omega)]
  · rintro ⟨hmod, rfl⟩
    have h : p / q * q = p := Nat.div_mul_cancel (Nat.dvd_of_mod_eq_zero hmod)
    exact_mod_cast h.symm

/-- A double is an integer when its value is. -/
theorem whole?_eq_some_iff {d : Double} {n : Int} :
    d.whole? = some n ↔ d.rational? = some (n : ℚ) := by
  cases d with
  | infinite s => simp [whole?, rational?]
  | nan => simp [whole?, rational?]
  | finite s m e =>
    have hpos : ((ratio m e).2 : ℚ) ≠ 0 := by exact_mod_cast (ratio_pos m e).ne'
    -- the value without its sign is an integer when the quotient leaves no remainder
    have habs : ∀ k : Int, (m : ℚ) * 2 ^ e = k ↔
        (ratio m e).1 % (ratio m e).2 = 0 ∧ (((ratio m e).1 / (ratio m e).2 : Nat) : Int) = k := by
      intro k
      rw [← natCast_eq_mul_iff (ratio_pos m e), ratio_exact, mul_left_inj' hpos]
    have hwhole : (finite s m e).whole? = some n ↔ (ratio m e).1 % (ratio m e).2 = 0 ∧
        (((ratio m e).1 / (ratio m e).2 : Nat) : Int) = if s then -n else n := by
      unfold whole?
      dsimp only
      by_cases hmod : (ratio m e).1 % (ratio m e).2 = 0
      · cases s <;> simp [hmod, neg_eq_iff_eq_neg]
      · simp [hmod]
    rw [hwhole, ← habs, rational?, Option.some_inj]
    cases s <;> simp [neg_eq_iff_eq_neg]

end Double

namespace Json.Number

/-- The rational number that a number is. -/
def rational? : Number → Option ℚ
  | natural n => some n
  | negative n => some (-(n : ℚ))
  | double d => d.rational?

/-- The integer that a number is, if it is one. -/
def whole? : Number → Option Int
  | natural n => some n
  | negative n => some (-(n : Int))
  | double d => d.whole?

/-- **A number is an integer when its value is**, in whatever form it comes. -/
theorem whole?_eq_some_iff {x : Number} {n : Int} :
    x.whole? = some n ↔ x.rational? = some (n : ℚ) := by
  cases x with
  | natural k =>
    rw [whole?, rational?, Option.some_inj, Option.some_inj]
    exact_mod_cast Iff.rfl
  | negative k =>
    rw [whole?, rational?, Option.some_inj, Option.some_inj]
    exact_mod_cast Iff.rfl
  | double d => exact Double.whole?_eq_some_iff

end Json.Number

end CatalogLint
