/-
# Double precision numbers

A double is a sign with `mantissa · 2 ^ exponent`, an infinity, or no number at all.  The mantissa
has at most 53 bits and the exponent at least -1074, so each value is written in one way: the
mantissa has all 53 bits unless the exponent is least.  Every operation is exact and then rounded
once, to the nearest double and on a tie to the even one (`ofRatio`).  Main fact: rounding a quotient
is never off by more than half a unit (`two_mul_roundDiv_le`, `le_two_mul_roundDiv`).
-/
import CatalogLint.Number.Integer

namespace CatalogLint

/-- A double precision number. -/
inductive Double
  /-- `mantissa · 2 ^ exponent`, negated if `negative`. -/
  | finite (negative : Bool) (mantissa : Nat) (exponent : Int)
  /-- An infinity. -/
  | infinite (negative : Bool)
  /-- Not a number. -/
  | nan
  deriving DecidableEq, Repr

namespace Double

/-! ## 1. Rounding -/

/-- The integer nearest to a quotient, the even one on a tie. -/
def roundDiv (num den : Nat) : Nat :=
  let q := num / den
  let twice := 2 * (num % den)
  if twice < den then q
  else if den < twice then q + 1
  else q + q % 2

theorem two_mul_roundDiv_le (num : Nat) {den : Nat} (h : 0 < den) :
    2 * (roundDiv num den * den) ≤ 2 * num + den := by
  have hq := Nat.div_add_mod num den
  have hr := Nat.mod_lt num h
  have hc : den * (num / den) = num / den * den := Nat.mul_comm _ _
  unfold roundDiv
  simp only
  split
  · omega
  · split
    · rw [Nat.add_mul]; omega
    · have : num / den % 2 < 2 := Nat.mod_lt _ (by decide)
      rcases (by omega : num / den % 2 = 0 ∨ num / den % 2 = 1) with h0 | h0 <;>
        simp only [h0, Nat.add_zero, Nat.add_mul] <;> omega

theorem le_two_mul_roundDiv (num : Nat) {den : Nat} (h : 0 < den) :
    2 * num ≤ 2 * (roundDiv num den * den) + den := by
  have hq := Nat.div_add_mod num den
  have hr := Nat.mod_lt num h
  have hc : den * (num / den) = num / den * den := Nat.mul_comm _ _
  unfold roundDiv
  simp only
  split
  · omega
  · split
    · rw [Nat.add_mul]; omega
    · rcases (by omega : num / den % 2 = 0 ∨ num / den % 2 = 1) with h0 | h0 <;>
        simp only [h0, Nat.add_zero, Nat.add_mul] <;> omega

/-- The quotient `num / den · base ^ e` as a numerator and a denominator. -/
def scale (num den base : Nat) (e : Int) : Nat × Nat :=
  if 0 ≤ e then (num * Nat.pow base e.toNat, den)
  else (num, den * Nat.pow base (-e).toNat)

/-- The least mantissa with all its bits, two to the power of fifty-two. -/
def leastMantissa : Nat := 0x10000000000000

/-- The least exponent of a double. -/
def leastExponent : Int := -1074

/-- The greatest exponent of a double. -/
def greatestExponent : Int := 971

/-- The exponent of the highest bit of a positive quotient. -/
def topBit (num den : Nat) : Int :=
  let e : Int := (num.log2 : Int) - den.log2
  let (n, d) := scale num den 2 (-e)
  if d ≤ n then e else e - 1

/-- Zero, with a sign. -/
def zero (negative : Bool) : Double := finite negative 0 leastExponent

/-- The double nearest to `num / den`, negated if `negative`; `den` is positive. -/
def ofRatio (negative : Bool) (num den : Nat) : Double :=
  if num = 0 then zero negative
  else
    let e := max (topBit num den - 52) leastExponent
    let (n, d) := scale num den 2 (-e)
    let m := roundDiv n d
    let (m, e) := if m = 2 * leastMantissa then (leastMantissa, e + 1) else (m, e)
    if greatestExponent < e then infinite negative else finite negative m e

/-- The double nearest to `digits · 10 ^ e`.  Exponents that no digit run can bring back into range
are answered without computing the power. -/
def ofDecimal (negative : Bool) (digits : Nat) (e : Int) : Double :=
  if digits = 0 then zero negative
  else if 400 < e then infinite negative
  else if e + (digits.log2 : Int) < -1200 then zero negative
  else
    let (n, d) := scale digits 1 10 e
    ofRatio negative n d

/-! ## 2. Products and quotients of positive doubles -/

/-- A finite double without its sign, as a numerator and a denominator. -/
def ratio (mantissa : Nat) (exponent : Int) : Nat × Nat := scale mantissa 1 2 exponent

/-- The rounded product with a power of ten that is itself rounded. -/
def mulPowTen (d : Double) (k : Nat) : Double :=
  match d, ofRatio false (Nat.pow 10 k) 1 with
  | finite s m e, finite _ m' e' =>
    let (n, d) := ratio (m * m') (e + e')
    ofRatio s n d
  | d, _ => d

/-- The rounded quotient by a power of ten that is itself rounded. -/
def divPowTen (d : Double) (k : Nat) : Double :=
  match d, ofRatio false (Nat.pow 10 k) 1 with
  | finite s m e, finite _ m' e' =>
    let (n, d) := scale m m' 2 (e - e')
    ofRatio s n d
  | d, _ => d

/-! ## 3. Views -/

/-- Whether a double is a zero, of either sign. -/
def isZero : Double → Bool
  | finite _ m _ => m == 0
  | _ => false

/-- The integer that a double is, if it is one. -/
def whole? : Double → Option Int
  | finite s m e =>
    let (n, d) := ratio m e
    if n % d = 0 then some (if s then -((n / d : Nat) : Int) else ((n / d : Nat) : Int)) else none
  | _ => none

/-- The sixty-four bits of a double. -/
def bits : Double → Nat
  | finite s m e =>
    let low :=
      if m < leastMantissa then m
      else (e + 1075).toNat * leastMantissa + (m - leastMantissa)
    (if s then Number.signedLimit else 0) + low
  | infinite s => (if s then Number.signedLimit else 0) + 0x7FF0000000000000
  | nan => 0x7FF8000000000000

end Double

end CatalogLint
