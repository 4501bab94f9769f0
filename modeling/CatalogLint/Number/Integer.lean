/-
# Integers in words and in digits

An integer is held in sixty-four bits, with and without a sign, or written in base ten or sixteen.

* `clampSigned` brings an integer into the range of the words with a sign, and does not change one
  that is in it (`clampSigned_of_fitsSigned`).  `toSigned` does so for a count.
* `decimal` writes a natural number in base ten, `digitsValue` reads a run of digits.  What was written
  reads back (`digitsValue_decimal`), it is not empty and holds digits only (`decimal_ne_nil`,
  `isDigit_of_mem_decimal`).
* Escapes, addresses and tables are written in base sixteen.  `Hex.digit?` and `Hex.value?` read digits
  in either case; `Hex.digits` and `Hex.padded` write them in lower case.
-/

namespace CatalogLint.Number

/-! ## 1. Words of sixty-four bits -/

/-- Two to the power of sixty-four: what no word reaches. -/
def wordLimit : Nat := 0x10000000000000000

/-- Two to the power of sixty-three: what no word with a sign reaches. -/
def signedLimit : Nat := 0x8000000000000000

/-- Whether an integer fits a word with a sign. -/
def fitsSigned (n : Int) : Bool := -(signedLimit : Int) ≤ n && n < (signedLimit : Int)

/-- The nearest integer that fits a word with a sign. -/
def clampSigned (n : Int) : Int := max (-(signedLimit : Int)) (min n ((signedLimit : Int) - 1))

/-- The word with a sign that a count is, and the greatest word if it is none. -/
def toSigned (n : Nat) : Int := if n < signedLimit then n else (signedLimit : Int) - 1

theorem fitsSigned_iff {n : Int} :
    fitsSigned n = true ↔ -(signedLimit : Int) ≤ n ∧ n < (signedLimit : Int) := by
  simp [fitsSigned]

theorem fitsSigned_clampSigned (n : Int) : fitsSigned (clampSigned n) = true := by
  rw [fitsSigned_iff, clampSigned, signedLimit]; omega

/-- A word with a sign is its own nearest one. -/
theorem clampSigned_of_fitsSigned {n : Int} (h : fitsSigned n = true) : clampSigned n = n := by
  rw [fitsSigned_iff, signedLimit] at h
  rw [clampSigned, signedLimit]; omega

/-! ## 2. Decimal digits -/

/-- The value of one decimal digit. -/
def digitValue (c : Char) : Nat := c.toNat - 48

/-- The number that a run of decimal digits writes. -/
def digitsValue (cs : List Char) : Nat := cs.foldl (fun n c => 10 * n + digitValue c) 0

/-- The decimal digits of a number, without leading zeros. -/
def decimal (n : Nat) : List Char := Nat.toDigits 10 n

/-- The decimal digits of an integer, with a sign if it is negative. -/
def signed : Int → List Char
  | .ofNat n => decimal n
  | .negSucc n => '-' :: decimal (n + 1)

theorem decimal_ne_nil (n : Nat) : decimal n ≠ [] := Nat.toDigits_ne_nil

theorem isDigit_of_mem_decimal {n : Nat} {c : Char} (h : c ∈ decimal n) : c.isDigit = true :=
  Nat.isDigit_of_mem_toDigits (by decide) (by decide) h

theorem digitValue_digitChar {n : Nat} (h : n < 10) : digitValue (Nat.digitChar n) = n := by
  simp [digitValue, Nat.toNat_digitChar_of_lt_ten h]

/-- A written number reads back. -/
theorem digitsValue_decimal (n : Nat) : digitsValue (decimal n) = n := by
  induction n using Nat.strongRecOn with
  | _ n ih =>
    by_cases h : n < 10
    · simp [decimal, Nat.toDigits_of_lt_base h, digitsValue, digitValue_digitChar h]
    · have hstep : decimal n = decimal (n / 10) ++ [Nat.digitChar (n % 10)] :=
        Nat.toDigits_eq_if (by decide : 1 < 10) |>.trans (by simp [h, decimal])
      have := ih (n / 10) (by omega)
      rw [hstep]
      simp only [digitsValue, List.foldl_append, List.foldl_cons, List.foldl_nil] at this ⊢
      rw [this, digitValue_digitChar (Nat.mod_lt _ (by decide))]
      omega

end CatalogLint.Number

/-! ## 3. Hexadecimal digits -/

namespace CatalogLint.Hex

/-- The value of one hexadecimal digit, in either case. -/
def digit? (c : Char) : Option Nat :=
  if '0' ≤ c ∧ c ≤ '9' then some (c.toNat - 48)
  else if 'a' ≤ c ∧ c ≤ 'f' then some (c.toNat - 87)
  else if 'A' ≤ c ∧ c ≤ 'F' then some (c.toNat - 55)
  else none

/-- The number that a run of digits writes, most significant first. -/
def value? (cs : List Char) : Option Nat :=
  cs.foldlM (fun n c => (digit? c).map (16 * n + ·)) 0

/-- The digits of a number in lower case, without leading zeros. -/
def digits (n : Nat) : List Char := Nat.toDigits 16 n

/-- The digits of a number, filled with zeros on the left up to `width`. -/
def padded (width n : Nat) : List Char :=
  List.replicate (width - (digits n).length) '0' ++ digits n

end CatalogLint.Hex
