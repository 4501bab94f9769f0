/-
# Numbers of JSON

A numeral is kept as it is written: sign, whole digits, digits after the point and exponent.
`read?` takes one from the front of a text.  `number?` gives its value: a whole number without point
or exponent that fits 64 bits is exact, every other numeral is a double, and one beyond the doubles
has no value.  A double is made from the leading digits that fit 64 bits and a power of ten, each
step rounded; a minus sign alone makes a zero a double.  Who needs an integer takes the number as it
was read (`Number.signed?`) or the double nearest to it (`Number.nearest`).
-/
import CatalogLint.Number.Double
import CatalogLint.Number.Integer

namespace CatalogLint

namespace Double

/-- A double times a power of ten, nothing if that is too great.  The power is applied in steps of
at most `10 ^ 308`, each of them rounded. -/
def scaleTen (d : Double) (e : Int) : Option Double :=
  if 308 < e then if d.isZero then some d else none
  else if 0 ≤ e then
    match mulPowTen d e.toNat with
    | infinite _ => none
    | p => some p
  else if -308 ≤ e then some (divPowTen d (-e).toNat)
  else if d.isZero then some d
  else scaleTen (divPowTen d 308) (e + 308)
termination_by (-e).toNat
decreasing_by omega

end Double

namespace Json

open CatalogLint.Number

/-- A number as it is written. -/
structure Numeral where
  /-- Whether a minus sign stands in front. -/
  negative : Bool
  /-- The digits before the point. -/
  whole : List Char
  /-- The digits after the point, if there is one. -/
  fraction : Option (List Char)
  /-- The exponent, if there is one. -/
  exponent : Option Int
  deriving DecidableEq, Repr

/-- The value of a number. -/
inductive Number
  /-- A whole number from zero to `2 ^ 64 - 1`. -/
  | natural (n : Nat)
  /-- The negated number, from one to `2 ^ 63`. -/
  | negative (n : Nat)
  /-- A double. -/
  | double (d : Double)
  deriving DecidableEq, Repr

namespace Number

/-- The number of an integer. -/
def ofInt : Int → Number
  | .ofNat n => natural n
  | .negSucc n => negative (n + 1)

/-- A number that is a word with a sign as it was read. -/
def signed? : Number → Option Int
  | natural n => if n < signedLimit then some n else none
  | negative n => some (-(n : Int))
  | double _ => none

/-- The double nearest to a number. -/
def nearest : Number → Double
  | natural n => Double.ofRatio false n 1
  | negative n => Double.ofRatio true n 1
  | double d => d

end Number

namespace Numeral

/-! ## 1. Reading -/

/-- Takes the digits after a point. -/
def readFraction? : List Char → Option (Option (List Char) × List Char)
  | '.' :: r =>
    let digits := r.takeWhile Char.isDigit
    if digits.isEmpty then none else some (some digits, r.dropWhile Char.isDigit)
  | r => some (none, r)

/-- Takes the sign and the digits of an exponent. -/
def readSigned? (cs : List Char) : Option (Int × List Char) :=
  let (sign, cs) : Int × List Char := match cs with
    | '-' :: r => (-1, r)
    | '+' :: r => (1, r)
    | r => (1, r)
  let digits := cs.takeWhile Char.isDigit
  if digits.isEmpty then none else some (sign * digitsValue digits, cs.dropWhile Char.isDigit)

/-- Takes an exponent. -/
def readExponent? : List Char → Option (Option Int × List Char)
  | 'e' :: r => (readSigned? r).map fun (e, r) => (some e, r)
  | 'E' :: r => (readSigned? r).map fun (e, r) => (some e, r)
  | r => some (none, r)

/-- Takes a numeral from the front of a text.  Zero is the only whole part that starts with a
zero. -/
def read? (cs : List Char) : Option (Numeral × List Char) :=
  let (negative, cs) := match cs with
    | '-' :: r => (true, r)
    | r => (false, r)
  let whole := cs.takeWhile Char.isDigit
  if whole.isEmpty || (whole.head? == some '0' && whole != ['0']) then none
  else
    (readFraction? (cs.dropWhile Char.isDigit)).bind fun (fraction, r) =>
      (readExponent? r).map fun (exponent, r) => (⟨negative, whole, fraction, exponent⟩, r)

/-! ## 2. Value -/

/-- Appends digits to a number as long as it stays below `2 ^ 64`, and tells which are left. -/
def gather (n : Nat) : List Char → Nat × List Char
  | [] => (n, [])
  | c :: cs =>
    let n' := 10 * n + digitValue c
    if n' < wordLimit then gather n' cs else (n, c :: cs)

/-- The double of a numeral. -/
def double? (x : Numeral) : Option Double :=
  let digits := x.fraction.getD []
  let (n, dropped) := gather 0 x.whole
  let (n, rest) := gather n digits
  let e : Int := dropped.length + x.exponent.getD 0 - (digits.length - rest.length : Nat)
  (Double.ofRatio x.negative n 1).scaleTen e

/-- The value of a numeral. -/
def number? (x : Numeral) : Option Number :=
  match x.fraction, x.exponent, gather 0 x.whole with
  | none, none, (n, []) =>
    if !x.negative then some (.natural n)
    else if 0 < n ∧ n ≤ signedLimit then some (.negative n)
    else some (.double (Double.ofRatio true n 1))
  | _, _, _ => (double? x).map .double

end Numeral

end Json

end CatalogLint
