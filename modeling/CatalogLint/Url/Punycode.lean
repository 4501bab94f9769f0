/-
# Punycode

A label that holds other characters than ASCII can be written in ASCII: first its ASCII characters,
then, behind a hyphen, where which other characters are inserted, as numbers of variable length with
digits `a` to `z` and `0` to `9`.  `decode?` reads such a label; `adapt` chooses how many digits a
number is expected to have.
-/
import CatalogLint.Number.Integer

namespace CatalogLint.Url.Punycode

/-- The value of a digit, from zero to thirty-five. -/
def digit? (c : Char) : Option Nat :=
  if c.isLower then some (c.toNat - 97)
  else if c.isUpper then some (c.toNat - 65)
  else if c.isDigit then some (c.toNat - 22)
  else none

/-- The least value of a digit that another one follows, by the position of the digit. -/
def threshold (k bias : Nat) : Nat :=
  if k ≤ bias then 1 else if bias + 26 ≤ k then 26 else k - bias

/-- Divides by thirty-five until the number is small, and counts the steps in units of the base. -/
def damp : Nat → Nat → Nat → Nat × Nat
  | 0, delta, k => (delta, k)
  | steps + 1, delta, k => if 455 < delta then damp steps (delta / 35) (k + 36) else (delta, k)

/-- The bias for the next number, from the last one and the number of characters so far. -/
def adapt (delta length : Nat) (first : Bool) : Nat :=
  let delta := if first then delta / 700 else delta / 2
  let (delta, k) := damp 32 (delta + delta / length) 0
  k + 36 * delta / (delta + 38)

/-- The greatest number that a decoder holds. -/
def greatest : Nat := 0xFFFFFFFF

/-- Takes the digits of one number: what it adds to `i`, and the rest. -/
def number? (bias : Nat) (i weight k : Nat) : List Char → Option (Nat × List Char)
  | [] => none
  | c :: cs =>
    match digit? c with
    | none => none
    | some d =>
      let i := i + d * weight
      let t := threshold k bias
      if greatest < i then none
      else if d < t then some (i, cs)
      else if greatest < weight * (36 - t) then none
      else number? bias i (weight * (36 - t)) (k + 36) cs

/-- Inserts a character at a place of a text. -/
def insertAt (i : Nat) (c : Char) (cs : List Char) : List Char := cs.take i ++ c :: cs.drop i

/-- Inserts the characters that a list of digits describes.  Every step takes a digit, which bounds
the fuel. -/
def insertAll? : Nat → Nat → Nat → Nat → List Char → List Char → Option (List Char)
  | 0, _, _, _, out, _ => some out
  | fuel + 1, code, bias, i, out, cs =>
    if cs.isEmpty then some out
    else
      match number? bias i 1 36 cs with
      | none => none
      | some (j, rest) =>
        let length := out.length + 1
        let code := code + j / length
        if code < 0xD800 ∨ (0xE000 ≤ code ∧ code < 0x110000) then
          let bias := adapt (j - i) length (i == 0)
          let place := j % length
          insertAll? fuel code bias (place + 1) (insertAt place (Char.ofNat code) out) rest
        else none

/-- Parts a label at its last hyphen, unless it starts with it. -/
def splitBase (cs : List Char) : List Char × List Char :=
  match cs.reverse.dropWhile (· != '-') with
  | _ :: base =>
    if base.isEmpty then ([], cs) else (base.reverse, cs.drop (base.length + 1))
  | [] => ([], cs)

/-- The text that a label without its `xn--` stands for. -/
def decode? (cs : List Char) : Option (List Char) :=
  let (base, digits) := splitBase cs
  insertAll? digits.length 0x80 72 0 base digits

end CatalogLint.Url.Punycode
