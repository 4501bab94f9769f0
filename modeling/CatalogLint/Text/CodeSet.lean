/-
# Sets of characters

A property of characters is a set of code points, and such a set is a short list of ranges.
Long sets are kept as a text of hexadecimal words, `300-36F 483 591-5BD`, which `ofText` reads;
membership is `contains`.

* White space is the Unicode property `White_Space`.  `trim` drops it at both ends of a text, and
  `spells` compares a text with a word regardless of it and of case: a text spells at most one word
  (`eq_of_spells`).
* The decimal digits of every script come in blocks of ten, zero to nine, and a character is a digit
  when it lies in a block.
-/
import CatalogLint.Number.Integer

namespace CatalogLint.Text

/-! ## 1. Sets -/

/-- A set of characters, given by the ranges of its code points. -/
structure CodeSet where
  /-- First and last code point of each range. -/
  ranges : List (Nat × Nat)

namespace CodeSet

/-- Membership: some range holds the character's code point. -/
def contains (s : CodeSet) (c : Char) : Bool :=
  s.ranges.any fun r => r.1 ≤ c.toNat && c.toNat ≤ r.2

/-- Reads one word of a range text, a code point or two joined by a hyphen. -/
def range? (word : List Char) : Option (Nat × Nat) :=
  match word.splitOn '-' with
  | [[]] => none
  | [a] => (Hex.value? a).map fun n => (n, n)
  | [a, b] => (Hex.value? a).bind fun m => (Hex.value? b).map fun n => (m, n)
  | _ => none

/-- Reads a text of ranges, separated by blanks and line ends. -/
def ofText (text : String) : CodeSet :=
  ⟨(text.toList.splitOnP fun c => c == ' ' || c == '\n').filterMap range?⟩

theorem contains_iff {s : CodeSet} {c : Char} :
    s.contains c = true ↔ ∃ r ∈ s.ranges, r.1 ≤ c.toNat ∧ c.toNat ≤ r.2 := by
  simp [contains]

end CodeSet

/-! ## 2. White space -/

/-- The characters of `White_Space`. -/
def blanks : CodeSet :=
  ⟨[(0x9, 0xD), (0x20, 0x20), (0x85, 0x85), (0xA0, 0xA0), (0x1680, 0x1680), (0x2000, 0x200A),
    (0x2028, 0x2029), (0x202F, 0x202F), (0x205F, 0x205F), (0x3000, 0x3000)]⟩

/-- Whether a character is white space. -/
def isBlank (c : Char) : Bool := blanks.contains c

/-- Drops the white space at the end of a text. -/
def trimEnd (cs : List Char) : List Char := (cs.reverse.dropWhile isBlank).reverse

/-- Drops the white space at both ends of a text. -/
def trim (cs : List Char) : List Char := trimEnd (cs.dropWhile isBlank)

/-- Whether a text, apart from the white space around it and the case of its ASCII letters, is the
given lower-case word. -/
def spells (word text : String) : Bool := (trim text.toList).map Char.toLower == word.toList

/-- A text spells at most one word. -/
theorem eq_of_spells {v w text : String} (hv : spells v text = true) (hw : spells w text = true) :
    v = w := by
  simp only [spells, beq_iff_eq] at hv hw
  exact String.toList_inj.1 (hv.symm.trans hw)

/-! ## 3. Decimal digits -/

/-- The code points of the zeros, one for each block of decimal digits. -/
def zeros : List Nat :=
  [0x30, 0x660, 0x6F0, 0x7C0, 0x966, 0x9E6, 0xA66, 0xAE6, 0xB66, 0xBE6, 0xC66, 0xCE6, 0xD66,
   0xDE6, 0xE50, 0xED0, 0xF20, 0x1040, 0x1090, 0x17E0, 0x1810, 0x1946, 0x19D0, 0x1A80, 0x1A90,
   0x1B50, 0x1BB0, 0x1C40, 0x1C50, 0xA620, 0xA8D0, 0xA900, 0xA9D0, 0xA9F0, 0xAA50, 0xABF0,
   0xFF10, 0x104A0, 0x10D30, 0x10D40, 0x11066, 0x110F0, 0x11136, 0x111D0, 0x112F0, 0x11450,
   0x114D0, 0x11650, 0x116C0, 0x116D0, 0x116DA, 0x11730, 0x118E0, 0x11950, 0x11BF0, 0x11C50,
   0x11D50, 0x11DA0, 0x11DE0, 0x11F50, 0x16130, 0x16A60, 0x16AC0, 0x16B50, 0x16D70, 0x1CCF0,
   0x1D7CE, 0x1D7D8, 0x1D7E2, 0x1D7EC, 0x1D7F6, 0x1E140, 0x1E2F0, 0x1E4F0, 0x1E5F1, 0x1E950,
   0x1FBF0]

/-- Whether a character is a decimal digit of some script. -/
def isDecimalDigit (c : Char) : Bool :=
  zeros.any fun z => z ≤ c.toNat && c.toNat < z + 10

end CatalogLint.Text
