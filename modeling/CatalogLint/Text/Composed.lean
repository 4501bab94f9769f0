/-
# Composed text

A letter with marks can be written in several ways.  `composed` gives the one in which marks stand in
the order of their classes and are drawn into the letter where a composed character exists: characters
are taken apart, marks are put in order, and what can be composed is composed again.  A mark of a
class that already stands between it and its base keeps apart.
-/
import CatalogLint.Text.Composed.Table

namespace CatalogLint.Text

/-! ## 1. Hangul

Hangul syllables are composed by arithmetic: a leading letter, a vowel and an optional trailing
letter. -/

/-- The letters of a Hangul syllable. -/
def hangulLetters? (c : Char) : Option (List Char) :=
  if 0xAC00 ≤ c.toNat ∧ c.toNat ≤ 0xD7A3 then
    let i := c.toNat - 0xAC00
    let pair := [Char.ofNat (0x1100 + i / 588), Char.ofNat (0x1161 + i % 588 / 28)]
    some (if i % 28 = 0 then pair else pair ++ [Char.ofNat (0x11A7 + i % 28)])
  else none

/-- The syllable of a leading letter and a vowel, or of an open syllable and a trailing letter. -/
def hangulSyllable? (a b : Char) : Option Char :=
  let m := a.toNat
  let n := b.toNat
  if 0x1100 ≤ m ∧ m ≤ 0x1112 ∧ 0x1161 ≤ n ∧ n ≤ 0x1175 then
    some (Char.ofNat (0xAC00 + (m - 0x1100) * 588 + (n - 0x1161) * 28))
  else if 0xAC00 ≤ m ∧ m ≤ 0xD7A3 ∧ (m - 0xAC00) % 28 = 0 ∧ 0x11A8 ≤ n ∧ n ≤ 0x11C2 then
    some (Char.ofNat (m + (n - 0x11A7)))
  else none

/-! ## 2. Tables -/

/-- The class of a mark; zero for what is none. -/
def markClass (c : Char) : Nat :=
  if c.toNat < 0x80 then 0
  else
    (markClasses.findSome? fun
      | [first, last, k] => if first ≤ c.toNat ∧ c.toNat ≤ last then some k else none
      | _ => none).getD 0

/-- The base and the mark of a composed character. -/
def parts? (c : Char) : Option (Char × Char) :=
  composites.findSome? fun
    | [n, a, b] => if n = c.toNat then some (Char.ofNat a, Char.ofNat b) else none
    | _ => none

/-- The character that a base and a mark compose. -/
def composite? (a b : Char) : Option Char :=
  match hangulSyllable? a b with
  | some c => some c
  | none =>
    if b.toNat < 0x80 then none
    else
      composites.findSome? fun
        | [n, x, y] => if x = a.toNat ∧ y = b.toNat then some (Char.ofNat n) else none
        | _ => none

/-! ## 3. Taking apart -/

/-- A character taken apart, in at most so many steps. -/
def takeApart : Nat → Char → List Char
  | 0, c => [c]
  | steps + 1, c =>
    if c.toNat < 0x80 then [c]
    else
      match hangulLetters? c with
      | some letters => letters
      | none =>
        match parts? c with
        | some (base, mark) => takeApart steps base ++ [mark]
        | none => [c]

/-- Puts a character in front of a text, behind the marks of lesser class if it is a mark. -/
def insertMark (c : Char) : List Char → List Char
  | [] => [c]
  | d :: ds =>
    if 0 < markClass d ∧ markClass d < markClass c then d :: insertMark c ds else c :: d :: ds

/-- Puts the marks of a text in order. -/
def orderMarks (cs : List Char) : List Char := cs.foldr insertMark []

/-! ## 4. Composing -/

/-- Composes a text behind a base and the marks that were not drawn into it, backwards. -/
def composeFrom (base : Char) (marks : List Char) : List Char → List Char
  | [] => base :: marks.reverse
  | c :: cs =>
    let k := markClass c
    let free := marks.head?.all fun d => markClass d < k
    match if free then composite? base c else none with
    | some b => composeFrom b marks cs
    | none =>
      if k = 0 then base :: marks.reverse ++ composeFrom c [] cs
      else composeFrom base (c :: marks) cs

/-- Composes a text whose marks are in order. -/
def compose : List Char → List Char
  | [] => []
  | c :: cs => if markClass c = 0 then composeFrom c [] cs else c :: compose cs

/-- The composed form of a text. -/
def composed (cs : List Char) : List Char :=
  if cs.all fun c => c.toNat < 0x80 then cs
  else compose (orderMarks (cs.flatMap (takeApart 4)))

end CatalogLint.Text
