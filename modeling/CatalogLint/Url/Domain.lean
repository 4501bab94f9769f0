/-
# Domains

A domain is labels joined by dots.  `labels?` maps its characters, composes them, reads labels that
are written in ASCII, and checks each label: it holds no character that means something elsewhere in
an address, does not start with a mark, has joiners only where letters join, and, as soon as some label
of the domain is written from right to left, keeps one direction.  Labels may be empty and of any
length that a decoder takes.
-/
import CatalogLint.Text.Composed
import CatalogLint.Url.Domain.Context
import CatalogLint.Url.Domain.Mapping
import CatalogLint.Url.Punycode

namespace CatalogLint.Url.Domain

open Text

/-! ## 1. Characters -/

/-- The image of a character under the runs of the mapping. -/
def mapRun? (c : Char) : Option Char :=
  mappedRuns.findSome? fun
    | [first, last, step, image] =>
      if first ≤ c.toNat ∧ c.toNat ≤ last ∧ (c.toNat - first) % step = 0 then
        some (Char.ofNat (image + (c.toNat - first)))
      else none
    | _ => none

/-- The several characters to which a character is mapped. -/
def mapText? (c : Char) : Option (List Char) :=
  mappedTexts.findSome? fun
    | n :: image => if n = c.toNat then some (image.map Char.ofNat) else none
    | [] => none

/-- What a character of a domain is mapped to, unless it is refused. -/
def map? (c : Char) : Option (List Char) :=
  if c.toNat < 0x80 then some [c.toLower]
  else if allowed.contains c then some [c]
  else if vanishing.contains c then some []
  else
    match mapRun? c with
    | some d => some [d]
    | none => mapText? c

/-- Characters that no label holds, for they mean something elsewhere in an address. -/
def isForbidden (c : Char) : Bool :=
  c.toNat ≤ 0x20 || c.toNat == 0x7F ||
    c ∈ ['%', '#', '/', ':', '<', '>', '?', '@', '[', '\\', ']', '^', '|']

/-! ## 2. Joiners -/

/-- Whether a character is a mark that suppresses a vowel, behind which a joiner may stand. -/
def isVirama (c : Char) : Bool := markClass c == 9

/-- Whether a letter joins what stands on its left. -/
def joinsLeft (c : Char) : Bool := dualJoining.contains c || leftJoining.contains c

/-- Whether a letter joins what stands on its right. -/
def joinsRight (c : Char) : Bool := dualJoining.contains c || rightJoining.contains c

/-- Whether a joiner may stand between two texts, the first of them backwards.  A joiner follows a
virama; a non-joiner may also stand between two letters that would join. -/
def joinerFits (c : Char) (before after : List Char) : Bool :=
  before.head?.any isVirama ||
    (c == '\u200C' &&
      (before.dropWhile transparent.contains).head?.any joinsLeft &&
      (after.dropWhile transparent.contains).head?.any joinsRight)

/-- Whether every joiner of a text fits, behind a text that is read backwards. -/
def joinersFit (before : List Char) : List Char → Bool
  | [] => true
  | c :: cs =>
    (if c = '\u200C' ∨ c = '\u200D' then joinerFits c before cs else true) &&
      joinersFit (c :: before) cs

/-! ## 3. Directions -/

/-- The direction of a character. -/
inductive Direction
  /-- From left to right. -/
  | left
  /-- From right to left. -/
  | right
  /-- A digit of an Arabic number. -/
  | arabicNumber
  /-- A digit of a European number. -/
  | europeanNumber
  /-- A mark without a direction of its own. -/
  | attached
  /-- No direction of its own. -/
  | neutral
  deriving DecidableEq, Repr

/-- The direction of a character of a domain. -/
def direction (c : Char) : Direction :=
  if rightToLeft.contains c then .right
  else if arabicNumbers.contains c then .arabicNumber
  else if europeanNumbers.contains c then .europeanNumber
  else if Domain.attached.contains c then .attached
  else if Domain.neutral.contains c then .neutral
  else .left

/-- Whether a label holds something that is written from right to left. -/
def turnsRight (label : List Char) : Bool :=
  label.any fun c => direction c == .right || direction c == .arabicNumber

/-- Whether a label keeps the direction of its first character: it ends in a letter or digit of that
direction, marks looked through, holds no letter of the other, and no numbers of both kinds from
right to left. -/
def keepsDirection (label : List Char) : Bool :=
  let ds := label.map direction
  let ends := (ds.reverse.dropWhile (· == .attached)).head?
  match ds.head? with
  | none => true
  | some .left =>
    !(ds.any fun d => d == .right || d == .arabicNumber) &&
      ends.any fun d => d == .left || d == .europeanNumber
  | some .right =>
    !ds.contains .left && !(ds.contains .arabicNumber && ds.contains .europeanNumber) &&
      ends.any fun d => d == .right || d == .arabicNumber || d == .europeanNumber
  | some _ => false

/-! ## 4. Labels -/

/-- Whether a text holds ASCII only. -/
def isAscii (cs : List Char) : Bool := cs.all fun c => c.toNat < 0x80

/-- The greatest number of characters of a label that is to be written in ASCII. -/
def longestLabel : Nat := 1000

/-- The greatest number of characters of a label that is written in ASCII. -/
def longestCode : Nat := 2000

/-- A mapped label as it is meant: behind `xn--` it is decoded, and must then be in the form in which
it would have been mapped. -/
def decode? (label : List Char) : Option (List Char) :=
  match label with
  | 'x' :: 'n' :: '-' :: '-' :: code =>
    if longestCode < code.length || !isAscii code then none
    else
      (Punycode.decode? code).bind fun cs =>
        if !isAscii cs && (cs.all fun c => map? c == some [c]) && composed cs == cs then some cs
        else none
  | label => if !isAscii label && longestLabel < label.length then none else some label

/-- Whether a label is valid by itself. -/
def isLabel (label : List Char) : Bool :=
  !label.any isForbidden && !label.head?.any marks.contains && joinersFit [] label

/-- The labels of a domain. -/
def labels? (domain : List Char) : Option (List (List Char)) :=
  (domain.mapM map?).bind fun mapped =>
    ((composed mapped.flatten).splitOn '.' |>.mapM decode?).bind fun labels =>
      if labels.all isLabel && (!labels.any turnsRight || labels.all keepsDirection) then
        some labels
      else none

end CatalogLint.Url.Domain
