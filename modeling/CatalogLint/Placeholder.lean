/-
# Format placeholders

A translated value holds placeholders such as `%@`, `%1$d` or `%-5.2lf`.  A percent sign may start
one of three things, tried in this order: an escaped percent sign, a reference to a plural variable
such as `%#@items@`, and a placeholder.  Only placeholders are counted; what starts none of the three
is plain text.  Digits and blanks are those of every script.  Main facts: plain text before a percent
sign says nothing (`count_cons_of_ne`), and every item is shorter than the text (`item?_length`).
-/
import CatalogLint.Text.CodeSet

namespace CatalogLint.Placeholder

open Text

/-! ## 1. The parts of a placeholder

Each function drops an optional part at the front of a text. -/

/-- Drops an argument position, digits and a dollar sign. -/
def skipPosition (cs : List Char) : List Char :=
  match cs.dropWhile isDecimalDigit with
  | '$' :: r => if cs.head?.any isDecimalDigit then r else cs
  | _ => cs

/-- The characters of flags. -/
def isFlag (c : Char) : Bool := c == '-' || c == '+' || c == '0' || c == '#' || c == '\''

/-- Drops digits or an asterisk. -/
def skipNumber (cs : List Char) : List Char :=
  match cs with
  | '*' :: r => r
  | r => r.dropWhile isDecimalDigit

/-- Whether a text starts with digits or an asterisk. -/
def startsNumber : List Char → Bool
  | c :: _ => c == '*' || isDecimalDigit c
  | [] => false

/-- Drops a point and the precision behind it. -/
def skipPrecision (cs : List Char) : List Char :=
  match cs with
  | '.' :: r => if startsNumber r then skipNumber r else cs
  | r => r

/-- Drops a length modifier. -/
def skipLength (cs : List Char) : List Char :=
  match cs with
  | 'h' :: 'h' :: r => r
  | 'l' :: 'l' :: r => r
  | c :: r => if c ∈ ['h', 'l', 'q', 'L', 'z', 't', 'j'] then r else cs
  | [] => []

/-- The characters that end a placeholder and say what it shows. -/
def isConversion (c : Char) : Bool :=
  c ∈ ['@', 'd', 'D', 'i', 'u', 'U', 'x', 'X', 'o', 'O', 'f', 'F', 'e', 'E', 'g', 'G', 'c', 'C',
    's', 'S', 'p', 'a', 'A']

/-! ## 2. Items -/

/-- What a percent sign starts. -/
inductive Item
  /-- An escaped percent sign or a reference to a plural variable. -/
  | skipped
  /-- A placeholder. -/
  | counted
  deriving DecidableEq, Repr

/-- Takes the rest of a reference to a plural variable behind its percent sign. -/
def reference? (cs : List Char) : Option (List Char) :=
  match skipPosition cs with
  | '#' :: '@' :: r =>
    match r.dropWhile fun c => c != '@' && !isBlank c with
    | '@' :: r => some r
    | _ => none
  | _ => none

/-- Takes the rest of a placeholder behind its percent sign. -/
def specifier? (cs : List Char) : Option (List Char) :=
  match skipLength (skipPrecision (skipNumber ((skipPosition cs).dropWhile isFlag))) with
  | c :: r => if isConversion c then some r else none
  | [] => none

/-- Takes the rest of the item that a percent sign starts. -/
def item? (cs : List Char) : Option (Item × List Char) :=
  match cs with
  | '%' :: r => some (.skipped, r)
  | cs =>
    match reference? cs with
    | some r => some (.skipped, r)
    | none => (specifier? cs).map fun r => (.counted, r)

/-! ## 3. What is left is shorter -/

theorem length_dropWhile_le (p : Char → Bool) (cs : List Char) :
    (cs.dropWhile p).length ≤ cs.length :=
  (List.dropWhile_sublist p).length_le

theorem length_skipPosition_le (cs : List Char) : (skipPosition cs).length ≤ cs.length := by
  unfold skipPosition
  split
  · next r h =>
    split
    · have hle := length_dropWhile_le isDecimalDigit cs
      rw [h, List.length_cons] at hle
      omega
    · exact Nat.le_refl _
  · exact Nat.le_refl _

theorem length_skipNumber_le (cs : List Char) : (skipNumber cs).length ≤ cs.length := by
  unfold skipNumber
  split
  · simp
  · exact length_dropWhile_le _ _

theorem length_skipPrecision_le (cs : List Char) : (skipPrecision cs).length ≤ cs.length := by
  unfold skipPrecision
  split
  · next r =>
    split
    · have := length_skipNumber_le r
      simp only [List.length_cons]; omega
    · exact Nat.le_refl _
  · exact Nat.le_refl _

theorem length_skipLength_le (cs : List Char) : (skipLength cs).length ≤ cs.length := by
  unfold skipLength
  split
  · simp; omega
  · simp; omega
  · split <;> simp
  · exact Nat.le_refl _

theorem length_reference?_lt {cs r : List Char} (h : reference? cs = some r) :
    r.length < cs.length := by
  unfold reference? at h
  have hp := length_skipPosition_le cs
  split at h
  · next r' hr =>
    split at h
    · next r'' hd =>
      have := length_dropWhile_le (fun c => c != '@' && !isBlank c) r'
      simp only [Option.some.injEq] at h
      subst h
      rw [hd] at this
      rw [hr] at hp
      simp only [List.length_cons] at this hp
      omega
    · simp at h
  · simp at h

theorem length_specifier?_lt {cs r : List Char} (h : specifier? cs = some r) :
    r.length < cs.length := by
  unfold specifier? at h
  split at h
  · next c r' hr =>
    split at h
    · simp only [Option.some.injEq] at h
      subst h
      have h1 := length_skipPosition_le cs
      have h2 := length_dropWhile_le isFlag (skipPosition cs)
      have h3 := length_skipNumber_le ((skipPosition cs).dropWhile isFlag)
      have h4 := length_skipPrecision_le (skipNumber ((skipPosition cs).dropWhile isFlag))
      have h5 := length_skipLength_le
        (skipPrecision (skipNumber ((skipPosition cs).dropWhile isFlag)))
      rw [hr, List.length_cons] at h5
      omega
    · simp at h
  · simp at h

/-- An item takes at least one character. -/
theorem item?_length {cs r : List Char} {i : Item} (h : item? cs = some (i, r)) :
    r.length < cs.length := by
  unfold item? at h
  split at h
  · simp only [Option.some.injEq, Prod.mk.injEq] at h
    rw [← h.2, List.length_cons]
    exact Nat.lt_succ_self _
  · split at h
    · next r' hr =>
      simp only [Option.some.injEq, Prod.mk.injEq] at h
      rw [← h.2]
      exact length_reference?_lt hr
    · obtain ⟨r', hr, he⟩ := Option.map_eq_some_iff.1 h
      rw [← (Prod.mk.inj he).2]
      exact length_specifier?_lt hr

/-! ## 4. Counting -/

/-- The number of placeholders in a text. -/
def countChars : List Char → Nat
  | [] => 0
  | c :: cs =>
    if c = '%' then
      match h : item? cs with
      | some (.skipped, r) => countChars r
      | some (.counted, r) => countChars r + 1
      | none => countChars cs
    else countChars cs
termination_by cs => cs.length
decreasing_by
  · have := item?_length h; simp only [List.length_cons]; omega
  · have := item?_length h; simp only [List.length_cons]; omega
  · simp
  · simp

/-- The number of placeholders in a text. -/
def count (text : String) : Nat := countChars text.toList

theorem countChars_nil : countChars [] = 0 := by simp [countChars]

theorem count_cons_of_ne {c : Char} (h : c ≠ '%') (cs : List Char) :
    countChars (c :: cs) = countChars cs := by
  rw [countChars, if_neg h]

end CatalogLint.Placeholder
