/-
# The grammar of JSON texts

Which texts are a tree, said without a reader.  A tree has many texts: blanks may stand around its
parts, a character may be escaped, an exponent may have a sign or not.

* `Codes` are the texts of a list of codes inside quotes, and `Numeral.Spells` the texts of a numeral.
* `Spells` are the texts of a tree without the blanks around it.  Items and members carry the bracket
  that ends them, since every one of them but the last ends with a comma.
* `Node.Text` is a whole text, blanks included.
-/
import CatalogLint.Json.Node

namespace CatalogLint.Json

open CatalogLint.Number

/-! ## 1. Numerals -/

namespace Numeral

/-- At least one digit, and nothing but digits. -/
def Digits (cs : List Char) : Prop := cs ≠ [] ∧ ∀ c ∈ cs, c.isDigit

/-- The texts of the part behind the point, with the point. -/
inductive Fraction : Option (List Char) → List Char → Prop
  /-- There is no point. -/
  | none : Fraction none []
  /-- A point and its digits. -/
  | some {digits : List Char} (h : Digits digits) : Fraction (some digits) ('.' :: digits)

/-- The texts of an exponent, with its letter. -/
inductive Exponent : Option Int → List Char → Prop
  /-- There is no exponent. -/
  | none : Exponent none []
  /-- An exponent without a sign. -/
  | unsigned {e : Char} {digits : List Char} (he : e = 'e' ∨ e = 'E') (h : Digits digits) :
    Exponent (some (digitsValue digits)) (e :: digits)
  /-- An exponent with a plus sign. -/
  | plus {e : Char} {digits : List Char} (he : e = 'e' ∨ e = 'E') (h : Digits digits) :
    Exponent (some (digitsValue digits)) (e :: '+' :: digits)
  /-- An exponent with a minus sign. -/
  | minus {e : Char} {digits : List Char} (he : e = 'e' ∨ e = 'E') (h : Digits digits) :
    Exponent (some (-digitsValue digits)) (e :: '-' :: digits)

/-- The texts of a numeral.  No zero stands in front of other digits. -/
inductive Spells : Numeral → List Char → Prop
  /-- Sign, digits, fraction and exponent, one behind the other. -/
  | parts {negative : Bool} {whole fs es : List Char} {fraction : Option (List Char)}
    {exponent : Option Int} (hwhole : Digits whole) (hzero : whole.head? = some '0' → whole = ['0'])
    (hfraction : Fraction fraction fs) (hexponent : Exponent exponent es) :
    Spells ⟨negative, whole, fraction, exponent⟩
      ((if negative then ['-'] else []) ++ (whole ++ (fs ++ es)))

end Numeral

/-! ## 2. Strings -/

namespace Node

/-- The texts of a list of codes between quotes. -/
inductive Codes : List Nat → List Char → Prop
  /-- Nothing. -/
  | nil : Codes [] []
  /-- A character that stands for itself. -/
  | plain {c : Char} {ns : List Nat} {cs : List Char} (hcontrol : 0x20 ≤ c.toNat) (hquote : c ≠ '"')
    (hescape : c ≠ '\\') (h : Codes ns cs) : Codes (c.toNat :: ns) (c :: cs)
  /-- An escape of one letter. -/
  | short {e c : Char} {ns : List Nat} {cs : List Char} (he : escape? e = some c) (h : Codes ns cs) :
    Codes (c.toNat :: ns) ('\\' :: e :: cs)
  /-- An escape of four digits, which may stand for half of a character. -/
  | digits {a b c d : Char} {n : Nat} {ns : List Nat} {cs : List Char}
    (hn : Hex.value? [a, b, c, d] = some n) (h : Codes ns cs) :
    Codes (n :: ns) ('\\' :: 'u' :: a :: b :: c :: d :: cs)

/-- The text of a list of codes, unless there is half a character among them. -/
def textOf (ns : List Nat) : Option String := (joinHalves? ns).map String.ofList

/-! ## 3. Trees -/

/-- Nothing but blanks. -/
def Blank (cs : List Char) : Prop := ∀ c ∈ cs, isSpace c

/-- A text with blanks around it. -/
def Padded (cs ds : List Char) : Prop :=
  ∃ before after, Blank before ∧ Blank after ∧ ds = before ++ (cs ++ after)

mutual

/-- The texts of a tree. -/
inductive Spells : Node → List Char → Prop
  /-- The word `null`. -/
  | wordNull : Spells null ['n', 'u', 'l', 'l']
  /-- The word `true`. -/
  | wordTrue : Spells (boolean true) ['t', 'r', 'u', 'e']
  /-- The word `false`. -/
  | wordFalse : Spells (boolean false) ['f', 'a', 'l', 's', 'e']
  /-- A numeral. -/
  | number {x : Numeral} {cs : List Char} (h : x.Spells cs) : Spells (number x) cs
  /-- Codes between quotes. -/
  | string {ns : List Nat} {cs : List Char} (h : Codes ns cs) :
    Spells (string (textOf ns)) ('"' :: (cs ++ ['"']))
  /-- The empty list. -/
  | emptyArray {cs : List Char} (h : Blank cs) : Spells (array []) ('[' :: (cs ++ [']']))
  /-- A list with items. -/
  | array {items : List Node} {cs : List Char} (h : SpellsItems items cs) :
    Spells (array items) ('[' :: cs)
  /-- The empty object. -/
  | emptyObject {cs : List Char} (h : Blank cs) : Spells (object []) ('{' :: (cs ++ ['}']))
  /-- An object with members. -/
  | object {members : List (Option String × Node)} {cs : List Char}
    (h : SpellsMembers members cs) : Spells (object members) ('{' :: cs)

/-- The texts of items, with the bracket behind them. -/
inductive SpellsItems : List Node → List Char → Prop
  /-- One item is the last. -/
  | last {item : Node} {cs ds : List Char} (h : Spells item cs) (hpad : Padded cs ds) :
    SpellsItems [item] (ds ++ [']'])
  /-- Others follow. -/
  | more {item : Node} {items : List Node} {cs ds es : List Char} (h : Spells item cs)
    (hpad : Padded cs ds) (hmore : SpellsItems items es) :
    SpellsItems (item :: items) (ds ++ ',' :: es)

/-- The texts of members, with the brace behind them. -/
inductive SpellsMembers : List (Option String × Node) → List Char → Prop
  /-- One member is the last. -/
  | last {ns : List Nat} {item : Node} {ks ks' cs ds : List Char} (hkey : Codes ns ks)
    (hpadKey : Padded ('"' :: (ks ++ ['"'])) ks') (h : Spells item cs) (hpad : Padded cs ds) :
    SpellsMembers [(textOf ns, item)] (ks' ++ ':' :: (ds ++ ['}']))
  /-- Others follow. -/
  | more {ns : List Nat} {item : Node} {members : List (Option String × Node)}
    {ks ks' cs ds es : List Char} (hkey : Codes ns ks) (hpadKey : Padded ('"' :: (ks ++ ['"'])) ks')
    (h : Spells item cs) (hpad : Padded cs ds) (hmore : SpellsMembers members es) :
    SpellsMembers ((textOf ns, item) :: members) (ks' ++ ':' :: (ds ++ ',' :: es))

end

/-- **The whole texts of a tree**, with blanks around it. -/
def Text (node : Node) (text : String) : Prop := ∃ cs, node.Spells cs ∧ Padded cs text.toList

end Node

end CatalogLint.Json
