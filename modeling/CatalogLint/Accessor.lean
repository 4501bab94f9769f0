/-
# Generated accessors

Code reaches a declared string through an accessor that is generated from its key: `CHECKOUT.PAY_NOW`
becomes `l10n.checkout.payNow`.  Dots part the key into components and underscores a component into
words; empty ones vanish.  The words of a component are run together, each in small letters and each
but the first with a capital.  The position of a component makes no difference (`components_eq`).
`matchKey` is the accessor in small letters, under which declared and used names meet.
-/
import CatalogLint.Text.LetterCase

namespace CatalogLint.Accessor

open Text

/-- The parts of a text between separators, without the empty ones. -/
def pieces (separator : Char) (cs : List Char) : List (List Char) :=
  (cs.splitOn separator).filter fun piece => !piece.isEmpty

/-- A word in small letters with a capital. -/
def capitalWord (word : List Char) : List Char := capitalize (lower word)

/-- The words of a segment run together; the first has a capital if `capitalFirst`. -/
def camel (capitalFirst : Bool) (segment : List Char) : List Char :=
  match pieces '_' segment with
  | [] => []
  | word :: words =>
    (if capitalFirst then capitalWord word else lower word) ++ words.flatMap capitalWord

/-- The component of a segment.  If the first word gets a capital it loses it again, which leaves a
trace where the capital form is several characters. -/
def component (capitalFirst : Bool) (segment : List Char) : List Char :=
  uncapitalize (camel capitalFirst segment)

/-- Whether the segment at a position gets a capital: there is one before it, or one behind it. -/
def capitalAt (count i : Nat) : Bool := 0 < i || (1 < count && i < count - 1)

/-- The components of a key. -/
def components (key : List Char) : List (List Char) :=
  let segments := pieces '.' key
  segments.mapIdx fun i segment => component (capitalAt segments.length i) segment

/-- The name that all accessors start with. -/
def scope : List Char := ['l', '1', '0', 'n']

/-- The accessor that is generated for a key. -/
def ofKey (key : String) : String :=
  String.ofList (scope ++ '.' :: ['.'].intercalate (components key.toList))

/-- An accessor in small letters. -/
def matchKey (accessor : String) : String := String.ofList (lower accessor.toList)

/-- The match key of a declared key. -/
def keyOf (key : String) : String := matchKey (ofKey key)

theorem capitalAt_eq {count i : Nat} (h : i < count) : capitalAt count i = decide (1 < count) := by
  rw [capitalAt, Bool.eq_iff_iff]
  simp only [Bool.or_eq_true, Bool.and_eq_true, decide_eq_true_eq]
  omega

/-- All segments of a key are treated alike: where there are several, each gets a capital. -/
theorem components_eq (key : List Char) :
    components key = (pieces '.' key).map (component (1 < (pieces '.' key).length)) := by
  refine List.ext_getElem (by simp [components]) fun i hi _ => ?_
  have hlt : i < (pieces '.' key).length := by simpa [components] using hi
  simp [components, capitalAt_eq hlt]

theorem toList_ofKey (key : String) :
    (ofKey key).toList = scope ++ '.' :: ['.'].intercalate (components key.toList) :=
  String.toList_ofList

end CatalogLint.Accessor
