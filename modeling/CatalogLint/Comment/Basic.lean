/-
# Structured comments

A structured comment is an object of JSON with a description, the names of the placeholders, the
address of a screenshot and a greatest length.  Each is optional, and `null` is as good as absent;
`ofMembers?` fails when one of them has another shape.  A length is a whole number, however it is
written: a word with a sign as it was read, or else the double nearest to the number, held to the range
of 64 bits (`wholeNumber?`).
-/
import CatalogLint.Json.Value

namespace CatalogLint

open Json

/-- The parts of a structured comment. -/
structure Comment where
  /-- What the string is for. -/
  description : Option String := none
  /-- The names of the placeholders, in order. -/
  placeholders : Option (List String) := none
  /-- The address of a screenshot. -/
  screenshot : Option String := none
  /-- The greatest number of characters. -/
  greatestLength : Option Int := none
  deriving DecidableEq, Repr

namespace Comment

/-- Reads a number without a fraction as a word with a sign: the number is one as it was read, or the
double nearest to it has no fraction, and is held to sixty-four bits. -/
def wholeNumber? (x : Number) : Option Int :=
  x.signed?.or (x.nearest.whole?.map CatalogLint.Number.clampSigned)

/-- Reads an optional member with a reader of its values. -/
def member? {α : Type} (read : Value → Option α) (members : Table Value) (key : String) :
    Option (Option α) :=
  match Table.get? members key with
  | none => some none
  | some .null => some none
  | some v => (read v).map some

/-- Reads a text. -/
def text? : Value → Option String
  | .string s => some s
  | _ => none

/-- Reads a list of texts. -/
def texts? : Value → Option (List String)
  | .array items => items.mapM text?
  | _ => none

/-- Reads a length. -/
def length? : Value → Option Int
  | .number x => wholeNumber? x
  | _ => none

/-- Reads the parts of a comment from the members of an object. -/
def ofMembers? (members : Table Value) : Option Comment := do
  let description ← member? text? members "description"
  let placeholders ← member? texts? members "placeholders"
  let screenshot ← member? text? members "img"
  let greatestLength ← member? length? members "max_character_count"
  return { description, placeholders, screenshot, greatestLength }

/-- Reads the members of an object from the text of a comment. -/
def members? (text : Option String) : Option (Table Value) :=
  match text.bind Value.read? with
  | some (.object members) => some members
  | _ => none

end Comment

end CatalogLint
