/-
# JSON values

A value is what a JSON text means: strings are whole, numbers have a value, and an object is a table
in which the last of several members with one key counts.  `Node.value?` gives the value of a tree
that is nested at most `deepest` lists and objects deep; `print` writes a value without blanks.
-/
import CatalogLint.Json.Node
import CatalogLint.Number.Shortest
import CatalogLint.Table

namespace CatalogLint.Json

/-- A JSON value. -/
inductive Value
  /-- The word `null`. -/
  | null
  /-- A truth value. -/
  | boolean (b : Bool)
  /-- A number. -/
  | number (n : Number)
  /-- A string. -/
  | string (s : String)
  /-- A list. -/
  | array (items : List Value)
  /-- An object, by key. -/
  | object (members : List (String × Value))
  deriving Repr

/-! ## 1. The value of a tree -/

namespace Node

/-- How deep lists and objects of a value may be nested. -/
def deepest : Nat := 127

mutual

/-- The value of a tree that may be nested `depth` levels. -/
def valueWithin? : Node → Nat → Option Value
  | null, _ => some .null
  | boolean b, _ => some (.boolean b)
  | number x, _ => x.number?.map .number
  | string text, _ => text.map .string
  | array _, 0 => none
  | array items, depth + 1 => (itemsWithin? items depth).map .array
  | object _, 0 => none
  | object members, depth + 1 =>
    (membersWithin? members depth).map fun es => .object (Table.ofEntries es)

/-- The values of the items of a list. -/
def itemsWithin? : List Node → Nat → Option (List Value)
  | [], _ => some []
  | item :: items, depth =>
    (valueWithin? item depth).bind fun v => (itemsWithin? items depth).map (v :: ·)

/-- The values of the members of an object, in order. -/
def membersWithin? : List (Option String × Node) → Nat → Option (List (String × Value))
  | [], _ => some []
  | (key, item) :: members, depth =>
    key.bind fun k => (valueWithin? item depth).bind fun v =>
      (membersWithin? members depth).map ((k, v) :: ·)

end

/-- The value of a tree. -/
def value? (node : Node) : Option Value := valueWithin? node deepest

end Node

namespace Value

/-- Reads a text as a value. -/
def read? (text : String) : Option Value := (Node.read? text).bind Node.value?

/-- An integer as a value. -/
def ofInt (n : Int) : Value := number (.ofInt n)

/-- A natural number as a value. -/
def ofNat (n : Nat) : Value := number (.natural n)

/-- The member of an object that has the given key. -/
def get? (v : Value) (key : String) : Option Value :=
  match v with
  | object members => Table.get? members key
  | _ => none

/-! ## 2. Printing -/

/-- One character inside a string. -/
def escape (c : Char) : List Char :=
  match c with
  | '"' => ['\\', '"']
  | '\\' => ['\\', '\\']
  | '\x08' => ['\\', 'b']
  | '\x0c' => ['\\', 'f']
  | '\n' => ['\\', 'n']
  | '\r' => ['\\', 'r']
  | '\t' => ['\\', 't']
  | c => if c.toNat < 0x20 then ['\\', 'u'] ++ Hex.padded 4 c.toNat else [c]

/-- A string between quotes. -/
def printString (s : String) : List Char := '"' :: s.toList.flatMap escape ++ ['"']

/-- A number; what is no finite number is written as `null`. -/
def printNumber : Number → List Char
  | .natural n => Number.decimal n
  | .negative n => '-' :: Number.decimal n
  | .double (.finite s m e) =>
    let (digits, scale) := Double.shortest m e
    (if s then ['-'] else []) ++ (Double.positional digits scale).toList
  | .double _ => ['n', 'u', 'l', 'l']

mutual

/-- The characters of a value. -/
def chars : Value → List Char
  | null => ['n', 'u', 'l', 'l']
  | boolean true => ['t', 'r', 'u', 'e']
  | boolean false => ['f', 'a', 'l', 's', 'e']
  | number n => printNumber n
  | string s => printString s
  | array [] => ['[', ']']
  | array (item :: items) => '[' :: chars item ++ itemChars items
  | object [] => ['{', '}']
  | object ((key, item) :: members) =>
    '{' :: printString key ++ ':' :: chars item ++ memberChars members

/-- The further items of a list and its bracket. -/
def itemChars : List Value → List Char
  | [] => [']']
  | item :: items => ',' :: chars item ++ itemChars items

/-- The further members of an object and its brace. -/
def memberChars : List (String × Value) → List Char
  | [] => ['}']
  | (key, item) :: members => ',' :: printString key ++ ':' :: chars item ++ memberChars members

end

/-- The text of a value. -/
def print (v : Value) : String := String.ofList (chars v)

end Value

end CatalogLint.Json
