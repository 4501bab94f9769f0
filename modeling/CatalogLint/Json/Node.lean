/-
# JSON texts as trees

`Node.read?` reads a JSON text into a tree that still shows how it was written: numbers as
numerals, the members of an object in order and with repetitions, and a string as `none` when one of
its escapes is half of a character.  What such a tree means is decided by the caller: a value reads
all of it, a record only its own members.
-/
import CatalogLint.Json.Number
import CatalogLint.Number.Integer

namespace CatalogLint.Json

/-- A JSON text as a tree. -/
inductive Node
  /-- The word `null`. -/
  | null
  /-- A truth value. -/
  | boolean (b : Bool)
  /-- A number. -/
  | number (x : Numeral)
  /-- A string, unless it holds half a character. -/
  | string (text : Option String)
  /-- A list. -/
  | array (items : List Node)
  /-- Members in order, each with its key. -/
  | object (members : List (Option String × Node))
  deriving Repr

namespace Node

/-! ## 1. Blanks and strings -/

/-- Whether a character may stand between the parts of a text. -/
def isSpace (c : Char) : Bool := c == ' ' || c == '\n' || c == '\t' || c == '\r'

/-- Drops the blanks in front. -/
def skip (cs : List Char) : List Char := cs.dropWhile isSpace

/-- What a one-letter escape stands for. -/
def escape? : Char → Option Char
  | '"' => some '"'
  | '\\' => some '\\'
  | '/' => some '/'
  | 'b' => some '\x08'
  | 'f' => some '\x0c'
  | 'n' => some '\n'
  | 'r' => some '\r'
  | 't' => some '\t'
  | _ => none

/-- Takes the rest of a string behind its opening quote: the codes that it holds, of which an escape
may give half a character. -/
def codes? : List Char → Option (List Nat × List Char)
  | [] => none
  | '"' :: r => some ([], r)
  | '\\' :: 'u' :: a :: b :: c :: d :: r =>
    (Hex.value? [a, b, c, d]).bind fun n => (codes? r).map fun (ns, r) => (n :: ns, r)
  | '\\' :: e :: r =>
    (escape? e).bind fun c => (codes? r).map fun (ns, r) => (c.toNat :: ns, r)
  | c :: r =>
    if c.toNat < 0x20 ∨ c = '\\' then none
    else (codes? r).map fun (ns, r) => (c.toNat :: ns, r)

/-- Whether a code is the first half of a character. -/
def isHigh (n : Nat) : Bool := 0xD800 ≤ n && n < 0xDC00

/-- Whether a code is the second half of a character. -/
def isLow (n : Nat) : Bool := 0xDC00 ≤ n && n < 0xE000

/-- The characters of a list of codes; a first half must be followed by a second half, which must
not stand alone. -/
def joinHalves? : List Nat → Option (List Char)
  | [] => some []
  | [n] => if isHigh n || isLow n then none else some [Char.ofNat n]
  | m :: n :: r =>
    if isHigh m then
      if isLow n then
        (joinHalves? r).map (Char.ofNat (0x10000 + (m - 0xD800) * 0x400 + (n - 0xDC00)) :: ·)
      else none
    else if isLow m then none
    else (joinHalves? (n :: r)).map (Char.ofNat m :: ·)

/-- Takes the rest of a string behind its opening quote. -/
def readString? (cs : List Char) : Option (Option String × List Char) :=
  (codes? cs).map fun (ns, r) => ((joinHalves? ns).map String.ofList, r)

/-! ## 2. Trees

The fuel bounds the steps of the reader.  Every second step takes a character, so twice the length
of the text is enough. -/

mutual

/-- Takes a tree from the front of a text. -/
def readNode? : Nat → List Char → Option (Node × List Char)
  | 0, _ => none
  | fuel + 1, cs =>
    match skip cs with
    | 'n' :: 'u' :: 'l' :: 'l' :: r => some (null, r)
    | 't' :: 'r' :: 'u' :: 'e' :: r => some (boolean true, r)
    | 'f' :: 'a' :: 'l' :: 's' :: 'e' :: r => some (boolean false, r)
    | '"' :: r => (readString? r).map fun (s, r) => (string s, r)
    | '[' :: r =>
      match skip r with
      | ']' :: r => some (array [], r)
      | r => (readItems? fuel r).map fun (items, r) => (array items, r)
    | '{' :: r =>
      match skip r with
      | '}' :: r => some (object [], r)
      | r => (readMembers? fuel r).map fun (members, r) => (object members, r)
    | r => (Numeral.read? r).map fun (x, r) => (number x, r)

/-- Takes the items of a list and the bracket behind them. -/
def readItems? : Nat → List Char → Option (List Node × List Char)
  | 0, _ => none
  | fuel + 1, cs =>
    (readNode? fuel cs).bind fun (item, r) =>
      match skip r with
      | ',' :: r => (readItems? fuel r).map fun (items, r) => (item :: items, r)
      | ']' :: r => some ([item], r)
      | _ => none

/-- Takes the members of an object and the brace behind them. -/
def readMembers? : Nat → List Char → Option (List (Option String × Node) × List Char)
  | 0, _ => none
  | fuel + 1, cs =>
    match skip cs with
    | '"' :: r =>
      (readString? r).bind fun (key, r) =>
        match skip r with
        | ':' :: r =>
          (readNode? fuel r).bind fun (item, r) =>
            match skip r with
            | ',' :: r => (readMembers? fuel r).map fun (members, r) => ((key, item) :: members, r)
            | '}' :: r => some ([(key, item)], r)
            | _ => none
        | _ => none
    | _ => none

end

/-- Reads a whole text. -/
def read? (text : String) : Option Node :=
  let cs := text.toList
  match readNode? (2 * cs.length + 2) cs with
  | some (node, r) => if (skip r).isEmpty then some node else none
  | none => none

end Node

end CatalogLint.Json
