/-
# Configuration documents as trees

Statements are placed in a tree one after the other, and each says which tables it makes on the way.
A table that is made only because a longer path runs through it may still be started once; a table
that dotted keys made may be extended by dotted keys only; a table on one line is closed.  A path
that runs through a list of tables means its last element.  No key is given a value twice.
-/
import CatalogLint.Toml.Statement

namespace CatalogLint.Toml

/-- How a table came to be. -/
inductive Form
  /-- A longer path runs through it. -/
  | passed
  /-- Dotted keys made it. -/
  | dotted
  /-- A statement started it. -/
  | started
  /-- It stands on one line and is closed. -/
  | closed
  deriving DecidableEq, Repr

/-- A part of a document. -/
inductive Item
  /-- A string. -/
  | string (s : String)
  /-- An integer. -/
  | integer (n : Int)
  /-- A float. -/
  | float (d : Double)
  /-- A truth value. -/
  | boolean (b : Bool)
  /-- A date, a time, or both. -/
  | datetime (d : Datetime)
  /-- A list of values. -/
  | array (items : List Item)
  /-- A table, its entries in the order in which they came. -/
  | table (form : Form) (entries : List (String × Item))
  /-- A list of started tables. -/
  | tables (elements : List (List (String × Item)))
  deriving Repr

/-- The entries of a table, in the order in which they came. -/
abbrev Entries := List (String × Item)

namespace Entries

/-! ## 1. Entries -/

/-- The item of a key. -/
def get? (es : Entries) (key : String) : Option Item := (es.find? fun e => e.1 == key).map Prod.snd

/-- The entries with another item under a key that is there. -/
def set (es : Entries) (key : String) (item : Item) : Entries :=
  es.map fun e => if e.1 == key then (key, item) else e

/-- Applies a change to the table at the end of a path.  Tables that are missing on the way are
made.  Dotted keys make tables of their own kind and never run through a table that a statement
started. -/
def change (dotted : Bool) (f : Form → Entries → Option Entries) :
    List String → Form → Entries → Option Entries
  | [], form, es => f form es
  | key :: path, _, es =>
    match get? es key with
    | none =>
      let form := if dotted then Form.dotted else .passed
      (change dotted f path form []).map fun sub => es ++ [(key, .table form sub)]
    | some (.table form sub) =>
      if form = .closed ∨ (dotted ∧ form = .started) then none
      else (change dotted f path form sub).map fun sub => set es key (.table form sub)
    | some (.tables elements) =>
      match elements.getLast? with
      | none => none
      | some last =>
        (change dotted f path .started last).map fun last =>
          set es key (.tables (elements.dropLast ++ [last]))
    | some _ => none

/-- Gives a key a value that it does not have yet.  Behind a dotted path the table must be one that
dotted keys made, and no other table takes part in a dotted path. -/
def define (dotted : Bool) (key : String) (item : Item) (form : Form) (es : Entries) :
    Option Entries :=
  if (form == .dotted) != dotted then none
  else if (get? es key).isSome then none
  else some (es ++ [(key, item)])

/-- Starts the table of a key. -/
def start (key : String) (_ : Form) (es : Entries) : Option Entries :=
  match get? es key with
  | none => some (es ++ [(key, .table .started [])])
  | some (.table .passed sub) => some (set es key (.table .started sub))
  | some _ => none

/-- Starts a further element of the list of tables of a key. -/
def extend (key : String) (_ : Form) (es : Entries) : Option Entries :=
  match get? es key with
  | none => some (es ++ [(key, .tables [[]])])
  | some (.tables elements) => some (set es key (.tables (elements ++ [[]])))
  | some _ => none

/-- Gives a path below a table of the given form a value. -/
def assign (path : List String) (item : Item) (form : Form) (es : Entries) : Option Entries :=
  match path.getLast? with
  | none => none
  | some key =>
    let way := path.dropLast
    change true (define (!way.isEmpty) key item) way form es

end Entries

/-! ## 2. Values -/

mutual

/-- The item of a value as it is written. -/
def Item.ofExpr? : Expr → Option Item
  | .string s => some (.string s)
  | .integer n => some (.integer n)
  | .float d => some (.float d)
  | .boolean b => some (.boolean b)
  | .datetime d => some (.datetime d)
  | .array items => (Item.ofExprs? items).map .array
  | .inline pairs => (Entries.ofPairs? pairs []).map (.table .closed)

/-- The items of the values of a list. -/
def Item.ofExprs? : List Expr → Option (List Item)
  | [] => some []
  | e :: es => (Item.ofExpr? e).bind fun item => (Item.ofExprs? es).map (item :: ·)

/-- Adds the pairs of a table on one line to its entries. -/
def Entries.ofPairs? : List (List String × Expr) → Entries → Option Entries
  | [], es => some es
  | (path, e) :: pairs, es =>
    (Item.ofExpr? e).bind fun item => (Entries.assign path item .closed es).bind fun es =>
      Entries.ofPairs? pairs es

end

/-! ## 3. Documents -/

/-- Places statements in a document, the first of them in the table at `current`. -/
def place? : List Statement → List String → Entries → Option Entries
  | [], _, es => some es
  | .table path :: rest, _, es =>
    match path.getLast? with
    | none => none
    | some key =>
      (Entries.change false (Entries.start key) path.dropLast .started es).bind (place? rest path)
  | .element path :: rest, _, es =>
    match path.getLast? with
    | none => none
    | some key =>
      (Entries.change false (Entries.extend key) path.dropLast .started es).bind (place? rest path)
  | .assign path e :: rest, current, es =>
    (Item.ofExpr? e).bind fun item =>
      (Entries.change false (Entries.assign path item) current .started es).bind
        (place? rest current)

/-- Reads a text as a document. -/
def document? (text : String) : Option Entries :=
  (statements? text).bind fun statements => place? statements [] []

end CatalogLint.Toml
