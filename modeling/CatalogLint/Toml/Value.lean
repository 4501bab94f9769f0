/-
# Configuration values

A value no longer tells how it was written: tables are by key in ascending order, and lists of tables
are lists.  A table whose first key is the reserved one stands for the datetime that its text gives.
-/
import CatalogLint.Table
import CatalogLint.Toml.Item

namespace CatalogLint.Toml

/-- A configuration value. -/
inductive Value
  /-- A string. -/
  | string (s : String)
  /-- An integer of 64 bits. -/
  | integer (n : Int)
  /-- A float. -/
  | float (d : Double)
  /-- A truth value. -/
  | boolean (b : Bool)
  /-- A date, a time, or both. -/
  | datetime (d : Datetime)
  /-- A list. -/
  | array (items : List Value)
  /-- A table, by key. -/
  | table (entries : List (String × Value))
  deriving Repr

/-- The key that marks a table as a datetime. -/
def datetimeKey : String := "$__toml_private_datetime"

/-- The datetime of a marked table, from the text under its first key. -/
def markedDatetime? : Entries → Option Value
  | (_, .string text) :: _ => (Datetime.ofText? text).map .datetime
  | _ => none

/-- Whether a table is marked as a datetime. -/
def isMarked : Entries → Bool
  | (key, _) :: _ => key == datetimeKey
  | [] => false

mutual

/-- The value of an item. -/
def Item.value? : Item → Option Value
  | .string s => some (.string s)
  | .integer n => some (.integer n)
  | .float d => some (.float d)
  | .boolean b => some (.boolean b)
  | .datetime d => some (.datetime d)
  | .array items => (Item.values? items).map .array
  | .table _ entries =>
    if isMarked entries then markedDatetime? entries
    else (Entries.values? entries).map fun es => .table (Table.ofEntries es)
  | .tables elements => (Item.tableValues? elements).map .array

/-- The values of the items of a list. -/
def Item.values? : List Item → Option (List Value)
  | [] => some []
  | item :: items => (Item.value? item).bind fun v => (Item.values? items).map (v :: ·)

/-- The values of the entries of a table, in order. -/
def Entries.values? : List (String × Item) → Option (List (String × Value))
  | [] => some []
  | (key, item) :: es => (Item.value? item).bind fun v => (Entries.values? es).map ((key, v) :: ·)

/-- The values of a list of tables. -/
def Item.tableValues? : List (List (String × Item)) → Option (List Value)
  | [] => some []
  | entries :: elements =>
    (if isMarked entries then markedDatetime? entries
      else (Entries.values? entries).map fun es => .table (Table.ofEntries es)).bind fun v =>
        (Item.tableValues? elements).map (v :: ·)

end

namespace Value

/-- The text of a string. -/
def text? : Value → Option String
  | string s => some s
  | _ => none

/-- Whether a value is a table. -/
def isTable : Value → Bool
  | table _ => true
  | _ => false

/-- Whether a value is a list that holds a table. -/
def holdsTable : Value → Bool
  | array items => items.any isTable
  | _ => false

end Value

end CatalogLint.Toml
