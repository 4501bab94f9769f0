/-
# Configuration texts as statements

A text is a sequence of statements, one a line: a table starts, an element of a list of tables
starts, or a path is given a value.  `statements?` reads them without asking whether they fit
together.  Values are read as they are written: an inline table is its pairs of path and value.
-/
import CatalogLint.Toml.Datetime
import CatalogLint.Toml.Scalar
import CatalogLint.Toml.Text

namespace CatalogLint.Toml

/-- A value as it is written. -/
inductive Expr
  /-- A string. -/
  | string (s : String)
  /-- An integer. -/
  | integer (n : Int)
  /-- A float. -/
  | float (d : Double)
  /-- A truth value. -/
  | boolean (b : Bool)
  /-- A date, a time, or both. -/
  | datetime (d : Datetime)
  /-- A list. -/
  | array (items : List Expr)
  /-- A table on one line, by pairs of path and value. -/
  | inline (pairs : List (List String × Expr))
  deriving Repr

/-- One statement of a text. -/
inductive Statement
  /-- Starts the table of a path. -/
  | table (path : List String)
  /-- Starts a further element of the list of tables of a path. -/
  | element (path : List String)
  /-- Gives a path in the current table a value. -/
  | assign (path : List String) (value : Expr)
  deriving Repr

/-! ## 1. Between values -/

/-- Drops a comment, if there is one; it ends before the end of its line. -/
def skipComment : List Char → List Char
  | '#' :: r => r.dropWhile isText
  | r => r

/-- Takes the rest of a line: blanks, a comment, and its end or that of the text. -/
def lineEnd? (cs : List Char) : Option (List Char) :=
  match skipComment (skip cs) with
  | [] => some []
  | r => newline? r

/-- Drops blanks, comments and line ends between the items of a list.  Nothing is dropped behind a
comment that does not end its line. -/
def skipLines : Nat → List Char → List Char
  | 0, cs => cs
  | fuel + 1, cs =>
    match skip cs with
    | '#' :: r =>
      match newline? (skipComment ('#' :: r)) with
      | some r => skipLines fuel r
      | none => '#' :: r
    | r =>
      match newline? r with
      | some r => skipLines fuel r
      | none => r

/-! ## 2. Values -/

/-- Whether a character starts a number or a datetime. -/
def startsNumber (c : Char) : Bool := c == '+' || c == '-' || c.isDigit

/-- Takes a value that is neither a list nor a table. -/
def scalarExpr? (cs : List Char) : Option (Expr × List Char) :=
  match cs with
  | 't' :: 'r' :: 'u' :: 'e' :: r => some (.boolean true, r)
  | 'f' :: 'a' :: 'l' :: 's' :: 'e' :: r => some (.boolean false, r)
  | c :: r =>
    if c = '"' ∨ c = '\'' then
      (string? (c :: r)).map fun (s, r) => (.string (String.ofList s), r)
    else if startsNumber c then
      match Datetime.read? (c :: r) with
      | some (d, r) => some (.datetime d, r)
      | none =>
        match float? (c :: r) with
        | some (d, r) => some (.float d, r)
        | none => (integer? (c :: r)).map fun (n, r) => (.integer n, r)
    else (special? false (c :: r)).map fun (d, r) => (.float d, r)
  | [] => none

/-- How deep lists and inline tables may be nested. -/
def deepest : Nat := 79

mutual

/-- Takes a value that may be nested `depth` levels.  The fuel bounds the steps; every second step
takes a character. -/
def expr? (depth : Nat) : Nat → List Char → Option (Expr × List Char)
  | 0, _ => none
  | fuel + 1, cs =>
    match cs with
    | '[' :: r =>
      match depth with
      | 0 => none
      | depth + 1 => (items? depth fuel r).map fun (items, r) => (.array items, r)
    | '{' :: r =>
      match depth with
      | 0 => none
      | depth + 1 =>
        match skip r with
        | '}' :: r => some (.inline [], r)
        | r => (pairs? depth fuel r).map fun (pairs, r) => (.inline pairs, r)
    | cs => scalarExpr? cs

/-- Takes the items of a list and the bracket behind them. -/
def items? (depth : Nat) : Nat → List Char → Option (List Expr × List Char)
  | 0, _ => none
  | fuel + 1, cs =>
    match skipLines cs.length cs with
    | ']' :: r => some ([], r)
    | r =>
      (expr? depth fuel r).bind fun (item, r) =>
        match skipLines r.length r with
        | ',' :: r => (items? depth fuel r).map fun (items, r) => (item :: items, r)
        | ']' :: r => some ([item], r)
        | _ => none

/-- Takes the pairs of an inline table and the brace behind them. -/
def pairs? (depth : Nat) : Nat → List Char → Option (List (List String × Expr) × List Char)
  | 0, _ => none
  | fuel + 1, cs =>
    (path? longestPath cs).bind fun (path, r) =>
      match r with
      | '=' :: r =>
        (expr? depth fuel (skip r)).bind fun (item, r) =>
          match skip r with
          | ',' :: r => (pairs? depth fuel r).map fun (pairs, r) => ((path, item) :: pairs, r)
          | '}' :: r => some ([(path, item)], r)
          | _ => none
      | _ => none

end

/-! ## 3. Statements -/

/-- Takes the statement at the front of a line, without the rest of the line. -/
def statement? (cs : List Char) : Option (Statement × List Char) :=
  match cs with
  | '[' :: '[' :: r =>
    match path? longestPath r with
    | some (path, ']' :: ']' :: r) => some (.element path, r)
    | _ => none
  | '[' :: r =>
    match path? longestPath r with
    | some (path, ']' :: r) => some (.table path, r)
    | _ => none
  | cs =>
    match path? longestPath cs with
    | some (path, '=' :: r) =>
      (expr? deepest (2 * r.length + 2) (skip r)).map fun (e, r) => (.assign path e, r)
    | _ => none

/-- Takes all statements.  Every line takes at least one character, which bounds the fuel. -/
def lines? : Nat → List Char → Option (List Statement)
  | 0, _ => none
  | fuel + 1, cs =>
    match skip cs with
    | [] => some []
    | r =>
      match lineEnd? r with
      | some r => lines? fuel r
      | none =>
        (statement? r).bind fun (s, r) =>
          (lineEnd? r).bind fun r => (lines? fuel r).map (s :: ·)

/-- Drops a byte order mark. -/
def skipMark : List Char → List Char
  | '\uFEFF' :: r => r
  | r => r

/-- Reads a text as statements. -/
def statements? (text : String) : Option (List Statement) :=
  let cs := skipMark text.toList
  lines? (cs.length + 1) cs

end CatalogLint.Toml
