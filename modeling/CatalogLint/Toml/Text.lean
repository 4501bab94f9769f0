/-
# Strings and keys of a configuration

A string stands between double or single quotes, on one line or, between three of them, on several.
Between double quotes a backslash starts an escape.  Each reader takes the rest of a string behind
its opening quotes and gives the characters that the string holds.  A key is a word of ASCII letters,
digits, hyphens and underscores or a string on one line, and a path is keys joined by dots.
-/
import CatalogLint.Number.Integer

namespace CatalogLint.Toml

/-! ## 1. Characters -/

/-- Whether a character is a blank of a line. -/
def isSpace (c : Char) : Bool := c == ' ' || c == '\t'

/-- Drops the blanks in front. -/
def skip (cs : List Char) : List Char := cs.dropWhile isSpace

/-- Whether a character may stand in comments and strings: all but the controls, of which a tab
may. -/
def isText (c : Char) : Bool := c == '\t' || (0x20 ≤ c.toNat && c.toNat != 0x7F)

/-- Takes the end of a line. -/
def newline? : List Char → Option (List Char)
  | '\n' :: r => some r
  | '\r' :: '\n' :: r => some r
  | _ => none

/-- The character that a run of hexadecimal digits names, if it names one. -/
def scalar? (digits : List Char) : Option Char :=
  (Hex.value? digits).bind fun n =>
    if n < 0xD800 ∨ (0xE000 ≤ n ∧ n < 0x110000) then some (Char.ofNat n) else none

/-- What a one-letter escape stands for. -/
def escape? : Char → Option Char
  | 'b' => some '\x08'
  | 'f' => some '\x0c'
  | 'n' => some '\n'
  | 'r' => some '\r'
  | 't' => some '\t'
  | '"' => some '"'
  | '\\' => some '\\'
  | _ => none

/-! ## 2. Strings -/

/-- Puts a character in front of what a reader took. -/
def prepend (c : Char) (x : Option (List Char × List Char)) : Option (List Char × List Char) :=
  x.map fun (cs, r) => (c :: cs, r)

/-- Takes the rest of a string between double quotes. -/
def basic? : List Char → Option (List Char × List Char)
  | [] => none
  | '"' :: r => some ([], r)
  | '\\' :: 'u' :: a :: b :: c :: d :: r =>
    (scalar? [a, b, c, d]).bind fun x => prepend x (basic? r)
  | '\\' :: 'U' :: a :: b :: c :: d :: e :: f :: g :: h :: r =>
    (scalar? [a, b, c, d, e, f, g, h]).bind fun x => prepend x (basic? r)
  | '\\' :: e :: r => (escape? e).bind fun x => prepend x (basic? r)
  | c :: r => if isText c && c != '\\' then prepend c (basic? r) else none

/-- Takes the rest of a string between single quotes. -/
def literal? : List Char → Option (List Char × List Char)
  | [] => none
  | '\'' :: r => some ([], r)
  | c :: r => if isText c then prepend c (literal? r) else none

/-- Whether a line ends behind its blanks. -/
def lineEnds (cs : List Char) : Bool := (newline? (skip cs)).isSome

/-- Takes the rest of a string between three double quotes.  Blanks and line ends are dropped while
`joining`, which a backslash at the end of a line starts.  One or two quotes may stand before the
closing ones. -/
def basicLines? (joining : Bool) : List Char → Option (List Char × List Char)
  | [] => none
  | '"' :: '"' :: '"' :: '"' :: '"' :: r => some (['"', '"'], r)
  | '"' :: '"' :: '"' :: '"' :: r => some (['"'], r)
  | '"' :: '"' :: '"' :: r => some ([], r)
  | '\r' :: '\n' :: r => if joining then basicLines? true r else prepend '\n' (basicLines? false r)
  | '\\' :: 'u' :: a :: b :: c :: d :: r =>
    (scalar? [a, b, c, d]).bind fun x => prepend x (basicLines? false r)
  | '\\' :: 'U' :: a :: b :: c :: d :: e :: f :: g :: h :: r =>
    (scalar? [a, b, c, d, e, f, g, h]).bind fun x => prepend x (basicLines? false r)
  | '\\' :: e :: r =>
    if lineEnds (e :: r) then
      if e == '\r' then basicLines? true (e :: r) else basicLines? true r
    else (escape? e).bind fun x => prepend x (basicLines? false r)
  | c :: r =>
    if joining && (isSpace c || c == '\n') then basicLines? true r
    else if c == '\n' || (isText c && c != '\\') then prepend c (basicLines? false r)
    else none

/-- Takes the rest of a string between three single quotes. -/
def literalLines? : List Char → Option (List Char × List Char)
  | [] => none
  | '\'' :: '\'' :: '\'' :: '\'' :: '\'' :: r => some (['\'', '\''], r)
  | '\'' :: '\'' :: '\'' :: '\'' :: r => some (['\''], r)
  | '\'' :: '\'' :: '\'' :: r => some ([], r)
  | '\r' :: '\n' :: r => prepend '\n' (literalLines? r)
  | c :: r => if c == '\n' || isText c then prepend c (literalLines? r) else none

/-- Drops the line end that may follow opening quotes. -/
def skipLineEnd (cs : List Char) : List Char := (newline? cs).getD cs

/-- Takes a string of any form. -/
def string? : List Char → Option (List Char × List Char)
  | '"' :: '"' :: '"' :: r => basicLines? false (skipLineEnd r)
  | '"' :: r => basic? r
  | '\'' :: '\'' :: '\'' :: r => literalLines? (skipLineEnd r)
  | '\'' :: r => literal? r
  | _ => none

/-! ## 3. Keys -/

/-- Whether a character may stand in a key without quotes. -/
def isBare (c : Char) : Bool := c.isAlphanum || c == '-' || c == '_'

/-- Takes one key. -/
def key? (cs : List Char) : Option (String × List Char) :=
  match cs with
  | '"' :: r => (basic? r).map fun (k, r) => (String.ofList k, r)
  | '\'' :: r => (literal? r).map fun (k, r) => (String.ofList k, r)
  | cs =>
    let k := cs.takeWhile isBare
    if k.isEmpty then none else some (String.ofList k, cs.dropWhile isBare)

/-- Takes keys joined by dots, with blanks around each. -/
def path? : Nat → List Char → Option (List String × List Char)
  | 0, _ => none
  | limit + 1, cs =>
    (key? (skip cs)).bind fun (k, r) =>
      match skip r with
      | '.' :: r => (path? limit r).map fun (ks, r) => (k :: ks, r)
      | r => some ([k], r)

/-- The greatest number of keys in a path. -/
def longestPath : Nat := 79

end CatalogLint.Toml
