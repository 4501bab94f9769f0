/-
# The text of a configuration value

A value is written on one line, a table between braces.  In a table the entries come in three
groups, each by key: those that hold no table, lists that hold tables, and tables.  A string takes the
first form that shows it without escapes: double quotes, single quotes, three double quotes, three
single quotes; if none does, double quotes with escapes, three of them if it has several lines.
-/
import CatalogLint.Number.Shortest
import CatalogLint.Toml.Value

namespace CatalogLint.Toml

/-! ## 1. Strings -/

/-- The length of the longest run of a character. -/
def longestRun (c : Char) (cs : List Char) : Nat :=
  (cs.foldl (fun (best, run) d => if d = c then (max best (run + 1), run + 1) else (best, 0))
    (0, 0)).1

/-- Whether a character can be written by an escape only. -/
def isControl (c : Char) : Bool := !isText c && c != '\n'

/-- Escapes for a string between double quotes.  After `quotes` quotes in a row a further one is
escaped, which starts the count again; on several lines a line end is not escaped. -/
def escaped (quotes run : Nat) (lines : Bool) : List Char → List Char
  | [] => []
  | c :: cs =>
    let rest := escaped quotes 0 lines cs
    match c with
    | '"' =>
      if run < quotes then '"' :: escaped quotes (run + 1) lines cs else '\\' :: '"' :: rest
    | '\x08' => '\\' :: 'b' :: rest
    | '\t' => '\\' :: 't' :: rest
    | '\n' => if lines then '\n' :: rest else '\\' :: 'n' :: rest
    | '\x0c' => '\\' :: 'f' :: rest
    | '\r' => '\\' :: 'r' :: rest
    | '\\' => '\\' :: '\\' :: rest
    | c =>
      if isControl c then
        '\\' :: 'u' :: (Hex.padded 4 c.toNat).map Char.toUpper ++ rest
      else c :: rest

/-- A string on one line between double quotes. -/
def basicChars (cs : List Char) : List Char := '"' :: escaped 0 0 false cs ++ ['"']

/-- A string between three double quotes; several lines start on a line of their own. -/
def basicLinesChars (cs : List Char) : List Char :=
  ['"', '"', '"'] ++ (if '\n' ∈ cs then ['\n'] else []) ++ escaped 2 0 true cs ++ ['"', '"', '"']

/-- A string on one line between single quotes. -/
def literalChars (cs : List Char) : List Char := '\'' :: cs ++ ['\'']

/-- A string between three single quotes; several lines start on a line of their own. -/
def literalLinesChars (cs : List Char) : List Char :=
  ['\'', '\'', '\''] ++ (if '\n' ∈ cs then ['\n'] else []) ++ cs ++ ['\'', '\'', '\'']

/-- The text of a string. -/
def stringChars (cs : List Char) : List Char :=
  let control := cs.any isControl
  let lines := cs.contains '\n'
  let backslash := cs.contains '\\'
  if !control && !backslash && !cs.contains '"' && !lines then basicChars cs
  else if !control && !cs.contains '\'' && !lines then literalChars cs
  else if !control && !backslash && longestRun '"' cs ≤ 2 then basicLinesChars cs
  else if !control && longestRun '\'' cs ≤ 2 then literalLinesChars cs
  else if lines then basicLinesChars cs
  else basicChars cs

/-- The text of a key. -/
def keyChars (cs : List Char) : List Char :=
  let control := cs.any fun c => !isText c
  if !cs.isEmpty && cs.all isBare then cs
  else if !control && !cs.contains '\\' && !cs.contains '"' then basicChars cs
  else if !control && !cs.contains '\'' then literalChars cs
  else basicChars cs

/-! ## 2. Values -/

/-- The text of a float; a whole number has a zero behind the point. -/
def floatChars : Double → List Char
  | .finite negative m e =>
    let (digits, scale) := Double.shortest m e
    let text := (Double.positional digits scale).toList
    (if negative then ['-'] else []) ++ text ++ if '.' ∈ text then [] else ['.', '0']
  | .infinite negative => (if negative then ['-'] else []) ++ ['i', 'n', 'f']
  | .nan => ['n', 'a', 'n']

/-- The group in which an entry of a table is written. -/
def Value.group (v : Value) : Nat :=
  if v.isTable then 2 else if v.holdsTable then 1 else 0

/-- The written entries of a table in the order of their groups. -/
def byGroup (entries : List (Nat × List Char)) : List (List Char) :=
  [0, 1, 2].flatMap fun g => (entries.filter fun e => e.1 == g).map Prod.snd

mutual

/-- The characters of a value. -/
def Value.chars : Value → List Char
  | .string s => stringChars s.toList
  | .integer n => Number.signed n
  | .float d => floatChars d
  | .boolean b => if b then ['t', 'r', 'u', 'e'] else ['f', 'a', 'l', 's', 'e']
  | .datetime d => d.print.toList
  | .array items => '[' :: [',', ' '].intercalate (Value.itemChars items) ++ [']']
  | .table entries =>
    match byGroup (Value.entryChars entries) with
    | [] => ['{', '}']
    | es => ['{', ' '] ++ [',', ' '].intercalate es ++ [' ', '}']

/-- The characters of each item of a list. -/
def Value.itemChars : List Value → List (List Char)
  | [] => []
  | item :: items => Value.chars item :: Value.itemChars items

/-- The group and the characters of each entry of a table. -/
def Value.entryChars : List (String × Value) → List (Nat × List Char)
  | [] => []
  | (key, v) :: entries =>
    (Value.group v, keyChars key.toList ++ [' ', '=', ' '] ++ Value.chars v) ::
      Value.entryChars entries

end

/-- The text of a value. -/
def Value.print (v : Value) : String := String.ofList v.chars

end CatalogLint.Toml
