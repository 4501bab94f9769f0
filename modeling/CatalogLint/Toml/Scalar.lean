/-
# Numbers of a configuration

An integer is decimal with an optional sign, or hexadecimal, octal or binary without one, and fits
64 bits with sign.  A float has a fraction or an exponent, or is an infinity or no number.  A single
underscore may stand between two digits, and only zero itself starts with a zero.  A float beyond the
doubles is refused above and is minus infinity below.
-/
import CatalogLint.Number.Double
import CatalogLint.Number.Integer

namespace CatalogLint.Toml

open CatalogLint.Number

/-! ## 1. Digits -/

/-- Takes further digits, each behind an underscore or not. -/
def digitTail (isDigit : Char → Bool) : List Char → List Char × List Char
  | [] => ([], [])
  | '_' :: c :: r =>
    if isDigit c then
      let (ds, r) := digitTail isDigit r
      (c :: ds, r)
    else ([], '_' :: c :: r)
  | c :: r =>
    if isDigit c then
      let (ds, r) := digitTail isDigit r
      (c :: ds, r)
    else ([], c :: r)

/-- Takes digits, at least one. -/
def digits? (isDigit : Char → Bool) : List Char → Option (List Char × List Char)
  | c :: r =>
    if isDigit c then
      let (ds, r) := digitTail isDigit r
      some (c :: ds, r)
    else none
  | [] => none

/-- Takes a sign, if there is one, and tells whether it is a minus sign. -/
def sign : List Char → Bool × List Char
  | '-' :: r => (true, r)
  | '+' :: r => (false, r)
  | r => (false, r)

/-- Takes the digits of a whole number, which start with a zero only if that is all. -/
def whole? : List Char → Option (List Char × List Char)
  | '0' :: r => some (['0'], r)
  | r => digits? Char.isDigit r

/-! ## 2. Integers -/

/-- Takes digits of a base and gives their value, if it fits. -/
def based? (base : Nat) (cs : List Char) : Option (Int × List Char) :=
  let isDigit c := (Hex.digit? c).any fun d => d < base
  (digits? isDigit cs).bind fun (ds, r) =>
    let n : Int := ds.foldl (fun n c => base * n + (Hex.digit? c).getD 0) 0
    if fitsSigned n then some (n, r) else none

/-- Takes an integer. -/
def integer? (cs : List Char) : Option (Int × List Char) :=
  match cs with
  | '0' :: 'x' :: r => based? 16 r
  | '0' :: 'o' :: r => based? 8 r
  | '0' :: 'b' :: r => based? 2 r
  | cs =>
    let (negative, r) := sign cs
    (whole? r).bind fun (ds, r) =>
      let n : Int := if negative then -(digitsValue ds : Int) else digitsValue ds
      if fitsSigned n then some (n, r) else none

/-! ## 3. Floats -/

/-- Takes an exponent. -/
def exponent? : List Char → Option (Int × List Char)
  | c :: r =>
    if c = 'e' ∨ c = 'E' then
      let (negative, r) := sign r
      (digits? Char.isDigit r).map fun (ds, r) =>
        (if negative then -(digitsValue ds : Int) else digitsValue ds, r)
    else none
  | [] => none

/-- Takes a fraction and the exponent that may follow, or an exponent alone. -/
def scale? (cs : List Char) : Option (List Char × Int × List Char) :=
  match cs with
  | '.' :: r =>
    (digits? Char.isDigit r).map fun (ds, r) =>
      match exponent? r with
      | some (e, r) => (ds, e, r)
      | none => (ds, 0, r)
  | cs => (exponent? cs).map fun (e, r) => ([], e, r)

/-- The words for what is no finite number, behind their sign. -/
def special? (negative : Bool) : List Char → Option (Double × List Char)
  | 'i' :: 'n' :: 'f' :: r => some (.infinite negative, r)
  | 'n' :: 'a' :: 'n' :: r => some (.nan, r)
  | _ => none

/-- Takes a float. -/
def float? (cs : List Char) : Option (Double × List Char) :=
  let (negative, r) := sign cs
  match special? negative r with
  | some x => some x
  | none =>
    (whole? r).bind fun (ds, r) => (scale? r).bind fun (fs, e, r) =>
      let d := Double.ofDecimal negative (digitsValue (ds ++ fs)) (e - fs.length)
      if d = .infinite false then none else some (d, r)

end CatalogLint.Toml
