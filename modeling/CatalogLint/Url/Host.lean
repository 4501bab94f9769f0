/-
# Hosts of an address

In an address whose scheme is one of the web's, a host is a domain or an address of numbers; its bytes
may be escaped with percent signs.  In any other address a host is any text without the characters
that end it.  Between brackets stands an address of eight groups in both.

A host that ends in a number is an address of four numbers, of which trailing ones may be run
together, each decimal, octal behind a zero or hexadecimal behind `0x`.  A host between brackets is an
address of eight groups of hexadecimal digits, of which one run of zeros may be left out and the last
two groups may be written as four decimal numbers.
-/
import CatalogLint.Number.Integer
import CatalogLint.Url.Domain

namespace CatalogLint.Url.Address

open CatalogLint.Number

/-! ## 1. Four numbers -/

/-- Reads digits of a base. -/
def based? (base : Nat) (digits : List Char) : Option Nat :=
  if digits.all fun c => (Hex.digit? c).any fun d => d < base then
    some (digits.foldl (fun n c => base * n + (Hex.digit? c).getD 0) 0)
  else none

/-- Reads one number of an address. -/
def number? (part : List Char) : Option Nat :=
  match part with
  | [] => none
  | '0' :: 'x' :: digits => based? 16 digits
  | '0' :: 'X' :: digits => based? 16 digits
  | '0' :: c :: digits => based? 8 (c :: digits)
  | digits => based? 10 digits

/-- The parts of a host, without the empty one behind a trailing dot. -/
def parts (labels : List (List Char)) : List (List Char) :=
  if labels.getLast? == some [] then labels.dropLast else labels

/-- Whether a host ends in a number. -/
def endsInNumber (labels : List (List Char)) : Bool :=
  match (parts labels).getLast? with
  | some last => (!last.isEmpty && last.all Char.isDigit) || (number? last).isSome
  | none => false

/-- Whether a host is an address of up to four numbers.  All but the last are below 256, and the last
fits the bytes that are left. -/
def isFour (labels : List (List Char)) : Bool :=
  let parts := parts labels
  match parts.mapM number? with
  | none => false
  | some numbers =>
    match numbers.reverse with
    | [] => false
    | last :: rest => rest.length ≤ 3 && rest.all (· < 256) && last < Nat.pow 256 (4 - rest.length)

/-! ## 2. Eight groups -/

/-- Whether a text is a decimal number below 256 without leading zeros. -/
def isByte (cs : List Char) : Bool :=
  !cs.isEmpty && cs.all Char.isDigit && (cs.head? != some '0' || cs == ['0']) &&
    digitsValue cs < 256

/-- Whether a text is four decimal numbers with dots between them. -/
def isDotted (cs : List Char) : Bool :=
  let parts := cs.splitOn '.'
  parts.length == 4 && parts.all isByte

/-- Whether the rest of an address fits behind `count` groups, of which a run was left out before if
`gap`.  Every step takes a character, which bounds the fuel. -/
def groupsFit : Nat → Nat → Bool → List Char → Bool
  | 0, _, _, _ => false
  | _ + 1, count, gap, [] => gap || count == 8
  | fuel + 1, count, gap, c :: cs =>
    if count = 8 then false
    else if c = ':' then !gap && groupsFit fuel (count + 1) true cs
    else
      let digits := ((c :: cs).take 4).takeWhile fun c => (Hex.digit? c).isSome
      match (c :: cs).drop digits.length with
      | [] => !digits.isEmpty && (gap || count == 7)
      | '.' :: _ =>
        !digits.isEmpty && count ≤ 6 && isDotted (c :: cs) && (gap || count == 6)
      | ':' :: rest => !rest.isEmpty && !digits.isEmpty && groupsFit fuel (count + 1) gap rest
      | _ => false

/-- Whether a text is an address of eight groups. -/
def isEight (cs : List Char) : Bool :=
  match cs with
  | ':' :: ':' :: rest => groupsFit (rest.length + 1) 1 true rest
  | ':' :: _ => false
  | [_] => false
  | cs => groupsFit (cs.length + 1) 0 false cs

end CatalogLint.Url.Address

namespace CatalogLint.Url

/-! ## 3. Hosts -/

/-- The bytes of a text, of which some are escaped by a percent sign and two digits. -/
def bytes : List Char → List UInt8
  | [] => []
  | '%' :: a :: b :: cs =>
    match Hex.value? [a, b] with
    | some n => UInt8.ofNat n :: bytes cs
    | none => String.utf8EncodeChar '%' ++ bytes (a :: b :: cs)
  | c :: cs => String.utf8EncodeChar c ++ bytes cs

/-- A text without its escapes, if its bytes are a text. -/
def unescape? (cs : List Char) : Option (List Char) :=
  (String.fromUTF8? ⟨(bytes cs).toArray⟩).map String.toList

/-- Whether a text is an address between brackets. -/
def isBracketed (cs : List Char) : Bool :=
  match cs with
  | '[' :: rest => rest.getLast? == some ']' && Address.isEight rest.dropLast
  | _ => false

/-- Whether a text is a domain or an address of numbers. -/
def isDomain (cs : List Char) : Bool :=
  match (unescape? cs).bind Domain.labels? with
  | none => false
  | some labels =>
    labels != [[]] && (!Address.endsInNumber labels || Address.isFour labels)

/-- Whether a text is a host where the scheme is one of the web's. -/
def isWebHost (cs : List Char) : Bool :=
  if cs.head? == some '[' then isBracketed cs else isDomain cs

/-- Whether a character ends a host of any scheme. -/
def endsHost (c : Char) : Bool :=
  c ∈ ['\x00', '\t', '\n', '\r', ' ', '#', '/', ':', '<', '>', '?', '@', '[', '\\', ']', '^', '|']

/-- Whether a text is a host where the scheme is any other. -/
def isPlainHost (cs : List Char) : Bool :=
  if cs.head? == some '[' then isBracketed cs else !cs.any endsHost

end CatalogLint.Url
