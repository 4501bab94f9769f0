/-
# Dates and times of a configuration

A datetime is a date, a time of day, or both, and with both possibly an offset.  `read?` takes one
from the front of a text: letters may be small, a blank may stand for the `T`, and digits behind the
ninth of a fraction are dropped.  `print` writes it in one way: with a `T`, fractions without zeros
at their end, and a zero offset as `+00:00` unless it was written `Z`.
-/
import CatalogLint.Number.Integer

namespace CatalogLint.Toml

open CatalogLint.Number

/-- A day of the calendar. -/
structure Date where
  /-- Year. -/
  year : Nat
  /-- Month, from one. -/
  month : Nat
  /-- Day of the month, from one. -/
  day : Nat
  deriving DecidableEq, Repr

/-- A time of day. -/
structure Time where
  /-- Hour. -/
  hour : Nat
  /-- Minute. -/
  minute : Nat
  /-- Second, up to sixty. -/
  second : Nat
  /-- Billionths of a second. -/
  nanosecond : Nat
  deriving DecidableEq, Repr

/-- A distance from universal time. -/
inductive Offset
  /-- None, written `Z`. -/
  | utc
  /-- Minutes, ahead or behind. -/
  | minutes (n : Int)
  deriving DecidableEq, Repr

/-- A date, a time, or both. -/
structure Datetime where
  /-- The date. -/
  date : Option Date
  /-- The time of day. -/
  time : Option Time
  /-- The offset of a date with a time. -/
  offset : Option Offset
  deriving DecidableEq, Repr

/-! ## 1. Reading -/

/-- Takes exactly `n` digits. -/
def readDigits? (n : Nat) (cs : List Char) : Option (Nat × List Char) :=
  let digits := cs.take n
  if digits.length = n ∧ digits.all Char.isDigit then some (digitsValue digits, cs.drop n) else none

/-- Takes the given character. -/
def readChar? (c : Char) : List Char → Option (List Char)
  | d :: r => if d = c then some r else none
  | [] => none

/-- The number of days of a month. -/
def daysIn (year month : Nat) : Nat :=
  match month with
  | 2 => if year % 4 = 0 ∧ (year % 100 ≠ 0 ∨ year % 400 = 0) then 29 else 28
  | 4 | 6 | 9 | 11 => 30
  | _ => 31

/-- Takes a date. -/
def Date.read? (cs : List Char) : Option (Date × List Char) := do
  let (year, r) ← readDigits? 4 cs
  let (month, r) ← readDigits? 2 (← readChar? '-' r)
  let (day, r) ← readDigits? 2 (← readChar? '-' r)
  if 1 ≤ month ∧ month ≤ 12 ∧ 1 ≤ day ∧ day ≤ daysIn year month then some (⟨year, month, day⟩, r)
  else none

/-- Takes a fraction of a second, if there is one. -/
def readNanoseconds : List Char → Nat × List Char
  | '.' :: r =>
    let digits := r.takeWhile Char.isDigit
    if digits.isEmpty then (0, '.' :: r)
    else (digitsValue ((digits ++ List.replicate 9 '0').take 9), r.dropWhile Char.isDigit)
  | r => (0, r)

/-- Takes a time of day. -/
def Time.read? (cs : List Char) : Option (Time × List Char) := do
  let (hour, r) ← readDigits? 2 cs
  let (minute, r) ← readDigits? 2 (← readChar? ':' r)
  let (second, r) ← readDigits? 2 (← readChar? ':' r)
  if hour ≤ 23 ∧ minute ≤ 59 ∧ second ≤ 60 then
    let (nanosecond, r) := readNanoseconds r
    some (⟨hour, minute, second, nanosecond⟩, r)
  else none

/-- Takes hours and minutes of an offset. -/
def readMinutes? (cs : List Char) : Option (Nat × List Char) := do
  let (hour, r) ← readDigits? 2 cs
  let (minute, r) ← readDigits? 2 (← readChar? ':' r)
  if hour ≤ 23 ∧ minute ≤ 59 then some (60 * hour + minute, r) else none

/-- Takes an offset, if there is one. -/
def Offset.read (cs : List Char) : Option Offset × List Char :=
  match cs with
  | 'Z' :: r => (some .utc, r)
  | 'z' :: r => (some .utc, r)
  | '+' :: r =>
    match readMinutes? r with
    | some (n, r) => (some (.minutes n), r)
    | none => (none, cs)
  | '-' :: r =>
    match readMinutes? r with
    | some (n, r) => (some (.minutes (-n)), r)
    | none => (none, cs)
  | _ => (none, cs)

/-- Takes the time of day that may follow a date, with its offset. -/
def readTimeOfDate (cs : List Char) : Option Time × Option Offset × List Char :=
  match cs with
  | c :: r =>
    if c = 'T' ∨ c = 't' ∨ c = ' ' then
      match Time.read? r with
      | some (time, r) =>
        let (offset, r) := Offset.read r
        (some time, offset, r)
      | none => (none, none, cs)
    else (none, none, cs)
  | [] => (none, none, cs)

/-- Takes a datetime from the front of a text. -/
def Datetime.read? (cs : List Char) : Option (Datetime × List Char) :=
  match Date.read? cs with
  | some (date, r) =>
    let (time, offset, r) := readTimeOfDate r
    some (⟨some date, time, offset⟩, r)
  | none => (Time.read? cs).map fun (time, r) => (⟨none, some time, none⟩, r)

/-- Reads a whole text as a datetime. -/
def Datetime.ofText? (text : String) : Option Datetime :=
  match Datetime.read? text.toList with
  | some (d, []) => some d
  | _ => none

/-! ## 2. Writing -/

/-- A number with zeros in front up to `width` digits. -/
def fill (width n : Nat) : List Char :=
  List.replicate (width - (decimal n).length) '0' ++ decimal n

/-- A date. -/
def Date.chars (d : Date) : List Char :=
  fill 4 d.year ++ '-' :: fill 2 d.month ++ '-' :: fill 2 d.day

/-- A time of day. -/
def Time.chars (t : Time) : List Char :=
  fill 2 t.hour ++ ':' :: fill 2 t.minute ++ ':' :: fill 2 t.second ++
    if t.nanosecond = 0 then []
    else '.' :: ((fill 9 t.nanosecond).reverse.dropWhile (· == '0')).reverse

/-- An offset. -/
def Offset.chars : Offset → List Char
  | utc => ['Z']
  | minutes n =>
    (if n < 0 then '-' else '+') :: fill 2 (n.natAbs / 60) ++ ':' :: fill 2 (n.natAbs % 60)

/-- The text of a datetime. -/
def Datetime.print (d : Datetime) : String :=
  let between := if d.date.isSome && d.time.isSome then ['T'] else []
  String.ofList ((d.date.map Date.chars).getD [] ++ between ++ (d.time.map Time.chars).getD [] ++
    (d.offset.map Offset.chars).getD [])

end CatalogLint.Toml
