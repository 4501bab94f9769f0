/-
# Reports as JSON

A report is written as an object of its violations and the number of files read.  Reading it back is
strict about what a report has and lenient about the rest: each record has every member of its own
exactly once, in any order, members that are not its own are ignored whatever they hold, and a
record may also be a list of its members in the order in which they are written.
-/
import CatalogLint.Json.Value
import CatalogLint.Report

namespace CatalogLint

open Json

/-! ## 1. Writing -/

/-- A location as an object. -/
def Location.toJson (l : Location) : Value :=
  .object [("file", .string l.file), ("line", .ofNat l.line), ("column", .ofNat l.column)]

/-- A violation as an object. -/
def Violation.toJson (v : Violation) : Value :=
  .object [("rule_identifier", .string v.rule), ("rule_name", .string v.name),
    ("severity", .string v.severity.name), ("location", v.location.toJson),
    ("reason", .string v.reason)]

/-- A report as an object. -/
def Report.toJson (r : Report) : Value :=
  .object [("violations", .array (r.violations.map Violation.toJson)),
    ("files_checked", .ofNat r.filesChecked)]

/-! ## 2. Records -/

namespace Json.Node

/-- The one member that has the given key. -/
def member? (members : List (String × Node)) (key : String) : Option Node :=
  match members.filter fun m => m.1 == key with
  | [m] => some m.2
  | _ => none

/-- The members of a record by name, from an object that has each once or from a list that has them
in order. -/
def fields? (names : List String) : Node → Option (List Node)
  | object members =>
    (members.mapM fun (m : Option String × Node) => m.1.map fun key => (key, m.2)).bind fun named =>
      names.mapM (member? named)
  | array items => if items.length = names.length then some items else none
  | _ => none

/-- A text. -/
def text? : Node → Option String
  | string text => text
  | _ => none

/-- A natural number below `2 ^ 64`. -/
def natural? : Node → Option Nat
  | number x => match x.number? with
    | some (.natural n) => some n
    | _ => none
  | _ => none

/-- One of the given words, as a string or as the only key of an object that holds `null`. -/
def word? : Node → Option String
  | string text => text
  | object [(key, null)] => key
  | _ => none

end Json.Node

/-! ## 3. Reading -/

/-- Reads a severity by its exact name. -/
def Severity.ofNode? (node : Node) : Option Severity :=
  node.word?.bind fun word => Severity.all.find? fun s => s.name == word

/-- Reads a location. -/
def Location.ofNode? (node : Node) : Option Location :=
  match node.fields? ["file", "line", "column"] with
  | some [file, line, column] => do
    return ⟨← file.text?, ← line.natural?, ← column.natural?⟩
  | _ => none

/-- Reads a violation. -/
def Violation.ofNode? (node : Node) : Option Violation :=
  match node.fields? ["rule_identifier", "rule_name", "severity", "location", "reason"] with
  | some [rule, name, severity, location, reason] => do
    return ⟨← rule.text?, ← name.text?, ← Severity.ofNode? severity,
      ← Location.ofNode? location, ← reason.text?⟩
  | _ => none

/-- Reads a report. -/
def Report.ofNode? (node : Node) : Option Report :=
  match node.fields? ["violations", "files_checked"] with
  | some [.array items, files] => do
    return ⟨← items.mapM Violation.ofNode?, ← files.natural?⟩
  | _ => none

/-- Reads the text of a report. -/
def Report.read? (text : String) : Option Report := (Node.read? text).bind Report.ofNode?

/-- The text of a report. -/
def Report.print (r : Report) : String := r.toJson.print

end CatalogLint
