/-
# Checking structured comments

A validator knows a vocabulary of placeholder names and how much it checks.  The full profile checks,
in this order, the shape of the comment, its members, its description, its placeholders, its
screenshot and the length of the values; the legacy profile leaves out other members, screenshot and
length.  The first fault found is the verdict.
-/
import CatalogLint.Comment.Basic
import CatalogLint.Source.Basic
import CatalogLint.Text.Cluster
import CatalogLint.Url.Basic

namespace CatalogLint.Comment

open Json

/-! ## 1. Vocabulary -/

/-- The members that a comment may have. -/
def allowedKeys : List String := ["description", "placeholders", "img", "max_character_count"]

/-- The placeholder names of the legacy check. -/
def shortPlaceholders : List String :=
  ["number", "date", "time", "money", "company_name", "formatting", "fully_translated_sentence",
    "person_name", "currency_code", "event_name", "email_address"]

/-- The placeholder names of the full check, unless a configuration gives others. -/
def defaultPlaceholders : List String :=
  ["number", "date", "time", "money", "company_name", "formatting", "fully_translated_sentence",
    "person_name", "currency_code", "event_name", "email_address", "tariff_code", "tracking_code",
    "token", "sku", "month", "day"]

/-! ## 2. Faults

The `identifier` of a fault is the name under which a configuration sets its severity, and does not
depend on what the fault carries; its `reason` completes a sentence about the string. -/

/-- A fault of a structured comment. -/
inductive Fault
  /-- The comment is no object of JSON, or a known member has the wrong shape. -/
  | invalidJson
  /-- A member is not allowed. -/
  | unknownKey (key : String)
  /-- The description is missing. -/
  | missingDescription
  /-- The description is empty. -/
  | emptyDescription
  /-- Placeholder names are not in the vocabulary: the names, ascending, each once. -/
  | unknownPlaceholders (names : List String)
  /-- The number of placeholders differs from that of the string. -/
  | placeholderCount
  /-- The address of the screenshot is missing. -/
  | missingScreenshot
  /-- The address of the screenshot is none. -/
  | invalidScreenshot
  /-- A value is longer than the comment allows. -/
  | tooLong
  deriving DecidableEq, Repr

namespace Fault

/-- The name of a kind of fault. -/
def identifier : Fault → String
  | invalidJson => "invalidJSON"
  | unknownKey _ => "invalidJSONKey"
  | missingDescription => "missingDescription"
  | emptyDescription => "emptyDescription"
  | unknownPlaceholders _ => "containsInvalidPlaceholders"
  | placeholderCount => "placeholderCountsDontMatch"
  | missingScreenshot => "missingScreenshotURL"
  | invalidScreenshot => "invalidScreenshotURL"
  | tooLong => "maxCharacterCountExceeded"

/-- What a fault says about the string. -/
def reason : Fault → String
  | invalidJson => "is not valid JSON"
  | unknownKey key => "the key " ++ key ++ " is not allowed in this structured comment"
  | missingDescription => "is missing the `description`"
  | emptyDescription => "has an empty `description`"
  | unknownPlaceholders names =>
    "contains invalid placeholders: \"" ++ "\", \"".intercalate names ++ "\""
  | placeholderCount => "number of placeholders don't match"
  | missingScreenshot => "screenshot URL for this localized string is missing"
  | invalidScreenshot => "screenshot URL for this localized string is invalid"
  | tooLong => "the string is longer than the max character count allowed"

end Fault

/-! ## 3. Profiles -/

/-- How much is checked. -/
inductive Profile
  /-- Everything. -/
  | full
  /-- Description and placeholders. -/
  | legacy
  deriving DecidableEq, Repr

/-- The name of a profile. -/
def Profile.name : Profile → String
  | full => "full"
  | legacy => "legacy"

/-- What comments are checked against. -/
structure Validator where
  /-- The allowed names of placeholders. -/
  vocabulary : List String := defaultPlaceholders
  /-- How much is checked. -/
  profile : Profile := .full

namespace Validator

/-- The legacy check. -/
def legacy : Validator := { vocabulary := shortPlaceholders, profile := .legacy }

/-! ## 4. Single checks -/

/-- The least member that is not allowed. -/
def checkKeys (members : Table Value) : Option Fault :=
  (members.find? fun m => !allowedKeys.contains m.1).map fun m => .unknownKey m.1

/-- A description must be there and not empty. -/
def checkDescription (c : Comment) : Option Fault :=
  match c.description with
  | none => some .missingDescription
  | some text => if text = "" then some .emptyDescription else none

/-- The names of placeholders that are not in the vocabulary. -/
def unknownNames (vocabulary names : List String) : List String :=
  Table.distinct (names.filter fun name => !vocabulary.contains name)

/-- Placeholders must be in the vocabulary, and as many as the string has. -/
def checkPlaceholders (vocabulary : List String) (c : Comment) (r : Record) : Option Fault :=
  let names := c.placeholders.getD []
  let unknown := unknownNames vocabulary names
  if !unknown.isEmpty then some (.unknownPlaceholders unknown)
  else if names.length ≠ r.placeholderCount then some .placeholderCount
  else none

/-- A screenshot must have a valid address. -/
def checkScreenshot (c : Comment) : Option Fault :=
  match c.screenshot with
  | none => some .missingScreenshot
  | some address => if Url.isUrl address then none else some .invalidScreenshot

/-- No value is longer than the comment allows. -/
def checkLength (c : Comment) (r : Record) : Option Fault :=
  match c.greatestLength with
  | none => none
  | some greatest =>
    if r.values.any fun v => greatest < Number.toSigned (Text.clusterCount v) then some .tooLong
    else none

/-! ## 5. Verdict -/

/-- The first fault of a comment whose members and parts are known. -/
def check (v : Validator) (members : Table Value) (c : Comment) (r : Record) : Option Fault :=
  match v.profile with
  | .full =>
    (checkKeys members).orElse fun _ => (checkDescription c).orElse fun _ =>
      (checkPlaceholders v.vocabulary c r).orElse fun _ => (checkScreenshot c).orElse fun _ =>
        checkLength c r
  | .legacy =>
    (checkDescription c).orElse fun _ => checkPlaceholders v.vocabulary c r

/-- The verdict on the comment of a record: its first fault, if it has one. -/
def validate (v : Validator) (r : Record) : Option Fault :=
  match members? r.comment with
  | none => some .invalidJson
  | some members =>
    match ofMembers? members with
    | none => some .invalidJson
    | some c => v.check members c r

end Validator

end CatalogLint.Comment
