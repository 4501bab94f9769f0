/-
# Events

What a run notices aside from its report: options it ignores, files it cannot read, and how far it
has come.  An event holds what happened; its `level` and `message` are what a log shows.
-/
import CatalogLint.Location
import CatalogLint.Severity
import CatalogLint.Toml.Printer

namespace CatalogLint

/-- How loud an event is. -/
inductive Level
  /-- For who looks into a run. -/
  | debug
  /-- For who follows a run. -/
  | info
  /-- Something that should be mended. -/
  | warn
  deriving DecidableEq, Repr

/-- The name of a level. -/
def Level.name : Level → String
  | debug => "DEBUG"
  | info => "INFO"
  | warn => "WARN"

/-- The shape that an option is expected to have. -/
inductive OptionShape
  /-- A truth value. -/
  | boolean
  /-- A string. -/
  | string
  /-- A list. -/
  | array
  /-- A table. -/
  | table
  deriving DecidableEq, Repr

/-- The name of a shape. -/
def OptionShape.name : OptionShape → String
  | boolean => "boolean"
  | string => "string"
  | array => "array"
  | table => "table"

/-- Something that a run notices. -/
inductive Event
  /-- An option does not have the expected shape. -/
  | ignoredOption (shape : OptionShape) (key : String) (value : Toml.Value)
  /-- An option names no severity. -/
  | ignoredSeverity (key : String) (error : UnknownSeverity)
  /-- The configured preset does not exist. -/
  | unknownPreset (name : String)
  /-- The preset of the run. -/
  | usingPreset (name : String)
  /-- A rule is switched off. -/
  | skippedRule (rule : String)
  /-- A run starts with so many rules. -/
  | started (rules : Nat)
  /-- A file is handed to the rules. -/
  | processing (path : String)
  /-- One reader of several cannot read a file. -/
  | readerFailed (reader path : String) (error : FormatError)
  /-- A file cannot be read. -/
  | fileFailed (path : String) (error : FormatError)
  /-- An ignore file was read. -/
  | ignoreFileRead (path : String) (keys findings : Nat)
  /-- An ignore file cannot be read. -/
  | ignoreFileFailed (path : String) (error : FormatError)
  /-- A rule reported so many violations. -/
  | reported (rule : String) (violations : Nat)
  /-- A run is complete. -/
  | completed (violations files : Nat)
  deriving Repr

namespace Event

/-- How loud an event is. -/
def level : Event → Level
  | ignoredOption .. => .debug
  | ignoredSeverity .. => .debug
  | unknownPreset _ => .warn
  | usingPreset _ => .info
  | skippedRule _ => .debug
  | started _ => .info
  | processing _ => .debug
  | readerFailed .. => .warn
  | fileFailed .. => .warn
  | ignoreFileRead .. => .debug
  | ignoreFileFailed .. => .warn
  | reported .. => .debug
  | completed .. => .info

/-- The sentence of an event. -/
def message : Event → String
  | ignoredOption shape key value =>
    "Ignoring non-" ++ shape.name ++ " value for `" ++ key ++ "`: " ++ value.print
  | ignoredSeverity key error => "Ignoring severity for `" ++ key ++ "`: " ++ error.message
  | unknownPreset name =>
    "Unknown preset `" ++ name ++ "`, using recommended. Valid presets: recommended, legacy, all"
  | usingPreset name => "Using preset " ++ name
  | skippedRule rule => "Skipping disabled rule: " ++ rule
  | started rules => "Starting lint with " ++ toString rules ++ " rule(s)"
  | processing path => "Processing: " ++ path
  | readerFailed reader path error =>
    reader ++ " could not parse " ++ path ++ ": " ++ error.message
  | fileFailed path error => "Unable to parse file " ++ path ++ ": " ++ error.message
  | ignoreFileRead path keys findings =>
    path ++ ": " ++ toString keys ++ " ignored key(s), " ++ toString findings ++ " finding(s)"
  | ignoreFileFailed path error => "Unable to parse ignore file " ++ path ++ ": " ++ error.message
  | reported rule violations => rule ++ " reported " ++ toString violations ++ " violation(s)"
  | completed violations files =>
    "Lint complete: " ++ toString violations ++ " violation(s) in " ++ toString files ++ " file(s)"

/-- The line of an event in a log. -/
def line (e : Event) : String := e.level.name ++ " " ++ e.message

end Event

end CatalogLint
