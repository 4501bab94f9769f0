/-
# Configurations

A configuration names a preset and has a block of options for some rules.  Options are read one by
one and with patience: one that is missing or has another shape than expected is ignored, so that a
bad option never hurts a good one.  Only a document is refused as a whole, for one of the causes of
`ConfigError`.
-/
import CatalogLint.Logged

namespace CatalogLint

/-- The options of a rule. -/
structure RuleBlock where
  /-- The options, by key. -/
  options : Table Toml.Value := []

/-- What a user has configured. -/
structure Config where
  /-- Name of the preset. -/
  preset : Option String := none
  /-- The blocks of options, by rule identifier. -/
  rules : Table RuleBlock := []

/-! ## 1. Options -/

namespace RuleBlock

/-- A block of the given options, of which a later one replaces an earlier one. -/
def ofOptions (options : List (String × Toml.Value)) : RuleBlock := ⟨Table.ofEntries options⟩

/-- The option of a key. -/
def option? (b : RuleBlock) (key : String) : Option Toml.Value := Table.get? b.options key

/-- A truth value, or the default. -/
def boolean (b : RuleBlock) (key : String) (default : Bool) : Logged Bool :=
  match b.option? key with
  | none => pure default
  | some (.boolean x) => pure x
  | some other => do
    Logged.log (.ignoredOption .boolean key other)
    return default

/-- A string. -/
def text? (b : RuleBlock) (key : String) : Logged (Option String) :=
  match b.option? key with
  | none => pure none
  | some (.string s) => pure (some s)
  | some other => do
    Logged.log (.ignoredOption .string key other)
    return none

/-- The strings of a list; its other items are left out. -/
def texts? (b : RuleBlock) (key : String) : Logged (Option (List String)) :=
  match b.option? key with
  | none => pure none
  | some (.array items) => pure (some (items.filterMap Toml.Value.text?))
  | some other => do
    Logged.log (.ignoredOption .array key other)
    return none

/-- The strings of a table, by key; its other entries are left out. -/
def textTable? (b : RuleBlock) (key : String) : Logged (Option (Table String)) :=
  match b.option? key with
  | none => pure none
  | some (.table entries) =>
    pure (some (entries.filterMap fun (k, v) => v.text?.map fun s => (k, s)))
  | some other => do
    Logged.log (.ignoredOption .table key other)
    return none

end RuleBlock

namespace Config

/-- The block of a rule. -/
def rule? (c : Config) (rule : String) : Option RuleBlock := Table.get? c.rules rule

/-- Whether a rule is switched on, which it is unless its block says no. -/
def isEnabled (c : Config) (rule : String) : Logged Bool :=
  match c.rule? rule with
  | none => pure true
  | some block => block.boolean "enabled" true

end Config

/-! ## 2. Documents -/

/-- Why a text is no configuration. -/
inductive ConfigError
  /-- The text is no document. -/
  | notDocument
  /-- The preset is no string. -/
  | presetNotText
  /-- The rules are no table. -/
  | rulesNotTable
  /-- The block of a rule is no table. -/
  | blockNotTable (rule : String)
  /-- An option of a rule is marked as a datetime and is none. -/
  | badDatetime (rule : String)
  deriving DecidableEq, Repr

namespace Config

/-- Reads the block of a rule.  A datetime is taken for the table that marks it. -/
def block (rule : String) : Toml.Item → Except ConfigError RuleBlock
  | .table _ entries =>
    match Toml.Entries.values? entries with
    | some options => .ok (.ofOptions options)
    | none => .error (.badDatetime rule)
  | .datetime d => .ok (.ofOptions [(Toml.datetimeKey, .string d.print)])
  | _ => .error (.blockNotTable rule)

/-- Reads the preset of a document. -/
def presetOf (entries : Toml.Entries) : Except ConfigError (Option String) :=
  match Toml.Entries.get? entries "preset" with
  | none => .ok none
  | some (.string name) => .ok (some name)
  | some _ => .error .presetNotText

/-- Reads the rules of a document. -/
def rulesOf (entries : Toml.Entries) : Except ConfigError (Table RuleBlock) :=
  match Toml.Entries.get? entries "rules" with
  | none => .ok []
  | some (.table _ blocks) =>
    (blocks.mapM fun (rule, item) => (block rule item).map fun b => (rule, b)).map Table.ofEntries
  | some _ => .error .rulesNotTable

/-- Reads the text of a configuration. -/
def parse (text : String) : Except ConfigError Config := do
  match Toml.document? text with
  | none => .error .notDocument
  | some entries => return { preset := ← presetOf entries, rules := ← rulesOf entries }

end Config

end CatalogLint
