/-
# What a rule takes from its options

A rule is built from a configuration by reading options one after the other, and every reading may be
logged.  Without the log, a rule is a function of the values of its options, each on its own: this
module writes that function down.

* `Config.option?` is the value of one option of one rule, and `Config.read?` what it holds if it has
  the expected shape.  A rule without a block has no options.
* A severity map is made of two options (`SeverityMap.value_ofBlock`), the full check of comments of
  four (`CommentCheck.value_full`), the legacy check of one (`CommentCheck.value_legacy`), the cross
  reference of five (`CrossReference.value_ofConfig`).
* So a rule is the same under two configurations that agree on its options (`ofConfig_congr`), and
  `enabled` is not one of those that it reads: neither another preset nor a rule that is switched on
  or off changes what a rule is made of (`agreeOn_preset`, `agreeOn_switch`).
-/
import CatalogLint.Rule.CommentCheck
import CatalogLint.Rule.CrossReference

namespace CatalogLint

/-! ## 1. Options and their values -/

namespace Toml.Value

/-- The truth value of a switch. -/
def boolean? : Value → Option Bool
  | boolean b => some b
  | _ => none

/-- The strings of a list; its other items are left out. -/
def texts? : Value → Option (List String)
  | array items => some (items.filterMap text?)
  | _ => none

/-- The strings of a table, by key; its other entries are left out. -/
def textTable? : Value → Option (Table String)
  | table entries => some (entries.filterMap fun (k, v) => v.text?.map fun s => (k, s))
  | _ => none

end Toml.Value

namespace RuleBlock

theorem value_boolean (b : RuleBlock) (key : String) (default : Bool) :
    (b.boolean key default).value = ((b.option? key).bind Toml.Value.boolean?).getD default := by
  unfold boolean
  cases b.option? key with
  | none => rfl
  | some v => cases v <;> rfl

theorem value_text? (b : RuleBlock) (key : String) :
    (b.text? key).value = (b.option? key).bind Toml.Value.text? := by
  unfold text?
  cases b.option? key with
  | none => rfl
  | some v => cases v <;> rfl

theorem value_texts? (b : RuleBlock) (key : String) :
    (b.texts? key).value = (b.option? key).bind Toml.Value.texts? := by
  unfold texts?
  cases b.option? key with
  | none => rfl
  | some v => cases v <;> rfl

theorem value_textTable? (b : RuleBlock) (key : String) :
    (b.textTable? key).value = (b.option? key).bind Toml.Value.textTable? := by
  unfold textTable?
  cases b.option? key with
  | none => rfl
  | some v => cases v <;> rfl

end RuleBlock

namespace Config

/-- The value of an option of a rule. -/
def option? (c : Config) (rule key : String) : Option Toml.Value :=
  (c.rule? rule).bind fun b => b.option? key

/-- What an option of a rule holds, if it has the expected shape. -/
def read? {α : Type} (c : Config) (shape : Toml.Value → Option α) (rule key : String) : Option α :=
  (c.option? rule key).bind shape

theorem value_isEnabled (c : Config) (rule : String) :
    (c.isEnabled rule).value = (c.read? Toml.Value.boolean? rule "enabled").getD true := by
  unfold isEnabled read? option?
  cases c.rule? rule with
  | none => rfl
  | some b => exact b.value_boolean "enabled" true

end Config

/-! ## 2. Severities -/

namespace SeverityMap

theorem value_read? (key name : String) :
    (read? key name).value = (Severity.parse name).toOption := by
  unfold read?
  cases Severity.parse name <;> rfl

/-- The entries of a table that name a severity. -/
def named (entries : Table String) : Table Severity :=
  entries.filterMap fun (kind, name) => (Severity.parse name).toOption.map fun s => (kind, s)

theorem value_readEntries (entries : Table String) :
    (readEntries entries).value = named entries := by
  induction entries with
  | nil => rfl
  | cons e entries ih =>
    obtain ⟨kind, name⟩ := e
    simp only [readEntries, Logged.value_bind, Logged.value_pure, value_read?, ih, named,
      List.filterMap_cons]
    cases (Severity.parse name).toOption <;> rfl

end SeverityMap

namespace Config

/-- The severities of a rule by its options. -/
def severities (c : Config) (rule : String) : SeverityMap where
  default := ((c.read? Toml.Value.text? rule "severity").bind fun name =>
    (Severity.parse name).toOption).getD .warning
  overrides := SeverityMap.named ((c.read? Toml.Value.textTable? rule "severity_map").getD [])

end Config

/-- The severities of a block by its options, with a default. -/
theorem SeverityMap.value_ofBlock_default (block : Option RuleBlock) (default : Severity) :
    (ofBlock block default).value =
      { default := (((block.bind fun b => b.option? "severity").bind Toml.Value.text?).bind
          fun name => (Severity.parse name).toOption).getD default
        overrides := named (((block.bind fun b => b.option? "severity_map").bind
          Toml.Value.textTable?).getD []) } := by
  unfold ofBlock
  cases block with
  | none => rfl
  | some b =>
    simp only [Logged.value_bind, Logged.value_pure, readDefault, RuleBlock.value_text?,
      RuleBlock.value_textTable?, value_readEntries, Option.bind_some]
    cases (b.option? "severity").bind Toml.Value.text? with
    | none => rfl
    | some name => simp only [Logged.value_bind, Logged.value_pure, value_read?, Option.bind_some]

theorem SeverityMap.value_ofBlock (c : Config) (rule : String) :
    (ofBlock (c.rule? rule) .warning).value = c.severities rule :=
  value_ofBlock_default (c.rule? rule) .warning

/-! ## 3. Rules -/

namespace Config

/-- The vocabulary of placeholder names: the strings that are configured, or the default one where
there is none. -/
def vocabulary (c : Config) : List String :=
  match c.read? Toml.Value.texts? Comment.Profile.full.rule "valid_placeholders" with
  | some (name :: names) => name :: names
  | _ => Comment.defaultPlaceholders

end Config

namespace CommentCheck

theorem value_full (c : Config) (s : Source) :
    (full c s).value =
      { declarations := s
        validator := { vocabulary := c.vocabulary }
        severities := c.severities Comment.Profile.full.rule
        helpLink := c.read? Toml.Value.text? Comment.Profile.full.rule "help_link" } := by
  have hsev := SeverityMap.value_ofBlock c Comment.Profile.full.rule
  unfold full
  rw [Logged.value_bind, hsev]
  unfold Config.vocabulary Config.read? Config.option?
  cases c.rule? Comment.Profile.full.rule with
  | none => rfl
  | some b =>
    simp only [Logged.value_bind, Logged.value_pure, RuleBlock.value_text?, RuleBlock.value_texts?,
      Option.bind_some]
    rcases (b.option? "valid_placeholders").bind Toml.Value.texts? with _ | _ | ⟨name, names⟩
    · rfl
    · rfl
    · rfl

theorem value_legacy (c : Config) (s : Source) :
    (legacy c s).value =
      { declarations := s
        validator := .legacy
        severities := { default := (c.severities Comment.Profile.legacy.rule).default } } := by
  unfold legacy
  rw [Logged.value_bind, SeverityMap.value_ofBlock, Logged.value_pure]

/-- A check judges the declarations that it is given. -/
theorem declarations_ofConfig (c : Config) (s : Source) (profile : Comment.Profile) :
    (ofConfig c s profile).value.declarations = s := by
  cases profile with
  | full => rw [ofConfig, value_full]
  | legacy => rw [ofConfig, value_legacy]

end CommentCheck

theorem CrossReference.value_ofConfig (c : Config) (declarations usages : Source)
    (ignoreFiles : IgnoreReader) :
    (ofConfig c declarations usages ignoreFiles).value =
      { declarations, usages, ignoreFiles
        ignored := (c.read? Toml.Value.texts? identifier "ignored").getD []
        inProgress := (c.read? Toml.Value.texts? identifier "work_in_progress").getD []
        severities := c.severities identifier
        helpLink := c.read? Toml.Value.text? identifier "help_link" } := by
  have hsev := SeverityMap.value_ofBlock c identifier
  unfold ofConfig
  rw [Logged.value_bind, hsev]
  unfold Config.read? Config.option?
  cases c.rule? identifier with
  | none => rfl
  | some b =>
    simp only [Logged.value_bind, Logged.value_pure, RuleBlock.value_text?, RuleBlock.value_texts?,
      Option.bind_some]

/-! ## 4. Configurations that agree on a rule -/

/-- Two configurations agree on what a rule reads: on all its options but the one that switches it
on. -/
def Config.AgreeOn (rule : String) (c d : Config) : Prop :=
  ∀ key, key ≠ "enabled" → c.option? rule key = d.option? rule key

namespace Config.AgreeOn

variable {rule : String} {c d : Config}

theorem read? {α : Type} (h : AgreeOn rule c d) (shape : Toml.Value → Option α) {key : String}
    (hkey : key ≠ "enabled") : c.read? shape rule key = d.read? shape rule key := by
  rw [Config.read?, Config.read?, h key hkey]

theorem severities (h : AgreeOn rule c d) : c.severities rule = d.severities rule := by
  rw [Config.severities, Config.severities, h.read? _ (by decide), h.read? _ (by decide)]

end Config.AgreeOn

/-- Another preset changes nothing that a rule reads. -/
theorem Config.agreeOn_preset (c : Config) (rule : String) (preset : Option String) :
    AgreeOn rule c { c with preset } := fun _ _ => rfl

/-- The configuration with a rule switched on or off. -/
def Config.switch (c : Config) (rule : String) (on : Bool) : Config :=
  let options := ((c.rule? rule).getD {}).options
  { c with rules := Table.insert rule ⟨Table.insert "enabled" (.boolean on) options⟩ c.rules }

theorem Config.value_isEnabled_switch (c : Config) (rule : String) (on : Bool) :
    ((c.switch rule on).isEnabled rule).value = on := by
  simp only [isEnabled, rule?, switch, Table.get?_insert_self, RuleBlock.boolean,
    RuleBlock.option?]
  rfl

/-- Switching a rule on or off changes nothing that any rule reads. -/
theorem Config.agreeOn_switch (c : Config) (rule other : String) (on : Bool) :
    AgreeOn rule c (c.switch other on) := by
  intro key hkey
  by_cases hrule : rule = other
  · subst hrule
    have hswitch : (c.switch rule on).option? rule key =
        Table.get? ((c.rule? rule).getD {}).options key := by
      rw [option?, Config.rule?, switch, Table.get?_insert_self, Option.bind_some,
        RuleBlock.option?, Table.get?_insert_of_ne hkey]
    rw [hswitch, option?]
    cases c.rule? rule with
    | none => rfl
    | some b => rfl
  · rw [option?, option?, Config.rule?, Config.rule?, switch, Table.get?_insert_of_ne hrule]

/-- The check of comments is the same under configurations that agree on it. -/
theorem CommentCheck.ofConfig_congr {c d : Config} (profile : Comment.Profile)
    (h : Config.AgreeOn profile.rule c d) (s : Source) :
    (ofConfig c s profile).value = (ofConfig d s profile).value := by
  cases profile with
  | full =>
    have hvocabulary : c.vocabulary = d.vocabulary := by
      rw [Config.vocabulary, Config.vocabulary, h.read? _ (by decide)]
    rw [ofConfig, ofConfig, value_full, value_full, hvocabulary, h.severities,
      h.read? _ (by decide)]
  | legacy =>
    rw [ofConfig, ofConfig, value_legacy, value_legacy, h.severities]

/-- The cross reference is the same under configurations that agree on it. -/
theorem CrossReference.ofConfig_congr {c d : Config} (h : Config.AgreeOn identifier c d)
    (declarations usages : Source) (ignoreFiles : IgnoreReader) :
    (ofConfig c declarations usages ignoreFiles).value =
      (ofConfig d declarations usages ignoreFiles).value := by
  rw [value_ofConfig, value_ofConfig, h.severities, h.read? _ (by decide), h.read? _ (by decide),
    h.read? _ (by decide)]

end CatalogLint
