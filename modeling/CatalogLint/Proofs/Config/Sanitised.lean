/-
# Malformed options are absent options

Options are read one by one, each in its own way, and what does not fit is ignored where it stands: an
option, an entry of a table, an item of a list, the name of a severity.  So a configuration can be
cleaned up before it is used, and nobody sees the difference.

* `RuleBlock.Shape` is what an option is expected to hold, and `Shape.keep?` what is left of a value
  when all that does not fit is removed.  `Config.recognised` gives every rule the options that it
  looks at, with their shapes.
* `Config.sanitised` is the configuration that is cleaned up: of the preset a name that is known, of
  each rule the options that it looks at, and of these what is left.  Nothing else is in it
  (`Config.option?_sanitised`).
* Whoever reads an option reads the same of what is left (`Shape.Keeps`), so a rule is built alike, and
  a run reports the same (`lint_sanitised`).
-/
import CatalogLint.Proofs.Run.Detection

namespace CatalogLint

/-! ## 1. Tables that are rebuilt -/

namespace Table

variable {α β : Type} {t : Table α} {key : String}

theorem get?_eq_none_iff : get? t key = none ↔ ∀ e ∈ t, e.1 ≠ key := by
  rw [get?, Option.map_eq_none_iff, List.find?_eq_none]
  simp only [beq_iff_eq, ne_eq]

/-- The keys of a table, each with what a function gives for it. -/
def rebuild (t : Table α) (f : String → α → Option β) : Table β :=
  t.filterMap fun e => (f e.1 e.2).map fun b => (e.1, b)

theorem get?_rebuild (h : Sorted t) (f : String → α → Option β) (key : String) :
    get? (rebuild t f) key = (get? t key).bind (f key) := by
  induction t with
  | nil => rfl
  | cons e t ih =>
    obtain ⟨hlt, hsorted⟩ := List.pairwise_cons.1 h
    have hrest := ih hsorted
    rw [rebuild] at hrest ⊢
    rw [List.filterMap_cons, get?_cons]
    by_cases hkey : e.1 = key
    · subst hkey
      rw [if_pos rfl, Option.bind_some]
      cases hf : f e.1 e.2 with
      | some b => rw [Option.map_some, get?_cons, if_pos rfl]
      | none =>
        -- the key does not come again behind its place
        have hnone : get? t e.1 = none :=
          get?_eq_none_iff.2 fun e' he' heq => String.lt_irrefl e.1 (heq ▸ hlt e' he')
        rw [Option.map_none, hrest, hnone, Option.bind_none]
    · rw [if_neg hkey, ← hrest]
      cases f e.1 e.2 with
      | some b => rw [Option.map_some, get?_cons, if_neg hkey]
      | none => rfl

end Table

/-! ## 2. Kinds of violations -/

namespace Comment.Fault

/-- The names of all kinds of faults.  What a fault carries does not matter. -/
def kinds : List String :=
  [invalidJson, unknownKey "", missingDescription, emptyDescription, unknownPlaceholders [],
    placeholderCount, missingScreenshot, invalidScreenshot, tooLong].map identifier

theorem mem_kinds_iff {kind : String} : kind ∈ kinds ↔ ∃ f : Fault, f.identifier = kind := by
  constructor
  · intro h
    obtain ⟨f, -, hf⟩ := List.mem_map.1 h
    exact ⟨f, hf⟩
  · rintro ⟨f, rfl⟩
    cases f <;> simp [identifier, kinds]

end Comment.Fault

namespace Rule.Finding

/-- The names of all kinds of findings. -/
def kinds : List String := [unused "", referenced, missingOwner].map identifier

theorem mem_kinds_iff {kind : String} : kind ∈ kinds ↔ ∃ f : Finding, f.identifier = kind := by
  constructor
  · intro h
    obtain ⟨f, -, hf⟩ := List.mem_map.1 h
    exact ⟨f, hf⟩
  · rintro ⟨f, rfl⟩
    cases f <;> simp [identifier, kinds]

end Rule.Finding

/-! ## 3. Shapes -/

namespace Toml.Value

/-- The severity that a string names. -/
def severity? (v : Value) : Option Severity := v.text?.bind fun name => (Severity.parse name).toOption

/-- The severities that the entries of a table name. -/
def severities (entries : Table Value) : Table Severity :=
  entries.filterMap fun e => e.2.severity?.map fun s => (e.1, s)

/-- The severity that a table names for a kind. -/
def severityFor? (kind : String) : Value → Option Severity
  | table entries => Table.get? (severities entries) kind
  | _ => none

/-- The strings of a list, if there is one. -/
def names? (v : Value) : Option (List String) := v.texts?.filter fun names => !names.isEmpty

theorem get?_severities_cons (e : String × Value) (entries : Table Value) (kind : String) :
    Table.get? (severities (e :: entries)) kind =
      (if e.1 = kind then e.2.severity? else none).or (Table.get? (severities entries) kind) := by
  rw [severities, List.filterMap_cons]
  cases e.2.severity? with
  | none => rw [ite_self]; rfl
  | some s =>
    rw [Option.map_some, Table.get?_cons]
    split <;> rfl

end Toml.Value

namespace RuleBlock

open Toml (Value)

/-- What an option is expected to hold. -/
inductive Shape
  /-- A truth value. -/
  | switch
  /-- A string. -/
  | text
  /-- A string that names a severity. -/
  | severity
  /-- A table of strings that name severities, by kind of violation. -/
  | severities (kinds : List String)
  /-- A list of strings. -/
  | texts
  /-- A list of strings that is not empty. -/
  | vocabulary
  deriving DecidableEq, Repr

namespace Shape

variable {α : Type} {entries : Table Value} {kinds : List String} {kind : String}

/-- Whether an entry of a table sets the severity of one of the given kinds. -/
def sets (kinds : List String) (e : String × Value) : Bool :=
  kinds.contains e.1 && e.2.severity?.isSome

/-- What is left of an option when all that does not fit is removed. -/
def keep? : Shape → Value → Option Value
  | switch, .boolean b => some (.boolean b)
  | text, .string s => some (.string s)
  | severity, v => if v.severity?.isSome then some v else none
  | severities kinds, .table entries => some (.table (entries.filter (sets kinds)))
  | texts, .array items => some (.array (items.filter fun v => v.text?.isSome))
  | vocabulary, .array items =>
    let names := items.filter fun v => v.text?.isSome
    if names.isEmpty then none else some (.array names)
  | _, _ => none

/-- A reading of an option gets the same from what is left of it. -/
def Keeps (shape : Shape) (read : Value → Option α) : Prop :=
  ∀ v, (shape.keep? v).bind read = read v

theorem keeps_switch : switch.Keeps Value.boolean? := fun v => by cases v <;> rfl

theorem keeps_text : text.Keeps Value.text? := fun v => by cases v <;> rfl

theorem keeps_severity : severity.Keeps Value.severity? := by
  intro v
  rw [keep?]
  cases hv : v.severity? with
  | none => rfl
  | some s => exact hv

/-- Entries that set no severity of the kinds are not missed when one of these is looked up. -/
theorem get?_severities_filter (hkind : kind ∈ kinds) (entries : Table Value) :
    Table.get? (Value.severities (entries.filter (sets kinds))) kind =
      Table.get? (Value.severities entries) kind := by
  induction entries with
  | nil => rfl
  | cons e entries ih =>
    rw [Value.get?_severities_cons, ← ih, List.filter_cons]
    split
    · exact Value.get?_severities_cons ..
    · next hsets =>
      have hnone : (if e.1 = kind then e.2.severity? else none) = none := by
        split
        · next hkey =>
          rw [sets, hkey, List.contains_iff_mem.2 hkind, Bool.true_and] at hsets
          exact Option.not_isSome_iff_eq_none.1 hsets
        · rfl
      rw [hnone, Option.none_or]

theorem keeps_severities (hkind : kind ∈ kinds) :
    (severities kinds).Keeps (Value.severityFor? kind) := by
  intro v
  cases v with
  | table entries => exact get?_severities_filter hkind entries
  | _ => rfl

theorem filterMap_text?_filter (items : List Value) :
    (items.filter fun v => v.text?.isSome).filterMap Value.text? = items.filterMap Value.text? := by
  rw [List.filterMap_filter]
  refine List.filterMap_congr fun v _ => ?_
  cases v.text? <;> rfl

theorem keeps_texts : texts.Keeps Value.texts? := by
  intro v
  cases v with
  | array items => exact congrArg some (filterMap_text?_filter items)
  | _ => rfl

theorem keeps_vocabulary : vocabulary.Keeps Value.names? := by
  intro v
  cases v with
  | array items =>
    have hnames := filterMap_text?_filter items
    rw [Value.names?, Value.texts?, ← hnames, keep?]
    cases items.filter fun v => v.text?.isSome with
    | nil => rfl
    | cons name names => rfl
  | _ => rfl

end Shape

/-- The options of a block that have a shape, cleaned up. -/
def sanitised (b : RuleBlock) (shapes : Table Shape) : RuleBlock where
  options := Table.rebuild shapes fun key shape => (b.option? key).bind shape.keep?

theorem option?_sanitised {shapes : Table Shape} (h : shapes.Sorted) (b : RuleBlock) (key : String) :
    (b.sanitised shapes).option? key =
      (Table.get? shapes key).bind fun shape => (b.option? key).bind shape.keep? := by
  rw [option?, sanitised, Table.get?_rebuild h]

end RuleBlock

/-! ## 4. Configurations that are cleaned up -/

theorem Preset.value_resolve (c : Config) :
    (resolve c).value = (c.preset.bind ofName?).getD recommended := by
  unfold resolve
  cases c.preset with
  | none => rfl
  | some name =>
    simp only [Option.bind_some]
    cases ofName? name <;> rfl

theorem SeverityMap.named_textTable? (entries : Table Toml.Value) :
    named ((Toml.Value.textTable? (.table entries)).getD []) = Toml.Value.severities entries := by
  rw [Toml.Value.textTable?, Option.getD_some, named, List.filterMap_filterMap]
  refine List.filterMap_congr fun e _ => ?_
  obtain ⟨kind, v⟩ := e
  simp only [Toml.Value.severity?]
  cases v.text? <;> rfl

theorem SeverityMap.default_ofBlock (block : Option RuleBlock) (default : Severity) :
    (ofBlock block default).value.default =
      ((block.bind fun b => b.option? "severity").bind Toml.Value.severity?).getD default := by
  rw [value_ofBlock_default, Option.bind_assoc]
  rfl

theorem SeverityMap.resolve_ofBlock (block : Option RuleBlock) (default : Severity) (kind : String) :
    (ofBlock block default).value.resolve kind =
      ((block.bind fun b => b.option? "severity_map").bind (Toml.Value.severityFor? kind)).getD
        (ofBlock block default).value.default := by
  rw [resolve]
  congr 1
  rw [value_ofBlock_default]
  cases block.bind fun b => b.option? "severity_map" with
  | none => rfl
  | some v =>
    cases v with
    | table entries => exact congrArg (Table.get? · kind) (named_textTable? entries)
    | _ => rfl

namespace Config

open RuleBlock (Shape)
open Toml (Value)

variable {α : Type} {c : Config} {rule key kind : String} {shape : Shape} {kinds : List String}

/-- The options that a rule looks at, with their shapes, rule by rule. -/
def recognised : Table (Table Shape) :=
  [(Comment.Profile.full.rule,
      [("enabled", .switch), ("help_link", .text), ("severity", .severity),
        ("severity_map", .severities Comment.Fault.kinds), ("valid_placeholders", .vocabulary)]),
    (Comment.Profile.legacy.rule,
      [("enabled", .switch), ("severity", .severity),
        ("severity_map", .severities Comment.Fault.kinds)]),
    (CrossReference.identifier,
      [("enabled", .switch), ("help_link", .text), ("ignored", .texts), ("severity", .severity),
        ("severity_map", .severities Rule.Finding.kinds), ("work_in_progress", .texts)])]

/-- The shape of an option of a rule, if the rule looks at it. -/
def shape? (rule key : String) : Option Shape :=
  (Table.get? recognised rule).bind fun shapes => Table.get? shapes key

/-- The configuration without all that does not fit. -/
def sanitised (c : Config) : Config where
  preset := c.preset.filter fun name => (Preset.ofName? name).isSome
  rules := Table.rebuild recognised fun rule shapes =>
    (c.rule? rule).map fun b => b.sanitised shapes

/-- **What is left under a key**: nothing if the rule does not look at the option, else what fits its
shape. -/
theorem option?_sanitised (c : Config) (rule key : String) :
    c.sanitised.option? rule key =
      (shape? rule key).bind fun shape => (c.option? rule key).bind shape.keep? := by
  have hsorted : Table.Sorted recognised ∧ ∀ e ∈ recognised, Table.Sorted e.2 := by
    unfold Table.Sorted
    decide
  rw [option?, Config.rule?, sanitised, Table.get?_rebuild hsorted.1, shape?]
  cases hshapes : Table.get? recognised rule with
  | none => rfl
  | some shapes =>
    rw [Option.bind_some, Option.bind_some, option?]
    cases c.rule? rule with
    | none => cases Table.get? shapes key <;> rfl
    | some b => exact b.option?_sanitised (hsorted.2 _ (Table.mem_of_get? hshapes)) key

/-- Of a block in which hardly anything fits, one severity stays. -/
example : (⟨[("enabled", .integer 0), ("ignored", .array [.string "a"]), ("severity", .string "loud"),
      ("severity_map", .table [("invalidJSON", .string " Error "),
        ("missingDescription", .boolean true), ("missingOwner", .string "none")]),
      ("valid_placeholders", .array [.integer 1])]⟩ : RuleBlock).sanitised
        ((Table.get? recognised "json_comment_rule").getD []) =
      ⟨[("severity_map", .table [("invalidJSON", .string " Error ")])]⟩ := by
  rfl

theorem read?_sanitised {read : Value → Option α} (hshape : shape? rule key = some shape)
    (hkeeps : shape.Keeps read) (c : Config) :
    c.sanitised.read? read rule key = c.read? read rule key := by
  rw [read?, read?, option?_sanitised, hshape]
  cases c.option? rule key with
  | none => rfl
  | some v => exact hkeeps v

/-! ### What the rules read -/

theorem vocabulary_eq (c : Config) :
    c.vocabulary =
      (c.read? Value.names? Comment.Profile.full.rule "valid_placeholders").getD
        Comment.defaultPlaceholders := by
  unfold vocabulary read?
  cases c.option? Comment.Profile.full.rule "valid_placeholders" with
  | none => rfl
  | some v =>
    rw [Option.bind_some, Option.bind_some, Value.names?]
    rcases v.texts? with _ | _ | ⟨name, names⟩ <;> rfl

theorem default_severities (c : Config) (rule : String) :
    (c.severities rule).default = (c.read? Value.severity? rule "severity").getD .warning := by
  rw [← SeverityMap.value_ofBlock]
  exact SeverityMap.default_ofBlock (c.rule? rule) .warning

theorem resolve_severities (c : Config) (rule kind : String) :
    (c.severities rule).resolve kind =
      (c.read? (Value.severityFor? kind) rule "severity_map").getD (c.severities rule).default := by
  rw [← SeverityMap.value_ofBlock]
  exact SeverityMap.resolve_ofBlock (c.rule? rule) .warning kind

/-! ### The same of what is left -/

theorem bind_ofName?_sanitised (c : Config) :
    c.sanitised.preset.bind Preset.ofName? = c.preset.bind Preset.ofName? := by
  rw [sanitised]
  cases c.preset with
  | none => rfl
  | some name =>
    rw [Option.filter_some]
    split
    · rfl
    · next hname => exact (Option.not_isSome_iff_eq_none.1 hname).symm

theorem detectsLike_sanitised (c : Config) : c.sanitised.DetectsLike c where
  preset := by rw [Preset.value_resolve, Preset.value_resolve, bind_ofName?_sanitised]
  enabled := by
    intro rule hrule
    have hshape : ∀ rule ∈ Preset.all.identifiers, shape? rule "enabled" = some .switch := by decide
    rw [value_isEnabled, value_isEnabled, read?_sanitised (hshape rule hrule) Shape.keeps_switch]
  vocabulary := by
    rw [vocabulary_eq, vocabulary_eq, read?_sanitised (by decide) Shape.keeps_vocabulary]
  ignored := read?_sanitised (by decide) Shape.keeps_texts c
  inProgress := read?_sanitised (by decide) Shape.keeps_texts c

/-- A rule reports a violation of one of its kinds in the same way. -/
theorem reported_sanitised (c : Config) (hseverity : shape? rule "severity" = some .severity)
    (hseverities : shape? rule "severity_map" = some (.severities kinds))
    (hlink : rule ≠ Comment.Profile.legacy.rule → shape? rule "help_link" = some .text)
    (hkind : kind ∈ kinds) (name : String) (location : Location) (reason : String) :
    c.sanitised.reported rule name kind location reason =
      c.reported rule name kind location reason := by
  have hdefault : (c.sanitised.severities rule).default = (c.severities rule).default := by
    rw [default_severities, default_severities, read?_sanitised hseverity Shape.keeps_severity]
  have hresolve : (c.sanitised.severities rule).resolve kind = (c.severities rule).resolve kind := by
    rw [resolve_severities, resolve_severities, hdefault,
      read?_sanitised hseverities (Shape.keeps_severities hkind)]
  have hhelp : c.sanitised.link? rule = c.link? rule := by
    rw [link?, link?]
    split
    · rfl
    · next hne => exact read?_sanitised (hlink hne) Shape.keeps_text c
  rw [reported, reported, severityOf, severityOf, hdefault, hresolve, hhelp]

end Config

/-- **A malformed option is the same as an absent one**: a run reports the same when all that does not
fit is removed from the configuration. -/
theorem lint_sanitised (config : Config) (c : Collaborators) (files : List SourceFile) :
    (lint files config.sanitised c).value = (lint files config c).value := by
  have hfound : config.sanitised.found c files = config.found c files := by
    refine config.detectsLike_sanitised.found_eq (.refl c) (fun profile r fault => ?_)
      (fun finding location => ?_) files
    · have hkind := Comment.Fault.mem_kinds_iff.2 ⟨fault, rfl⟩
      cases profile with
      | full =>
        exact config.reported_sanitised (by decide) (by decide) (fun _ => by decide) hkind _ _ _
      | legacy =>
        exact config.reported_sanitised (by decide) (by decide) (fun h => absurd rfl h) hkind _ _ _
    · have hkind := Rule.Finding.mem_kinds_iff.2 ⟨finding, rfl⟩
      exact config.reported_sanitised (by decide) (by decide) (fun _ => by decide) hkind _ _ _
  rw [value_lint_found, value_lint_found, hfound]

end CatalogLint
