/-
# Which documents are configurations

Options are read with patience, but the frame around them is not: the preset must be a string, the
rules must be a table, and every block of them must be one.  A document that breaks this is refused as
a whole, with all that is right in it; so a document may well be refused
(`parse_refuses_number_as_preset`).

* `PresetReads`, `BlockReads` and `RulesReads` say what may be written in these three places and what
  it means.  Reading is exactly this (`presetOf_eq_ok_iff`, `block_eq_ok_iff`, `rulesOf_eq_ok_iff`).
* Inside a block everything is fine, whatever its shape and however deep it lies: an item has a value
  as long as nobody uses the key that marks datetimes (`Item.exists_value`).
* `parse_exact` puts this together.
-/
import CatalogLint.Config.Basic
import CatalogLint.Proofs.List
import Mathlib

namespace CatalogLint

/-! ## 1. Values -/

namespace Toml

mutual

/-- No table in the item has the key that marks datetimes. -/
def Item.Plain : Item → Prop
  | .array items => Item.AllPlain items
  | .table _ entries => Entries.Plain entries
  | .tables elements => Item.TablesPlain elements
  | _ => True

/-- No table in the items has the key that marks datetimes. -/
def Item.AllPlain : List Item → Prop
  | [] => True
  | item :: items => item.Plain ∧ Item.AllPlain items

/-- Neither the entries nor any table in them has the key that marks datetimes. -/
def Entries.Plain : List (String × Item) → Prop
  | [] => True
  | (key, item) :: es => key ≠ datetimeKey ∧ item.Plain ∧ Entries.Plain es

/-- Neither the tables nor any table in them has the key that marks datetimes. -/
def Item.TablesPlain : List (List (String × Item)) → Prop
  | [] => True
  | entries :: elements => Entries.Plain entries ∧ Item.TablesPlain elements

end

theorem isMarked_of_plain {es : Entries} (h : Entries.Plain es) : isMarked es = false := by
  cases es with
  | nil => rfl
  | cons e es => exact beq_eq_false_iff_ne.2 h.1

mutual

/-- **Every plain item has a value.** -/
theorem Item.exists_value : ∀ item : Item, item.Plain → ∃ v, item.value? = some v
  | .string s, _ => ⟨.string s, rfl⟩
  | .integer n, _ => ⟨.integer n, rfl⟩
  | .float d, _ => ⟨.float d, rfl⟩
  | .boolean b, _ => ⟨.boolean b, rfl⟩
  | .datetime d, _ => ⟨.datetime d, rfl⟩
  | .array items, h => by
    obtain ⟨vs, hvs⟩ := Item.exists_values items h
    exact ⟨.array vs, by rw [Item.value?, hvs]; rfl⟩
  | .table form entries, h => by
    obtain ⟨es, hes⟩ := Entries.exists_values entries h
    exact ⟨.table (Table.ofEntries es), by
      rw [Item.value?, isMarked_of_plain h, hes]
      rfl⟩
  | .tables elements, h => by
    obtain ⟨vs, hvs⟩ := Item.exists_tableValues elements h
    exact ⟨.array vs, by rw [Item.value?, hvs]; rfl⟩

theorem Item.exists_values : ∀ items : List Item, Item.AllPlain items →
    ∃ vs, Item.values? items = some vs
  | [], _ => ⟨[], rfl⟩
  | item :: items, h => by
    obtain ⟨v, hv⟩ := Item.exists_value item h.1
    obtain ⟨vs, hvs⟩ := Item.exists_values items h.2
    exact ⟨v :: vs, by rw [Item.values?, hv, hvs]; rfl⟩

theorem Entries.exists_values : ∀ es : List (String × Item), Entries.Plain es →
    ∃ vs, Entries.values? es = some vs
  | [], _ => ⟨[], rfl⟩
  | (key, item) :: es, h => by
    obtain ⟨v, hv⟩ := Item.exists_value item h.2.1
    obtain ⟨vs, hvs⟩ := Entries.exists_values es h.2.2
    exact ⟨(key, v) :: vs, by rw [Entries.values?, hv, hvs]; rfl⟩

theorem Item.exists_tableValues : ∀ elements : List (List (String × Item)),
    Item.TablesPlain elements → ∃ vs, Item.tableValues? elements = some vs
  | [], _ => ⟨[], rfl⟩
  | entries :: elements, h => by
    obtain ⟨es, hes⟩ := Entries.exists_values entries h.1
    obtain ⟨vs, hvs⟩ := Item.exists_tableValues elements h.2
    exact ⟨.table (Table.ofEntries es) :: vs, by
      rw [Item.tableValues?, isMarked_of_plain h.1, hes, hvs]
      rfl⟩

end

end Toml

/-! ## 2. What may be written -/

namespace Config

open Toml (Item Entries)

/-- What the preset of a document may be, and what it means. -/
inductive PresetReads : Option Item → Option String → Prop
  /-- There is none. -/
  | absent : PresetReads none none
  /-- It is a string. -/
  | text (name : String) : PresetReads (some (.string name)) (some name)

/-- What the block of a rule may be, and what it means. -/
inductive BlockReads : Item → RuleBlock → Prop
  /-- It is a table whose items have values. -/
  | options {form : Toml.Form} {entries : Entries} {options : List (String × Toml.Value)}
      (h : Entries.values? entries = some options) :
      BlockReads (.table form entries) (.ofOptions options)
  /-- It is a datetime, which is taken for the table that marks it. -/
  | datetime (d : Toml.Datetime) :
      BlockReads (.datetime d) (.ofOptions [(Toml.datetimeKey, .string d.print)])

/-- What the rules of a document may be, and what they mean. -/
inductive RulesReads : Option Item → Table RuleBlock → Prop
  /-- There are none. -/
  | absent : RulesReads none []
  /-- They are a table of blocks. -/
  | blocks {form : Toml.Form} {entries : Entries} {blocks : List (String × RuleBlock)}
      (h : List.Forall₂ (fun e b => e.1 = b.1 ∧ BlockReads e.2 b.2) entries blocks) :
      RulesReads (some (.table form entries)) (Table.ofEntries blocks)

/-! ## 3. Reading is exact -/

theorem presetOf_eq_ok_iff {doc : Entries} {preset : Option String} :
    presetOf doc = .ok preset ↔ PresetReads (Entries.get? doc "preset") preset := by
  unfold presetOf
  constructor
  · intro h
    split at h
    · next hget => cases h; rw [hget]; exact .absent
    · next name hget => cases h; rw [hget]; exact .text name
    · cases h
  · intro h
    generalize Entries.get? doc "preset" = item at h
    cases h with
    | absent => rfl
    | text name => rfl

theorem block_eq_ok_iff {rule : String} {item : Item} {b : RuleBlock} :
    block rule item = .ok b ↔ BlockReads item b := by
  constructor
  · intro h
    unfold block at h
    split at h
    · split at h
      · next hvalues => cases h; exact .options hvalues
      · cases h
    · cases h; exact .datetime _
    · cases h
  · intro h
    cases h with
    | options hvalues => simp only [block, hvalues]
    | datetime d => rfl

/-- No block is the reason to say that there is no document. -/
theorem block_ne_notDocument (rule : String) (item : Item) :
    block rule item ≠ .error .notDocument := by
  intro h
  unfold block at h
  split at h
  · split at h <;> cases h
  · cases h
  · cases h

/-- A block under its rule. -/
theorem map_block_eq_ok_iff {e : String × Item} {b : String × RuleBlock} :
    (block e.1 e.2).map (fun b => (e.1, b)) = .ok b ↔ e.1 = b.1 ∧ BlockReads e.2 b.2 := by
  simp only [Except.map_eq_ok_iff, block_eq_ok_iff]
  constructor
  · rintro ⟨b, hb, rfl⟩
    exact ⟨rfl, hb⟩
  · rintro ⟨hrule, hb⟩
    exact ⟨b.2, hb, Prod.ext hrule rfl⟩

/-- The blocks of rules are read one by one. -/
theorem mapM_block_eq_ok_iff {entries : Entries} {blocks : List (String × RuleBlock)} :
    (entries.mapM fun (rule, item) => (block rule item).map fun b => (rule, b)) = .ok blocks ↔
      List.Forall₂ (fun e b => e.1 = b.1 ∧ BlockReads e.2 b.2) entries blocks := by
  rw [List.mapM_eq_ok_iff_forall₂]
  simp only [map_block_eq_ok_iff]

theorem rulesOf_eq_ok_iff {doc : Entries} {rules : Table RuleBlock} :
    rulesOf doc = .ok rules ↔ RulesReads (Entries.get? doc "rules") rules := by
  unfold rulesOf
  constructor
  · intro h
    split at h
    · next hget => cases h; rw [hget]; exact .absent
    · next form entries hget =>
      obtain ⟨blocks, hblocks, rfl⟩ := Except.map_eq_ok_iff.1 h
      rw [hget]
      exact .blocks (mapM_block_eq_ok_iff.1 hblocks)
    · cases h
  · intro h
    generalize Entries.get? doc "rules" = item at h
    cases h with
    | absent => rfl
    | blocks hblocks => exact Except.map_eq_ok_iff.2 ⟨_, mapM_block_eq_ok_iff.2 hblocks, rfl⟩

/-- The preset of a document is never the reason to say that there is no document. -/
theorem presetOf_ne_notDocument (doc : Entries) : presetOf doc ≠ .error .notDocument := by
  intro h
  unfold presetOf at h
  split at h <;> cases h

/-- The rules of a document are never the reason to say that there is no document. -/
theorem rulesOf_ne_notDocument (doc : Entries) : rulesOf doc ≠ .error .notDocument := by
  intro h
  unfold rulesOf at h
  split at h
  · cases h
  · obtain ⟨⟨rule, item⟩, -, hitem⟩ :=
      List.exists_of_mapM_eq_error (Except.map_eq_error_iff.1 h)
    exact block_ne_notDocument rule item (Except.map_eq_error_iff.1 hitem)
  · cases h

/-! ## 4. Texts -/

theorem parse_of_document {text : String} {doc : Entries} (h : Toml.document? text = some doc) :
    parse text = (do return { preset := ← presetOf doc, rules := ← rulesOf doc }) := by
  simp only [parse, h]

theorem parse_of_no_document {text : String} (h : Toml.document? text = none) :
    parse text = .error .notDocument := by
  simp only [parse, h]

/-- A document is read as what its preset and its rules are read as. -/
theorem parse_eq_ok_iff {text : String} {config : Config} :
    parse text = .ok config ↔ ∃ doc, Toml.document? text = some doc ∧
      presetOf doc = .ok config.preset ∧ rulesOf doc = .ok config.rules := by
  constructor
  · intro h
    cases hdoc : Toml.document? text with
    | none => rw [parse_of_no_document hdoc] at h; cases h
    | some doc =>
      rw [parse_of_document hdoc] at h
      obtain ⟨preset, hpreset, h⟩ := Except.bind_eq_ok_iff.1 h
      obtain ⟨rules, hrules, h⟩ := Except.bind_eq_ok_iff.1 h
      cases h
      exact ⟨doc, rfl, hpreset, hrules⟩
  · rintro ⟨doc, hdoc, hpreset, hrules⟩
    rw [parse_of_document hdoc, hpreset, hrules]
    rfl

/-- Only what is no document is refused as none. -/
theorem parse_eq_notDocument_iff {text : String} :
    parse text = .error .notDocument ↔ Toml.document? text = none := by
  refine ⟨fun h => ?_, parse_of_no_document⟩
  cases hdoc : Toml.document? text with
  | none => rfl
  | some doc =>
    rw [parse_of_document hdoc] at h
    rcases Except.bind_eq_error_iff.1 h with hpreset | ⟨preset, -, h⟩
    · exact absurd hpreset (presetOf_ne_notDocument doc)
    · rcases Except.bind_eq_error_iff.1 h with hrules | ⟨rules, -, h⟩
      · exact absurd hrules (rulesOf_ne_notDocument doc)
      · cases h

/-- **What is read, and what is refused.**  (i) A text is refused as no document exactly when it is
none.  (ii) It is read as a configuration exactly when it is a document whose preset and rules may be
read, and then the configuration holds what they mean.  (iii) A block may be any table in which the
key that marks datetimes is not used: no option is refused for its shape. -/
theorem parse_exact (text : String) :
    (parse text = .error .notDocument ↔ Toml.document? text = none) ∧
      (∀ config, parse text = .ok config ↔ ∃ doc, Toml.document? text = some doc ∧
        PresetReads (Entries.get? doc "preset") config.preset ∧
        RulesReads (Entries.get? doc "rules") config.rules) ∧
      ∀ form entries, Entries.Plain entries → ∃ b, BlockReads (.table form entries) b := by
  refine ⟨parse_eq_notDocument_iff, fun config => ?_, fun form entries h => ?_⟩
  · simp only [parse_eq_ok_iff, presetOf_eq_ok_iff, rulesOf_eq_ok_iff]
  · obtain ⟨options, hoptions⟩ := Toml.Entries.exists_values entries h
    exact ⟨.ofOptions options, .options hoptions⟩

/-- A severity that is a number and a link that is a list do no harm: their block is read, and so is the
document around it, with the preset that it chooses. -/
theorem parse_exact_misshapen :
    let entries : Entries := [("severity", .integer 3), ("help_link", .array [.boolean true])]
    let text := "preset = \"legacy\"\n[rules.json_comment_rule]\nseverity = 3\nhelp_link = [true]\n"
    Entries.Plain entries ∧ (∃ b, BlockReads (.table .started entries) b) ∧
      parse text ≠ .error .notDocument ∧
      parse text = .ok
        { preset := some "legacy"
          rules := [("json_comment_rule",
            .ofOptions [("severity", .integer 3), ("help_link", .array [.boolean true])])] } := by
  intro entries text
  have hplain : Entries.Plain entries :=
    ⟨by decide, trivial, by decide, ⟨trivial, trivial⟩, trivial⟩
  have hdocument : Toml.document?
      "preset = \"legacy\"\n[rules.json_comment_rule]\nseverity = 3\nhelp_link = [true]\n" =
        some [("preset", .string "legacy"),
          ("rules", .table .passed [("json_comment_rule", .table .started
            [("severity", .integer 3), ("help_link", .array [.boolean true])])])] := by
    cbv
  have hblocks : RulesReads
      (some (.table .passed [("json_comment_rule", .table .started entries)]))
      (Table.ofEntries [("json_comment_rule",
        .ofOptions [("severity", .integer 3), ("help_link", .array [.boolean true])])]) :=
    .blocks (.cons ⟨rfl, .options rfl⟩ .nil)
  refine ⟨hplain, (parse_exact text).2.2 .started _ hplain, ?_, ?_⟩
  · exact fun h => Option.some_ne_none _ (hdocument.symm.trans ((parse_exact text).1.1 h))
  · exact ((parse_exact text).2.1 _).2 ⟨_, hdocument, .text "legacy", hblocks⟩

/-- A document is refused for a number as its preset, and with it the option of a rule. -/
theorem parse_refuses_number_as_preset :
    Toml.document? "preset = 3\n[rules.json_comment_rule]\nenabled = false\n" =
        some [("preset", .integer 3),
          ("rules", .table .passed
            [("json_comment_rule", .table .started [("enabled", .boolean false)])])] ∧
      parse "preset = 3\n[rules.json_comment_rule]\nenabled = false\n" =
        .error .presetNotText :=
  ⟨by cbv, by cbv⟩

end Config

end CatalogLint
