/-
# Rules do not disturb one another

The rules of a run share readers and one report, and the report is ordered by place before it is
ordered by rule.  Still each rule might run alone.

* `Rule.Isolated` says what this means for a list of rules: the part of a rule in their report is the
  whole report of that rule alone, a rule that is switched off has no part, and every file counts
  once.  It holds of all rules that have different identifiers and report under their own.
* Between two runs, a rule is the same when both configurations agree on what it reads
  (`Preset.rule_congr`); which preset it comes from does not matter, and neither does what other
  rules there are.  So its part of the report is the same as well.

`rule_isolation` puts both together.
-/
import CatalogLint.Proofs.Config.Options
import CatalogLint.Proofs.Run.Rules

namespace CatalogLint

/-! ## 1. One linter -/

/-- Rules that report together what each of them reports alone. -/
structure Rule.Isolated (rules : List Rule) : Prop where
  /-- The part of a rule that is switched on is the report of that rule alone, in its order. -/
  alone : ∀ (config : Config) (files : List SourceFile), ∀ r ∈ rules,
    (config.isEnabled r.identifier).value = true →
      ((Linter.ofRules config rules).value.lint files).value.ofRule r.identifier =
        (({ rules := [r] } : Linter).lint files).value.violations
  /-- A rule that is switched off has no part in the report. -/
  absent : ∀ (config : Config) (files : List SourceFile), ∀ r ∈ rules,
    (config.isEnabled r.identifier).value = false →
      ((Linter.ofRules config rules).value.lint files).value.ofRule r.identifier = []
  /-- Every file counts once, whatever rules are switched on. -/
  filesChecked : ∀ (config : Config) (files : List SourceFile),
    ((Linter.ofRules config rules).value.lint files).value.filesChecked = files.length

/-- Different identifiers, and reports under the own one, keep rules apart. -/
theorem Rule.Distinct.isolated {rules : List Rule} (hn : Rule.Distinct rules)
    (ho : ∀ r ∈ rules, r.OwnViolations) : Rule.Isolated rules where
  alone := by
    intro config files r hr hon
    have hkept : r ∈ rules.filter fun r => (config.isEnabled r.identifier).value :=
      List.mem_filter.2 ⟨hr, hon⟩
    have hn' : Rule.Distinct (rules.filter fun r => (config.isEnabled r.identifier).value) :=
      hn.sublist (List.filter_sublist.map _)
    have ho' : ∀ s ∈ rules.filter fun r => (config.isEnabled r.identifier).value,
        s.OwnViolations := fun s hs => ho s (List.mem_filter.1 hs).1
    rw [Linter.value_ofRules, Linter.ofRule_lint hn' ho' hkept, Linter.value_lint,
      List.flatMap_singleton]
  absent := by
    intro config files r hr hoff
    rw [Linter.value_ofRules]
    refine Linter.ofRule_lint_of_not_mem (fun s hs => ho s (List.mem_filter.1 hs).1) ?_ files
    intro hmem
    obtain ⟨s, hs, hid⟩ := List.mem_map.1 hmem
    have hon : (config.isEnabled s.identifier).value = true := (List.mem_filter.1 hs).2
    rw [hid, hoff] at hon
    exact Bool.false_ne_true hon
  filesChecked := by
    intro config files
    rw [Linter.value_ofRules, Linter.value_lint]

/-! ## 2. Two runs -/

/-- A configuration lets a rule run: the rule belongs to the preset and is switched on. -/
def Config.Runs (config : Config) (id : String) : Prop :=
  id ∈ (Preset.resolve config).value.identifiers ∧ (config.isEnabled id).value = true

instance (config : Config) (id : String) : Decidable (config.Runs id) :=
  inferInstanceAs (Decidable (_ ∧ _))

/-- A rule that a configuration lets run is one of the rules of the run. -/
theorem Config.runs_iff {config : Config} {id : String} (c : Collaborators) :
    config.Runs id ↔ ∃ r ∈ config.activeRules c, r.identifier = id := by
  rw [Runs, ← Preset.identifier_rules _ config c, List.mem_map]
  constructor
  · rintro ⟨⟨r, hr, rfl⟩, hon⟩
    exact ⟨r, mem_activeRules.2 ⟨hr, hon⟩, rfl⟩
  · rintro ⟨r, hr, rfl⟩
    obtain ⟨hr, hon⟩ := mem_activeRules.1 hr
    exact ⟨⟨r, hr, rfl⟩, hon⟩

/-- **A rule is what its own options make of it**: two presets have the same rule under one
identifier, under configurations that agree on it. -/
theorem Preset.rule_congr {p q : Preset} {config config' : Config} {c : Collaborators} {r s : Rule}
    (hr : r ∈ (p.rules config c).value) (hs : s ∈ (q.rules config' c).value)
    (hid : r.identifier = s.identifier) (h : Config.AgreeOn r.identifier config config') :
    r = s := by
  rw [value_rules, List.mem_append, List.mem_map, List.mem_singleton] at hr hs
  -- the identifier tells which rule of a preset it is
  rcases hr with ⟨profile, -, rfl⟩ | rfl <;> rcases hs with ⟨profile', -, rfl⟩ | rfl
  · rw [CommentCheck.identifier_rule_ofConfig] at hid h
    rw [CommentCheck.identifier_rule_ofConfig] at hid
    obtain rfl : profile = profile' := Comment.Profile.rule_injective hid
    rw [CommentCheck.ofConfig_congr profile h]
  · rw [CommentCheck.identifier_rule_ofConfig] at hid
    exact absurd hid profile.rule_ne
  · rw [CommentCheck.identifier_rule_ofConfig] at hid
    exact absurd hid.symm profile'.rule_ne
  · rw [CrossReference.ofConfig_congr h]

/-- The part of a rule of a run is what it finds, sorted. -/
theorem ofRule_lint {config : Config} {c : Collaborators} {r : Rule} (hr : r ∈ config.activeRules c)
    (files : List SourceFile) :
    (lint files config c).value.ofRule r.identifier = Violation.sort (r.violations files) := by
  rw [value_lint_eq]
  exact Linter.ofRule_lint (config.activeRules_distinct c) (config.activeRules_ownViolations c) hr
    files

/-- A rule that does not run has no part in the report. -/
theorem ofRule_lint_of_not_runs {config : Config} {id : String} (h : ¬ config.Runs id)
    (c : Collaborators) (files : List SourceFile) :
    (lint files config c).value.ofRule id = [] := by
  rw [value_lint_eq]
  refine Linter.ofRule_lint_of_not_mem (config.activeRules_ownViolations c) (fun hmem => ?_) files
  exact h ((Config.runs_iff c).2 (List.mem_map.1 hmem))

/-- A rule that runs under two configurations has the same part in both reports, if they agree on
it. -/
theorem ofRule_lint_congr {config config' : Config} {id : String} (hc : config.Runs id)
    (hc' : config'.Runs id) (h : Config.AgreeOn id config config') (c : Collaborators)
    (files : List SourceFile) :
    (lint files config c).value.ofRule id = (lint files config' c).value.ofRule id := by
  obtain ⟨r, hr, rfl⟩ := (Config.runs_iff c).1 hc
  obtain ⟨s, hs, hid⟩ := (Config.runs_iff c).1 hc'
  obtain rfl : r = s := Preset.rule_congr (Config.mem_activeRules.1 hr).1
    (Config.mem_activeRules.1 hs).1 hid.symm h
  rw [ofRule_lint hr, ofRule_lint hs]

/-! ## 3. Isolation -/

/-- **Rules do not disturb one another.**  (i) Rules with different identifiers that report under
their own are isolated, whatever is switched on and whatever files are read.  (ii) The rules of every
preset are such rules.  (iii) Where two configurations let a rule run and agree on its options, its
part of the report is the same list.  (iv) Configurations agree on every rule when they differ in the
preset, or in a rule that is switched on or off. -/
theorem rule_isolation :
    (∀ rules : List Rule, Rule.Distinct rules → (∀ r ∈ rules, r.OwnViolations) →
        Rule.Isolated rules) ∧
      (∀ (p : Preset) (config : Config) (c : Collaborators),
        Rule.Distinct (p.rules config c).value ∧ ∀ r ∈ (p.rules config c).value, r.OwnViolations) ∧
      (∀ (config config' : Config) (id : String), config.Runs id → config'.Runs id →
        Config.AgreeOn id config config' → ∀ (c : Collaborators) (files : List SourceFile),
          (lint files config c).value.ofRule id = (lint files config' c).value.ofRule id) ∧
      ∀ (config : Config) (id : String),
        (∀ preset : Option String, Config.AgreeOn id config { config with preset }) ∧
          ∀ (other : String) (on : Bool), Config.AgreeOn id config (config.switch other on) :=
  ⟨fun _ hn ho => hn.isolated ho,
    fun p config c => ⟨p.rules_distinct config c, p.rules_ownViolations config c⟩,
    fun _ _ _ hc hc' h c files => ofRule_lint_congr hc hc' h c files,
    fun config id => ⟨config.agreeOn_preset id, config.agreeOn_switch id⟩⟩

/-- A rule that finds something in every file. -/
def Rule.everyFile (identifier : String) : Rule where
  identifier := identifier
  name := "Every file"
  violations files := files.map fun file =>
    { rule := identifier
      name := "Every file"
      severity := .warning
      location := { file := file.path }
      reason := "found" }

theorem Rule.everyFile_ownViolations (identifier : String) :
    (everyFile identifier).OwnViolations := by
  intro files v hv
  obtain ⟨file, -, rfl⟩ := List.mem_map.1 hv
  rfl

/-- Two rules of which one is switched off; and the check of comments in two presets, with the cross
reference and without. -/
theorem rule_isolation_switched :
    ((({} : Config).switch "b" false).isEnabled "a").value = true ∧
      ((({} : Config).switch "b" false).isEnabled "b").value = false ∧
      Rule.Isolated [.everyFile "a", .everyFile "b"] ∧
      Config.Runs {} "json_comment_rule" ∧
      Config.Runs ({ preset := some "all" : Config }.switch CrossReference.identifier false)
        "json_comment_rule" ∧
      ∀ (c : Collaborators) (files : List SourceFile),
        (lint files {} c).value.ofRule "json_comment_rule" =
          (lint files ({ preset := some "all" : Config }.switch CrossReference.identifier false)
            c).value.ofRule "json_comment_rule" := by
  have hdistinct : Rule.Distinct [.everyFile "a", .everyFile "b"] := by decide
  have hown : ∀ r ∈ [Rule.everyFile "a", .everyFile "b"], r.OwnViolations := by
    simp [Rule.everyFile_ownViolations]
  have hruns : Config.Runs {} "json_comment_rule" := by decide
  have hruns' : Config.Runs ({ preset := some "all" : Config }.switch CrossReference.identifier
      false) "json_comment_rule" := by decide
  have hagree : Config.AgreeOn "json_comment_rule" {}
      ({ preset := some "all" : Config }.switch CrossReference.identifier false) := fun key hkey =>
    ((rule_isolation.2.2.2 {} _).1 (some "all") key hkey).trans
      ((rule_isolation.2.2.2 _ _).2 CrossReference.identifier false key hkey)
  exact ⟨by decide, Config.value_isEnabled_switch {} "b" false,
    rule_isolation.1 _ hdistinct hown, hruns, hruns',
    rule_isolation.2.2.1 _ _ _ hruns hruns' hagree⟩

end CatalogLint
