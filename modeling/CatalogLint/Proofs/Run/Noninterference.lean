/-
# Severities and links do not decide what is found

A user who lowers a severity, or changes the page behind a link, expects the same violations as before.
So it is: a kind of severity `none` is still reported, and where it was.

* `AgreeExcept` says that two configurations differ in the options of some keys only.  If these are the
  keys of severities and links, both configurations detect the same (`AgreeExcept.detectsLike`).
* Severities are not looked at when a report is sorted.  So reports that differ in severities only are
  `Alike`, position by position.
* Links are part of the reasons, and reasons are looked at.  Two violations of one place can change
  places when one rule has another link, so reports are the same up to their order only, when each
  configuration takes its own links away again (`Config.bare`, `Rule.withoutHelp_withHelp`).
-/
import CatalogLint.Proofs.Run.Detection

namespace CatalogLint

/-! ## 1. Configurations that differ in some options -/

namespace Config

/-- Two configurations differ in nothing but the options of the given keys. -/
structure AgreeExcept (keys : List String) (c d : Config) : Prop where
  preset : c.preset = d.preset
  option? : ∀ rule, ∀ key ∉ keys, c.option? rule key = d.option? rule key

/-- The keys of the options that set severities. -/
def severityKeys : List String := ["severity", "severity_map"]

/-- The keys of the options that set severities or links. -/
def reportKeys : List String := "help_link" :: severityKeys

namespace AgreeExcept

variable {keys : List String} {c d : Config}

theorem read? {α : Type} (h : AgreeExcept keys c d) (shape : Toml.Value → Option α) {rule key : String}
    (hkey : key ∉ keys) : c.read? shape rule key = d.read? shape rule key := by
  rw [Config.read?, Config.read?, h.option? rule key hkey]

theorem withLinks (h : AgreeExcept severityKeys c d) : AgreeExcept reportKeys c d :=
  ⟨h.preset, fun rule key hkey => h.option? rule key fun hmem => hkey (List.mem_cons_of_mem _ hmem)⟩

theorem link?_eq (h : AgreeExcept severityKeys c d) (rule : String) : c.link? rule = d.link? rule := by
  rw [link?, link?, h.read? _ (by decide)]

/-- **Neither severities nor links decide what is detected.** -/
theorem detectsLike (h : AgreeExcept reportKeys c d) : c.DetectsLike d where
  preset := by rw [Preset.resolve, Preset.resolve, h.preset]
  enabled rule _ := by rw [value_isEnabled, value_isEnabled, h.read? _ (by decide)]
  vocabulary := by rw [vocabulary, vocabulary, h.read? _ (by decide)]
  ignored := h.read? _ (by decide)
  inProgress := h.read? _ (by decide)

end AgreeExcept

end Config

/-! ## 2. Violations without their severities -/

namespace Violation

/-- Two violations differ in nothing but the severity. -/
structure Alike (v w : Violation) : Prop where
  rule : v.rule = w.rule
  name : v.name = w.name
  location : v.location = w.location
  reason : v.reason = w.reason

/-- The violation with its severity forgotten. -/
def plain (v : Violation) : Violation := { v with severity := .none }

theorem alike_of_plain {v w : Violation} (h : v.plain = w.plain) : v.Alike w := by
  obtain ⟨hrule, hname, -, hlocation, hreason⟩ := Violation.mk.inj h
  exact ⟨hrule, hname, hlocation, hreason⟩

/-- Forgetting severities never moves a violation. -/
theorem map_plain_sort (vs : List Violation) : (sort vs).map plain = sort (vs.map plain) :=
  List.map_mergeSort fun _ _ _ _ => rfl

end Violation

/-! ## 3. Violations without their links -/

namespace Rule

/-- A reason without the link at its end, if there is one. -/
def withoutHelp (link : Option String) (reason : String) : String :=
  match link with
  | some link =>
    match reason.toList.dropSuffix? (" For more information, please see: " ++ link).toList with
    | some front => String.ofList front
    | none => reason
  | none => reason

/-- Taking a link away undoes putting it there, whatever the reason and the link are. -/
theorem withoutHelp_withHelp (link : Option String) (reason : String) :
    withoutHelp link (withHelp link reason) = reason := by
  cases link with
  | none => rfl
  | some link =>
    have hdrop : (withHelp (some link) reason).toList.dropSuffix?
        (" For more information, please see: " ++ link).toList = some reason.toList := by
      rw [List.dropSuffix?_eq_some_iff]
      refine ⟨_, ?_, beq_self_eq_true _⟩
      rw [← String.toList_append, ← String.append_assoc]
      rfl
    simp only [withoutHelp, hdrop, String.ofList_toList]

end Rule

namespace Config

/-- A violation of a run without what its configuration sets: without the severity, and without the
link of its rule. -/
def bare (c : Config) (v : Violation) : Violation :=
  { v with severity := .none, reason := Rule.withoutHelp (c.link? v.rule) v.reason }

/-- A report of what was detected holds just that, under every configuration. -/
theorem bare_reported (c : Config) (rule name kind : String) (location : Location) (reason : String) :
    c.bare (c.reported rule name kind location reason) =
      { rule, name, severity := .none, location, reason } := by
  rw [bare, reported, Rule.withoutHelp_withHelp]

end Config

/-! ## 4. Runs -/

section

variable {config config' : Config} {c : Collaborators} {files : List SourceFile}

/-- Under other severities, the same is found in the same order. -/
theorem Config.AgreeExcept.map_plain_found
    (h : Config.AgreeExcept Config.severityKeys config config') :
    (config.found c files).map Violation.plain = (config'.found c files).map Violation.plain := by
  have hplain : ∀ (rule name kind : String) (location : Location) (reason : String),
      (config.reported rule name kind location reason).plain =
        (config'.reported rule name kind location reason).plain := by
    intro rule name kind location reason
    rw [reported, reported, h.link?_eq]
    rfl
  exact h.withLinks.detectsLike.map_found_eq (.refl c) (fun _ _ _ => hplain _ _ _ _ _)
    (fun _ _ => hplain _ _ _ _ _) files

/-- Under other severities and links, the same is found in the same order. -/
theorem Config.AgreeExcept.map_bare_found
    (h : Config.AgreeExcept Config.reportKeys config config') :
    (config.found c files).map config.bare = (config'.found c files).map config'.bare := by
  refine h.detectsLike.map_found_eq (.refl c) (fun profile r fault => ?_) (fun finding location => ?_)
    files
  · rw [bare_reported, bare_reported]
  · rw [bare_reported, bare_reported]

end

/-- **Severities and links do not decide what is found.**  (i) Under other severities, a report has as
many violations, which agree position by position in everything but the severity.  (ii) Under other
severities and links, it has the same violations in some order, when severities and links are taken
away. -/
theorem severity_noninterference (config config' : Config) (c : Collaborators)
    (files : List SourceFile) :
    (Config.AgreeExcept Config.severityKeys config config' →
        List.Forall₂ Violation.Alike (lint files config c).value.violations
          (lint files config' c).value.violations) ∧
      (Config.AgreeExcept Config.reportKeys config config' →
        ((lint files config c).value.violations.map config.bare).Perm
          ((lint files config' c).value.violations.map config'.bare)) := by
  rw [value_lint_found, value_lint_found]
  constructor
  · intro h
    have hsort : (Violation.sort (config.found c files)).map Violation.plain =
        (Violation.sort (config'.found c files)).map Violation.plain := by
      rw [Violation.map_plain_sort, Violation.map_plain_sort, h.map_plain_found]
    rw [← List.forall₂_eq_eq_eq, List.forall₂_map_left_iff, List.forall₂_map_right_iff] at hsort
    exact hsort.imp fun _ _ => Violation.alike_of_plain
  · intro h
    have hleft := (Violation.sort_perm (config.found c files)).map config.bare
    have hright := (Violation.sort_perm (config'.found c files)).map config'.bare
    rw [h.map_bare_found] at hleft
    exact hleft.trans hright.symm

/-- The configuration with a block for the full check of comments only. -/
def Config.ofComments (options : Table Toml.Value) : Config where
  rules := [(Comment.Profile.full.rule, ⟨options⟩)]

theorem Config.agreeExcept_ofComments {keys : List String} {options options' : Table Toml.Value}
    (h : ∀ key ∉ keys, Table.get? options key = Table.get? options' key) :
    AgreeExcept keys (ofComments options) (ofComments options') where
  preset := rfl
  option? := by
    intro rule key hkey
    rw [option?, option?, Config.rule?, Config.rule?, ofComments, ofComments, Table.get?_cons,
      Table.get?_cons]
    split
    · exact h key hkey
    · rfl

/-- A string without a comment that nothing uses is reported twice: with the usual severities, with
its comment declared not to matter, and with a link to more about it. -/
theorem severity_noninterference_linked :
    Config.AgreeExcept Config.severityKeys (.ofComments [])
        (.ofComments [("severity", .string "none")]) ∧
      Config.AgreeExcept Config.reportKeys (.ofComments [("severity", .string "none")])
        (.ofComments [("help_link", .string "more")]) ∧
      (lint [⟨"a.strings", "key"⟩] (.ofComments [("severity", .string "none")])
        .ofKeys).value.violations.length = 2 ∧
      List.Forall₂ Violation.Alike
        (lint [⟨"a.strings", "key"⟩] (.ofComments []) .ofKeys).value.violations
        (lint [⟨"a.strings", "key"⟩] (.ofComments [("severity", .string "none")])
          .ofKeys).value.violations ∧
      ((lint [⟨"a.strings", "key"⟩] (.ofComments [("severity", .string "none")])
        .ofKeys).value.violations.map (Config.ofComments [("severity", .string "none")]).bare).Perm
        ((lint [⟨"a.strings", "key"⟩] (.ofComments [("help_link", .string "more")])
          .ofKeys).value.violations.map (Config.ofComments [("help_link", .string "more")]).bare) := by
  have hquiet : Config.AgreeExcept Config.severityKeys (.ofComments [])
      (.ofComments [("severity", .string "none")]) := by
    apply Config.agreeExcept_ofComments
    intro key hkey
    have hne : "severity" ≠ key := fun he => hkey (he ▸ by decide)
    rw [Table.get?_cons, if_neg hne]
  have hlinked : Config.AgreeExcept Config.reportKeys (.ofComments [("severity", .string "none")])
      (.ofComments [("help_link", .string "more")]) := by
    apply Config.agreeExcept_ofComments
    intro key hkey
    have hne : "severity" ≠ key := fun he => hkey (he ▸ by decide)
    have hne' : "help_link" ≠ key := fun he => hkey (he ▸ by decide)
    rw [Table.get?_cons, Table.get?_cons, if_neg hne, if_neg hne']
  refine ⟨hquiet, hlinked, ?_, (severity_noninterference _ _ _ _).1 hquiet,
    (severity_noninterference _ _ _ _).2 hlinked⟩
  rw [value_lint_found, (Violation.sort_perm _).length_eq]
  decide

end CatalogLint
