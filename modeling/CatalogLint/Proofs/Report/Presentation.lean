/-
# Reports survive JSON

A report, its violations and their locations are records, and a record may be written in many ways.

* `Presented` says that a tree is a report: each of its records is an object with the members in any
  order and others among them, or a list of their values.
* `Broken` says that one of its records is an object in which a member is missing or stands twice.
* A printed report is a text of a tree that presents it (`Report.exists_prints`), every text of such a
  tree is read to the report, and no text of a broken tree is read (`Report.survives_json`).

Lines, columns and numbers of files are words of sixty-four bits in a report that was made; `Fits` says
so, as they are natural numbers here.
-/
import CatalogLint.Proofs.Json.Printer
import CatalogLint.Proofs.Json.Reader
import CatalogLint.Proofs.Json.Record

namespace CatalogLint

open Json Json.Node

/-! ## 1. Printed records -/

namespace Json.Node

/-- Values that are printed under their names are a record. -/
theorem prints_ofNamed {names : List String} {values : List Value} {nodes : List Node}
    (h : List.Forall₂ Prints values nodes) :
    Prints (.object (names.zip values)) (object (ofNamed (names.zip nodes))) := by
  refine prints_object ?_
  induction h generalizing names with
  | nil => cases names <;> exact .nil
  | cons h _ ih =>
    cases names with
    | nil => exact .nil
    | cons name names => exact .cons ⟨rfl, h⟩ ih

end Json.Node

/-! ## 2. Locations -/

namespace Location

variable {l : Location} {node : Node}

/-- The members of a location, in order. -/
def memberNames : List String := ["file", "line", "column"]

/-- The values of the members stand for a location. -/
inductive Presented (l : Location) : Node → Prop
  /-- A record of a text and two numbers. -/
  | record {line column : Numeral} {node : Node}
    (h : Node.Record memberNames [string (some l.file), number line, number column] node)
    (hline : line.number? = some (.natural l.line))
    (hcolumn : column.number? = some (.natural l.column)) : Presented l node

/-- Line and column are words of sixty-four bits. -/
structure Fits (l : Location) : Prop where
  line : l.line < Number.wordLimit
  column : l.column < Number.wordLimit

theorem ofNode?_of_presented (h : l.Presented node) : ofNode? node = some l := by
  obtain ⟨h, hline, hcolumn⟩ := h
  have hfields : node.fields? ["file", "line", "column"] = _ := fields?_of_record (by decide) h
  rw [ofNode?, hfields]
  simp [text?, natural?, hline, hcolumn]

theorem ofNode?_of_broken (h : Node.Broken memberNames node) : ofNode? node = none := by
  have hfields : node.fields? ["file", "line", "column"] = none := fields?_of_broken h
  rw [ofNode?, hfields]

theorem exists_prints (h : l.Fits) : ∃ node, Prints l.toJson node ∧ l.Presented node := by
  refine ⟨_, ?_, .record (record_ofNamed rfl) (Numeral.number?_ofNat h.line)
    (Numeral.number?_ofNat h.column)⟩
  exact prints_ofNamed (.cons prints_string (.cons prints_natural (.cons prints_natural .nil)))

end Location

/-! ## 3. Violations -/

theorem Severity.ofNode?_name (s : Severity) : ofNode? (string (some s.name)) = some s := by
  cases s <;> decide

namespace Violation

variable {v : Violation} {node : Node}

/-- The members of a violation, in order. -/
def memberNames : List String := ["rule_identifier", "rule_name", "severity", "location", "reason"]

/-- The values of the members stand for a violation. -/
inductive Presented (v : Violation) : Node → Prop
  /-- A record of texts, a severity by its name, and a location. -/
  | record {location node : Node}
    (h : Node.Record memberNames [string (some v.rule), string (some v.name),
      string (some v.severity.name), location, string (some v.reason)] node)
    (hlocation : v.location.Presented location) : Presented v node

/-- A violation is broken, or its location is. -/
inductive Broken : Node → Prop
  /-- A member of its own is missing or stands twice. -/
  | own {node : Node} (h : Node.Broken memberNames node) : Broken node
  /-- A member of its location is missing or stands twice. -/
  | location {rule name severity location reason node : Node}
    (h : Node.Record memberNames [rule, name, severity, location, reason] node)
    (hlocation : Node.Broken Location.memberNames location) : Broken node

theorem ofNode?_of_presented (h : v.Presented node) : ofNode? node = some v := by
  obtain ⟨h, hlocation⟩ := h
  have hfields : node.fields? ["rule_identifier", "rule_name", "severity", "location", "reason"] =
      _ := fields?_of_record (by decide) h
  rw [ofNode?, hfields]
  simp [text?, Severity.ofNode?_name, Location.ofNode?_of_presented hlocation]

theorem ofNode?_of_broken (h : Broken node) : ofNode? node = none := by
  cases h with
  | own h =>
    have hfields : node.fields? ["rule_identifier", "rule_name", "severity", "location", "reason"] =
        none := fields?_of_broken h
    rw [ofNode?, hfields]
  | location h hlocation =>
    have hfields : node.fields? ["rule_identifier", "rule_name", "severity", "location", "reason"] =
        _ := fields?_of_record (by decide) h
    rw [ofNode?, hfields]
    simp [Location.ofNode?_of_broken hlocation]

theorem exists_prints (h : v.location.Fits) : ∃ node, Prints v.toJson node ∧ v.Presented node := by
  obtain ⟨location, hprints, hlocation⟩ := Location.exists_prints h
  refine ⟨_, ?_, .record (record_ofNamed rfl) hlocation⟩
  exact prints_ofNamed (.cons prints_string (.cons prints_string (.cons prints_string
    (.cons hprints (.cons prints_string .nil)))))

end Violation

/-! ## 4. Reports -/

namespace Report

variable {r : Report} {node : Node}

/-- The members of a report, in order. -/
def memberNames : List String := ["violations", "files_checked"]

/-- The values of the members stand for a report. -/
inductive Presented (r : Report) : Node → Prop
  /-- A record of the violations in order and a number. -/
  | record {items : List Node} {files : Numeral} {node : Node}
    (h : Node.Record memberNames [array items, number files] node)
    (hitems : List.Forall₂ Violation.Presented r.violations items)
    (hfiles : files.number? = some (.natural r.filesChecked)) : Presented r node

/-- A report is broken, or one of its violations is. -/
inductive Broken : Node → Prop
  /-- A member of its own is missing or stands twice. -/
  | own {node : Node} (h : Node.Broken memberNames node) : Broken node
  /-- A violation is broken. -/
  | violation {items : List Node} {files item node : Node}
    (h : Node.Record memberNames [array items, files] node) (hitem : item ∈ items)
    (hviolation : Violation.Broken item) : Broken node

/-- All numbers of a report are words of sixty-four bits. -/
structure Fits (r : Report) : Prop where
  locations : ∀ v ∈ r.violations, v.location.Fits
  filesChecked : r.filesChecked < Number.wordLimit

theorem ofNode?_of_presented (h : r.Presented node) : ofNode? node = some r := by
  obtain ⟨h, hitems, hfiles⟩ := h
  have hfields : node.fields? ["violations", "files_checked"] = _ := fields?_of_record (by decide) h
  have hviolations : _ = some r.violations :=
    List.mapM_eq_some_iff_forall₂.2 (hitems.flip.imp fun _ _ => Violation.ofNode?_of_presented)
  rw [ofNode?, hfields]
  simp [hviolations, natural?, hfiles]

theorem ofNode?_of_broken (h : Broken node) : ofNode? node = none := by
  cases h with
  | own h =>
    have hfields : node.fields? ["violations", "files_checked"] = none := fields?_of_broken h
    rw [ofNode?, hfields]
  | violation h hitem hviolation =>
    have hfields : node.fields? ["violations", "files_checked"] = _ :=
      fields?_of_record (by decide) h
    rw [ofNode?, hfields]
    simp [List.mapM_eq_none_of_mem hitem (Violation.ofNode?_of_broken hviolation)]

/-- Violations are printed one behind the other. -/
theorem exists_prints_violations {vs : List Violation} (h : ∀ v ∈ vs, v.location.Fits) :
    ∃ items, List.Forall₂ Prints (vs.map Violation.toJson) items ∧
      List.Forall₂ Violation.Presented vs items := by
  induction vs with
  | nil => exact ⟨[], .nil, .nil⟩
  | cons v vs ih =>
    obtain ⟨hv, hvs⟩ := List.forall_mem_cons.1 h
    obtain ⟨item, hprints, hpresented⟩ := Violation.exists_prints hv
    obtain ⟨items, hprints', hpresented'⟩ := ih hvs
    exact ⟨item :: items, .cons hprints hprints', .cons hpresented hpresented'⟩

/-- A printed report is the text of a tree that presents it. -/
theorem exists_prints (h : r.Fits) : ∃ node, Prints r.toJson node ∧ r.Presented node := by
  obtain ⟨items, hprints, hpresented⟩ := exists_prints_violations h.locations
  refine ⟨_, ?_, .record (record_ofNamed rfl) hpresented (Numeral.number?_ofNat h.filesChecked)⟩
  exact prints_ofNamed (.cons (prints_array hprints) (.cons prints_natural .nil))

/-- **Reports survive JSON.**  A printed report is read back, with every text, number and the order of
the violations.  So is every other text of a tree that presents it.  Where a member of one of its
records is missing or stands twice, nothing is read. -/
theorem survives_json (r : Report) :
    (r.Fits → read? r.print = some r) ∧
      (∀ node text, r.Presented node → node.Text text → read? text = some r) ∧
      ∀ node text, Broken node → node.Text text → read? text = none := by
  have hpresented : ∀ node text, r.Presented node → node.Text text → read? text = some r := by
    intro node text hnode htext
    rw [read?, read?_of_text htext, Option.bind_some, ofNode?_of_presented hnode]
  refine ⟨fun hfits => ?_, hpresented, fun node text hnode htext => ?_⟩
  · obtain ⟨node, hprints, hnode⟩ := exists_prints hfits
    exact hpresented node r.print hnode (text_print hprints)
  · rw [read?, read?_of_text htext, Option.bind_some, ofNode?_of_broken hnode]

/-- A report is read from its own text, from a text with its members in the other order and one member
more, and not from a text without the number of files. -/
theorem survives_json_reordered :
    let r : Report := ⟨[⟨"a\"", "\x01", .error, ⟨"é", 0, 0xffffffffffffffff⟩, "\n"⟩], 3⟩
    let violations := Value.array (r.violations.map Violation.toJson)
    read? r.print = some r ∧
      read? (Value.print (.object
        [("files_checked", .ofNat 3), ("more", .null), ("violations", violations)])) = some r ∧
      read? (Value.print (.object [("violations", violations)])) = none := by
  intro r violations
  have hplaces : ∀ v ∈ r.violations, v.location.Fits :=
    List.forall_mem_singleton.2 ⟨(by decide : 0 < Number.wordLimit),
      (by decide : 0xffffffffffffffff < Number.wordLimit)⟩
  have hfiles : 3 < Number.wordLimit := by decide
  obtain ⟨items, hprints, hitems⟩ := exists_prints_violations hplaces
  have hlist := prints_array hprints
  refine ⟨(survives_json r).1 ⟨hplaces, hfiles⟩, ?_, ?_⟩
  · have hmembers : List.Perm [("files_checked", number (.ofNat 3)), ("more", null),
        ("violations", array items)]
        (memberNames.zip [array items, number (.ofNat 3)] ++ [("more", null)]) :=
      (List.perm_append_comm : ([_, _] ++ [_]).Perm ([_] ++ [_, _]))
    have hothers : ∀ m ∈ [("more", null)], m.1 ∉ memberNames := by simp [memberNames]
    have hpresented := Presented.record (.object rfl hmembers hothers) hitems
      (Numeral.number?_ofNat hfiles)
    exact (survives_json r).2.1 _ _ hpresented (text_print (prints_object
      (.cons ⟨rfl, prints_natural⟩ (.cons ⟨rfl, .wordNull⟩ (.cons ⟨rfl, hlist⟩ .nil)))))
  · have hbroken : Node.Broken memberNames (object (ofNamed [("violations", array items)])) :=
      .deleted (show "files_checked" ∈ memberNames by decide) (by simp [ofNamed])
    exact (survives_json r).2.2 _ _ (.own hbroken)
      (text_print (prints_object (.cons ⟨rfl, hlist⟩ .nil)))

end Report

end CatalogLint
