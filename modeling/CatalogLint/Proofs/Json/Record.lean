/-
# The members of a record

A record is an object with certain members or a list of their values.  This module says what
`Node.fields?` makes of both.

* `Record` is the rule for a readable one: a list has the values in order; an object has every member
  once, in any order and among members of other names.  Its values are what is read
  (`fields?_of_record`).
* `Broken` is the rule for an object from which a member was deleted, or in which one was repeated.
  Nothing is read from it, whatever else it holds (`fields?_of_broken`).
-/
import CatalogLint.Proofs.List
import CatalogLint.Report.Json

namespace CatalogLint.Json.Node

variable {names : List String} {values : List Node} {node : Node} {key : String}

/-! ## 1. Members by name -/

/-- Members that are written with their names. -/
def ofNamed (named : List (String × Node)) : List (Option String × Node) :=
  named.map fun m => (some m.1, m.2)

/-- The names of members are read if every name is a whole text. -/
theorem mapM_names_eq_some_iff {members : List (Option String × Node)} {named : List (String × Node)} :
    (members.mapM fun (m : Option String × Node) => m.1.map fun key => (key, m.2)) = some named ↔
      members = ofNamed named := by
  have hmember : ∀ (m : Option String × Node) (n : String × Node),
      (m.1.map fun key => (key, m.2)) = some n ↔ m = (some n.1, n.2) := by
    rintro ⟨key, node⟩ ⟨key', node'⟩
    cases key <;> simp
  rw [List.mapM_eq_some_iff_forall₂, ofNamed, ← List.forall₂_eq_eq_eq, List.forall₂_map_right_iff]
  exact ⟨List.Forall₂.imp fun m n => (hmember m n).1, List.Forall₂.imp fun m n => (hmember m n).2⟩

/-- Where no name comes twice, there is one member of a name. -/
theorem filter_name {named : List (String × Node)} {value : Node}
    (hnames : (named.map Prod.fst).Nodup) (h : (key, value) ∈ named) :
    (named.filter fun m => m.1 == key) = [(key, value)] := by
  induction named with
  | nil => simp at h
  | cons m named ih =>
    rw [List.map_cons, List.nodup_cons] at hnames
    rcases List.mem_cons.1 h with rfl | hmem
    · have hrest : (named.filter fun m => m.1 == key) = [] :=
        List.filter_eq_nil_iff.2 fun m hm heq =>
          hnames.1 (List.mem_map.2 ⟨m, hm, beq_iff_eq.1 heq⟩)
      rw [List.filter_cons, if_pos (beq_self_eq_true key), hrest]
    · have hne : ¬ (m.1 == key) = true := fun heq =>
        hnames.1 (List.mem_map.2 ⟨_, hmem, (beq_iff_eq.1 heq).symm⟩)
      rw [List.filter_cons, if_neg hne, ih hnames.2 hmem]

/-! ## 2. Records that are read -/

/-- **A record** whose members, in the order of their names, have the given values. -/
inductive Record (names : List String) (values : List Node) : Node → Prop
  /-- The values in a list. -/
  | list (hlength : values.length = names.length) : Record names values (array values)
  /-- The members in an object, in any order and among others. -/
  | object {named others : List (String × Node)} (hlength : values.length = names.length)
    (hmembers : named.Perm (names.zip values ++ others)) (hothers : ∀ m ∈ others, m.1 ∉ names) :
    Record names values (object (ofNamed named))

theorem record_ofNamed (hlength : values.length = names.length) :
    Record names values (object (ofNamed (names.zip values))) :=
  .object hlength (by rw [List.append_nil]) (by simp)

/-- **The values of a record are read**, however it is written. -/
theorem fields?_of_record (hnames : names.Nodup) (h : Record names values node) :
    node.fields? names = some values := by
  cases h with
  | list hlength => rw [fields?, if_pos hlength]
  | @object named others hlength hmembers hothers =>
    rw [fields?, mapM_names_eq_some_iff.2 rfl, Option.bind_some, List.mapM_eq_some_iff_forall₂,
      List.forall₂_iff_zip]
    refine ⟨hlength.symm, fun {key value} hmem => ?_⟩
    have hzip : ((names.zip values).map Prod.fst).Nodup := by
      rwa [List.map_fst_zip (by omega)]
    have hothers' : (others.filter fun m => m.1 == key) = [] :=
      List.filter_eq_nil_iff.2 fun m hm heq =>
        hothers m hm (beq_iff_eq.1 heq ▸ (List.of_mem_zip hmem).1)
    have hfilter := hmembers.filter fun m => m.1 == key
    rw [List.filter_append, filter_name hzip hmem, hothers', List.append_nil,
      List.perm_singleton] at hfilter
    rw [member?, hfilter]

/-! ## 3. Records that are not read -/

/-- **A broken record**: an object in which a member is missing, or stands twice. -/
inductive Broken (names : List String) : Node → Prop
  /-- A member is missing. -/
  | deleted {key : String} {members : List (Option String × Node)} (hkey : key ∈ names)
    (h : ∀ m ∈ members, m.1 ≠ some key) : Broken names (object members)
  /-- A member stands twice. -/
  | repeated {key : String} {value again : Node} {before between after : List (Option String × Node)}
    (hkey : key ∈ names) :
    Broken names (object (before ++ (some key, value) :: (between ++ (some key, again) :: after)))

/-- A member that is read stands once. -/
theorem countP_of_member?_eq_some {named : List (String × Node)} {value : Node}
    (h : member? named key = some value) : (ofNamed named).countP (·.1 == some key) = 1 := by
  have hcount : (ofNamed named).countP (·.1 == some key) = (named.filter (·.1 == key)).length := by
    rw [ofNamed, List.countP_map, List.countP_eq_length_filter]
    rfl
  unfold member? at h
  split at h
  · next hfilter => rw [hcount, hfilter, List.length_singleton]
  · cases h

/-- **Nothing is read from a broken record.** -/
theorem fields?_of_broken (h : Broken names node) : node.fields? names = none := by
  obtain ⟨members, key, rfl, hkey, hcount⟩ : ∃ members key, node = object members ∧ key ∈ names ∧
      members.countP (·.1 == some key) ≠ 1 := by
    cases h with
    | @deleted key members hkey h =>
      refine ⟨members, key, rfl, hkey, ?_⟩
      rw [List.countP_eq_zero.2 fun m hm => by simpa using h m hm]
      decide
    | @repeated key value again before between after hkey =>
      refine ⟨_, key, rfl, hkey, ?_⟩
      simp only [List.countP_append, List.countP_cons, beq_self_eq_true, if_true]
      omega
  rw [fields?, Option.bind_eq_none_iff]
  intro named hnamed
  obtain rfl := mapM_names_eq_some_iff.1 hnamed
  refine List.mapM_eq_none_of_mem hkey (Option.eq_none_iff_forall_ne_some.2 fun value hvalue => ?_)
  exact hcount (countP_of_member?_eq_some hvalue)

end CatalogLint.Json.Node
