/-
# Objects with members left out

Some members of an object can be left out of its text: there is a text that is read to exactly the
others (`exists_read?_filter`).  It is the text of the tree without them, so no value is printed anew.

* A tree keeps a text when members are left out of it, commas and blanks included
  (`SpellsMembers.filter`).
* Its values are read one by one (`membersWithin?_filter`), and leaving out is the same before and
  after the last of several members with one key is chosen (`Table.ofEntries_filter`), since all of
  them are left out or none.
-/
import CatalogLint.Json.Value
import CatalogLint.Proofs.Json.Soundness

namespace CatalogLint

namespace Table

variable {α : Type} {t : Table α}

/-- Looking a key up in the entries of some keys. -/
theorem get?_filter (p : String → Bool) (t : Table α) (key : String) :
    get? (t.filter fun e => p e.1) key = if p key then get? t key else none := by
  induction t with
  | nil => simp [get?_nil]
  | cons e t ih =>
    rw [List.filter_cons, get?_cons]
    by_cases hkey : e.1 = key
    · subst hkey
      by_cases hp : p e.1 <;> simp [hp, get?_cons, ih]
    · by_cases hp : p e.1 <;> simp [hp, hkey, get?_cons, ih]

theorem insert_of_forall_lt {key : String} (h : ∀ e ∈ t, key < e.1) (value : α) :
    insert key value t = (key, value) :: t := by
  cases t with
  | nil => rfl
  | cons e t =>
    have hlt : key < e.1 := h e List.mem_cons_self
    rw [insert, if_neg (Std.ne_of_lt hlt), if_pos hlt]

/-- An entry that is inserted is left out or kept by its own key. -/
theorem insert_filter (h : Sorted t) (p : String → Bool) (key : String) (value : α) :
    (insert key value t).filter (fun e => p e.1) =
      if p key then insert key value (t.filter fun e => p e.1) else t.filter fun e => p e.1 := by
  induction t with
  | nil => cases hp : p key <;> simp [insert, hp]
  | cons e t ih =>
    obtain ⟨hlt, ht⟩ := List.pairwise_cons.1 h
    rw [insert]
    split
    · next heq =>
      subst heq
      have hfirst := insert_of_forall_lt (t := t.filter fun e => p e.1)
        (fun a ha => hlt a (List.mem_of_mem_filter ha)) value
      by_cases hp : p e.1
      · simp [hp, insert]
      · simp [hp]
    · next hne =>
      split
      · next hkey =>
        have hall : ∀ a ∈ (e :: t).filter fun e => p e.1, key < a.1 := by
          intro a ha
          rcases List.mem_cons.1 (List.mem_of_mem_filter ha) with rfl | ha
          · exact hkey
          · exact String.lt_trans hkey (hlt a ha)
        rw [List.filter_cons, insert_of_forall_lt hall]
      · next hkey =>
        rw [List.filter_cons, List.filter_cons, ih ht]
        by_cases hp : p e.1 <;> by_cases hkept : p key <;> simp [hp, hkept, insert, hne, hkey]

/-- **The entries of some keys** make the table of these keys. -/
theorem ofEntries_filter (p : String → Bool) (entries : List (String × α)) :
    (ofEntries entries).filter (fun e => p e.1) = ofEntries (entries.filter fun e => p e.1) := by
  suffices h : ∀ t : Table α, Sorted t →
      (entries.foldl (fun t e => insert e.1 e.2 t) t).filter (fun e => p e.1) =
        (entries.filter fun e => p e.1).foldl (fun t e => insert e.1 e.2 t)
          (t.filter fun e => p e.1) from h [] List.Pairwise.nil
  induction entries with
  | nil => exact fun _ _ => rfl
  | cons e entries ih =>
    intro t ht
    rw [List.foldl_cons, ih _ (insert_sorted ht e.1 e.2), insert_filter ht, List.filter_cons]
    split <;> rfl

end Table

namespace Json

namespace Node

/-- Whether the key of a member is kept. -/
def kept (p : String → Bool) (member : Option String × Node) : Bool := member.1.any p

/-- **Members can be left out of a text**, unless none is left. -/
theorem SpellsMembers.filter {members : List (Option String × Node)} {cs : List Char}
    (h : SpellsMembers members cs) (q : Option String × Node → Bool) :
    members.filter q = [] ∨ ∃ ds, SpellsMembers (members.filter q) ds := by
  induction members generalizing cs with
  | nil => exact .inl rfl
  | cons member members ih =>
    cases h with
    | last hkey hpadKey h hpad =>
      rw [List.filter_cons]
      split
      · exact .inr ⟨_, .last hkey hpadKey h hpad⟩
      · exact .inl rfl
    | more hkey hpadKey h hpad hmore =>
      rw [List.filter_cons]
      split
      · rcases ih hmore with hnil | ⟨es, hes⟩
        · rw [hnil]
          exact .inr ⟨_, .last hkey hpadKey h hpad⟩
        · exact .inr ⟨_, .more hkey hpadKey h hpad hes⟩
      · exact ih hmore

theorem exists_text_filter {members : List (Option String × Node)} {text : String}
    (h : (object members).Text text) (q : Option String × Node → Bool) :
    ∃ text', (object (members.filter q)).Text text' := by
  have hbare {node : Node} {cs : List Char} (hcs : Spells node cs) : node.Text (String.ofList cs) :=
    ⟨cs, hcs, [], [], by simp [Blank], by simp [Blank], by simp⟩
  have hempty : (object []).Text (String.ofList ['{', '}']) :=
    hbare (.emptyObject (by simp [Blank] : Blank []))
  obtain ⟨cs, hcs, -⟩ := h
  cases hcs with
  | emptyObject _ => exact ⟨_, hempty⟩
  | object hmembers =>
    rcases hmembers.filter q with hnil | ⟨ds, hds⟩
    · rw [hnil]
      exact ⟨_, hempty⟩
    · exact ⟨_, hbare (.object hds)⟩

theorem membersWithin?_filter (p : String → Bool) {members : List (Option String × Node)}
    {depth : Nat} {entries : List (String × Value)} (h : membersWithin? members depth = some entries) :
    membersWithin? (members.filter (kept p)) depth = some (entries.filter fun e => p e.1) := by
  induction members generalizing entries with
  | nil =>
    cases h
    rfl
  | cons member members ih =>
    obtain ⟨key, item⟩ := member
    rw [membersWithin?] at h
    obtain ⟨k, rfl, hitem⟩ := Option.bind_eq_some_iff.1 h
    obtain ⟨v, hv, hmembers⟩ := Option.bind_eq_some_iff.1 hitem
    obtain ⟨rest, hrest, rfl⟩ := Option.map_eq_some_iff.1 hmembers
    rw [List.filter_cons, List.filter_cons, kept, Option.any_some]
    split
    · rw [membersWithin?, Option.bind_some, hv, Option.bind_some, ih hrest, Option.map_some]
    · exact ih hrest

end Node

namespace Value

variable {text : String} {members : Table Value}

theorem value?_object (nodes : List (Option String × Node)) :
    (Node.object nodes).value? = (Node.membersWithin? nodes (Node.deepest - 1)).map fun entries =>
      .object (Table.ofEntries entries) := rfl

/-- A text is read to an object when it is the text of one, and its members have values. -/
theorem read?_eq_object_iff : read? text = some (.object members) ↔
    ∃ nodes entries, (Node.object nodes).Text text ∧
      Node.membersWithin? nodes (Node.deepest - 1) = some entries ∧ Table.ofEntries entries = members := by
  rw [read?, Option.bind_eq_some_iff]
  constructor
  · rintro ⟨node, hnode, hvalue⟩
    cases node with
    | object nodes =>
      rw [value?_object] at hvalue
      obtain ⟨entries, hentries, hobject⟩ := Option.map_eq_some_iff.1 hvalue
      exact ⟨nodes, entries, Node.read?_eq_some_iff.1 hnode, hentries, object.inj hobject⟩
    | array items => simp [Node.value?, Node.deepest, Node.valueWithin?] at hvalue
    | _ => simp [Node.value?, Node.valueWithin?] at hvalue
  · rintro ⟨nodes, entries, hnode, hentries, rfl⟩
    refine ⟨_, Node.read?_eq_some_iff.2 hnode, ?_⟩
    rw [value?_object, hentries, Option.map_some]

/-- **Members can be left out of an object**: some text is read to the others. -/
theorem exists_read?_filter (h : read? text = some (.object members)) (p : String → Bool) :
    ∃ text', read? text' = some (.object (members.filter fun m => p m.1)) := by
  obtain ⟨nodes, entries, hnodes, hentries, rfl⟩ := read?_eq_object_iff.1 h
  obtain ⟨text', htext'⟩ := Node.exists_text_filter hnodes (Node.kept p)
  exact ⟨text', read?_eq_object_iff.2
    ⟨_, _, htext', Node.membersWithin?_filter p hentries, (Table.ofEntries_filter p entries).symm⟩⟩

end Value

end Json

end CatalogLint
