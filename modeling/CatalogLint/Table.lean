/-
# Tables keyed by text

A table is a list of entries, ascending by key and with no key twice.  `insert` puts an entry in its
place and replaces the one that has its key; `get?` looks a key up.  Main facts: after an insertion
the new key has the new value (`get?_insert_self`) and every other key what it had
(`get?_insert_of_ne`), and insertion keeps the order (`insert_sorted`).  The distinct ones of some
texts are these texts, ascending (`mem_distinct`, `distinct_ascending`).
-/

namespace CatalogLint

/-- Entries in ascending order of their keys. -/
abbrev Table (α : Type) := List (String × α)

namespace Table

variable {α : Type}

/-- The value of a key. -/
def get? (t : Table α) (key : String) : Option α :=
  (t.find? fun e => e.1 == key).map Prod.snd

/-- The table with one entry put in its place. -/
def insert (key : String) (value : α) : Table α → Table α
  | [] => [(key, value)]
  | e :: t =>
    if key = e.1 then (key, value) :: t
    else if key < e.1 then (key, value) :: e :: t
    else e :: insert key value t

/-- The table of a list of entries, of which a later one replaces an earlier one. -/
def ofEntries (entries : List (String × α)) : Table α :=
  entries.foldl (fun t e => insert e.1 e.2 t) []

/-- The given texts in ascending order, each once. -/
def distinct (texts : List String) : List String :=
  (ofEntries (texts.map fun text => (text, ()))).map Prod.fst

/-- Keys ascend and none comes twice. -/
def Sorted (t : Table α) : Prop := t.Pairwise fun a b => a.1 < b.1

theorem get?_nil (key : String) : get? ([] : Table α) key = none := rfl

theorem get?_cons (e : String × α) (t : Table α) (key : String) :
    get? (e :: t) key = if e.1 = key then some e.2 else get? t key := by
  by_cases h : e.1 = key <;> simp [get?, h]

theorem mem_of_get? {t : Table α} {key : String} {a : α} (h : get? t key = some a) : (key, a) ∈ t := by
  obtain ⟨e, he, rfl⟩ := Option.map_eq_some_iff.1 h
  have hfound : (e.1 == key) = true := @List.find?_some _ (fun e => e.1 == key) e t he
  have hkey : e.1 = key := beq_iff_eq.1 hfound
  exact hkey ▸ List.mem_of_find?_eq_some he

theorem get?_insert_self (t : Table α) (key : String) (value : α) :
    get? (insert key value t) key = some value := by
  induction t with
  | nil => simp [insert, get?_cons]
  | cons e t ih =>
    unfold insert
    split
    · simp [get?_cons]
    · next h =>
      split
      · simp [get?_cons]
      · rw [get?_cons, if_neg (fun he => h he.symm), ih]

theorem get?_insert_of_ne {k key : String} (h : k ≠ key) (t : Table α) (value : α) :
    get? (insert key value t) k = get? t k := by
  induction t with
  | nil => simp [insert, get?_cons, get?_nil, h.symm]
  | cons e t ih =>
    unfold insert
    split
    · next he => simp [get?_cons, h.symm, ← he]
    · split
      · simp [get?_cons, h.symm]
      · rw [get?_cons, get?_cons, ih]

theorem mem_of_mem_insert {t : Table α} {key : String} {value : α} {e : String × α}
    (h : e ∈ insert key value t) : e = (key, value) ∨ e ∈ t := by
  induction t with
  | nil => simpa [insert] using h
  | cons a t ih =>
    unfold insert at h
    split at h
    · rcases List.mem_cons.1 h with h | h
      · exact .inl h
      · exact .inr (List.mem_cons_of_mem _ h)
    · split at h
      · exact List.mem_cons.1 h
      · rcases List.mem_cons.1 h with h | h
        · exact .inr (h ▸ List.mem_cons_self)
        · exact (ih h).imp id (List.mem_cons_of_mem _)

/-- A table has no entries but those that it is made of. -/
theorem mem_of_mem_ofEntries {entries : List (String × α)} {e : String × α}
    (h : e ∈ ofEntries entries) : e ∈ entries := by
  suffices key : ∀ t : Table α, e ∈ entries.foldl (fun t e => insert e.1 e.2 t) t →
      e ∈ t ∨ e ∈ entries from (key [] h).resolve_left List.not_mem_nil
  clear h
  induction entries with
  | nil => exact fun t ht => .inl ht
  | cons a es ih =>
    intro t ht
    rcases ih _ ht with hinsert | hes
    · rcases mem_of_mem_insert hinsert with rfl | ht
      · exact .inr List.mem_cons_self
      · exact .inl ht
    · exact .inr (List.mem_cons_of_mem a hes)

theorem insert_sorted {t : Table α} (h : Sorted t) (key : String) (value : α) :
    Sorted (insert key value t) := by
  induction t with
  | nil => exact List.pairwise_singleton _ _
  | cons a t ih =>
    obtain ⟨ha, ht⟩ := List.pairwise_cons.1 h
    unfold insert
    split
    · next he => exact List.pairwise_cons.2 ⟨fun b hb => by simpa [he] using ha b hb, ht⟩
    · next hne =>
      split
      · next hlt =>
        refine List.pairwise_cons.2 ⟨fun b hb => ?_, h⟩
        rcases List.mem_cons.1 hb with rfl | hb
        · exact hlt
        · exact String.lt_trans hlt (ha b hb)
      · next hnlt =>
        refine List.pairwise_cons.2 ⟨fun b hb => ?_, ih ht⟩
        rcases mem_of_mem_insert hb with rfl | hb
        · rcases Std.le_total (a := a.1) (b := key) with hle | hle
          · exact Std.lt_of_le_of_ne hle fun he => hne he.symm
          · exact absurd (Std.lt_of_le_of_ne hle hne) hnlt
        · exact ha b hb

theorem ofEntries_sorted (entries : List (String × α)) : Sorted (ofEntries entries) := by
  suffices h : ∀ t : Table α, Sorted t →
      Sorted (entries.foldl (fun t e => insert e.1 e.2 t) t) from h [] List.Pairwise.nil
  induction entries with
  | nil => exact fun t ht => ht
  | cons e es ih => exact fun t ht => ih _ (insert_sorted ht e.1 e.2)

theorem mem_keys_insert {t : Table α} {key : String} {value : α} {k : String} :
    k ∈ (insert key value t).map Prod.fst ↔ k = key ∨ k ∈ t.map Prod.fst := by
  induction t with
  | nil => simp [insert]
  | cons e t ih =>
    unfold insert
    split
    · next he => simp [he]
    · split
      · simp
      · rw [List.map_cons, List.mem_cons, ih, List.map_cons, List.mem_cons]
        exact or_left_comm

/-- A table has the keys of its entries. -/
theorem mem_keys_ofEntries {entries : List (String × α)} {k : String} :
    k ∈ (ofEntries entries).map Prod.fst ↔ k ∈ entries.map Prod.fst := by
  suffices h : ∀ t : Table α, k ∈ (entries.foldl (fun t e => insert e.1 e.2 t) t).map Prod.fst ↔
      k ∈ t.map Prod.fst ∨ k ∈ entries.map Prod.fst by
    simpa [ofEntries] using h []
  induction entries with
  | nil => simp
  | cons e es ih =>
    intro t
    rw [List.foldl_cons, ih, mem_keys_insert, List.map_cons, List.mem_cons]
    simp only [or_assoc, or_left_comm]

theorem mem_distinct {texts : List String} {text : String} :
    text ∈ distinct texts ↔ text ∈ texts := by
  simp [distinct, mem_keys_ofEntries, Function.comp_def]

theorem distinct_ascending (texts : List String) : (distinct texts).Pairwise (· < ·) :=
  List.pairwise_map.2 (ofEntries_sorted _)

end Table

end CatalogLint
