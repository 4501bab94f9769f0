/-
# Spellings of a path

Two texts have the same parts exactly when one can be turned into the other by adding and leaving out
what says nothing: a separator beside another, a `.` between separators or at the end, and a separator
at the end.  So `Path.compare` answers `eq` for spellings of one path and for no other texts.

* `Shortens` leaves out one such character, and `Respelled` is the equivalence that it generates.
* Leaving one out keeps the parts (`Shortens.parts_eq`): between two separators nothing or a `.` is no
  part, and whether the path starts at the root can be told as before.
* Every text can be respelt as the join of its parts (`respelled_spell`), by induction on what stands
  between its separators.  Texts with the same parts have the same join, hence `parts_eq_iff`.
-/
import CatalogLint.Path
import Mathlib.Logic.Relation

namespace CatalogLint.Path

/-! ## 1. What says nothing -/

/-- `Shortens xs ys`: the text `ys` is `xs` without one character that says nothing. -/
inductive Shortens : List Char → List Char → Prop
  /-- A separator behind another. -/
  | doubled (xs ys : List Char) : Shortens (xs ++ '/' :: '/' :: ys) (xs ++ '/' :: ys)
  /-- A `.` behind a separator, before another or the end. -/
  | dot (xs : List Char) {ys : List Char} (h : ∀ c ∈ ys.head?, c = '/') :
      Shortens (xs ++ '/' :: '.' :: ys) (xs ++ '/' :: ys)
  /-- A separator at the end of a text that is not only this separator. -/
  | trailing {xs : List Char} (h : xs ≠ []) : Shortens (xs ++ ['/']) xs

/-- Whether two texts are spellings of one path. -/
def Respelled (p q : String) : Prop := Relation.EqvGen Shortens p.toList q.toList

/-! ## 2. Parts from what stands between separators -/

/-- The parts of a path by what stands between its separators. -/
def partsOf : List (List Char) → List Part
  | [] :: w :: ws => .root :: (w :: ws).filterMap part?
  | ['.'] :: ws => .current :: ws.filterMap part?
  | ws => ws.filterMap part?

theorem parts_eq_partsOf (path : String) : parts path = partsOf (path.toList.splitOn '/') := rfl

theorem filterMap_part?_nil (ws : List (List Char)) :
    ([] :: ws).filterMap part? = ws.filterMap part? := rfl

/-- What stands first is a part of its own kind; of what stands behind it, only the parts count, and
whether there is anything if nothing stands first. -/
theorem partsOf_congr {w : List Char} {us vs : List (List Char)}
    (hempty : w = [] → (us = [] ↔ vs = [])) (hparts : us.filterMap part? = vs.filterMap part?) :
    partsOf (w :: us) = partsOf (w :: vs) := by
  by_cases hw : w = []
  · subst hw
    cases us with
    | nil => rw [(hempty rfl).1 rfl]
    | cons u us =>
      cases vs with
      | nil => exact absurd ((hempty rfl).2 rfl) (List.cons_ne_nil u us)
      | cons v vs => exact congrArg (Part.root :: ·) hparts
  · by_cases hdot : w = ['.']
    · subst hdot
      exact congrArg (Part.current :: ·) hparts
    · have hother : ∀ ws, partsOf (w :: ws) = (w :: ws).filterMap part? := by
        intro ws
        unfold partsOf
        split
        · next h => exact absurd (List.cons.inj h).1 hw
        · next h => exact absurd (List.cons.inj h).1 hdot
        · rfl
      rw [hother, hother, List.filterMap_cons, List.filterMap_cons, hparts]

/-- **A character that says nothing may be left out.** -/
theorem Shortens.partsOf_eq {xs ys : List Char} (h : Shortens xs ys) :
    partsOf (xs.splitOn '/') = partsOf (ys.splitOn '/') := by
  cases h with
  | doubled xs ys =>
    obtain ⟨w, ws, hsplit⟩ := List.exists_cons_of_ne_nil (List.splitOn_ne_nil '/' xs)
    rw [List.splitOn_append_cons_self, List.splitOn_append_cons_self, hsplit]
    refine partsOf_congr (fun _ => by simp) ?_
    simp [List.splitOn_cons_eq_if_modifyHead, filterMap_part?_nil]
  | @dot xs ys h =>
    obtain ⟨w, ws, hsplit⟩ := List.exists_cons_of_ne_nil (List.splitOn_ne_nil '/' xs)
    rw [List.splitOn_append_cons_self, List.splitOn_append_cons_self, hsplit]
    refine partsOf_congr (fun _ => by simp) ?_
    cases ys with
    | nil => simp [List.splitOn_cons_eq_if_modifyHead, part?]
    | cons c ys =>
      obtain rfl : c = '/' := h c rfl
      simp [List.splitOn_cons_eq_if_modifyHead, filterMap_part?_nil, part?]
  | trailing h =>
    obtain ⟨w, ws, hsplit⟩ := List.exists_cons_of_ne_nil (List.splitOn_ne_nil '/' ys)
    rw [List.splitOn_append_cons_self, hsplit]
    refine partsOf_congr (fun hw => ?_) (by simp [part?])
    subst hw
    -- a text that has no separator and is not empty does not begin with an empty piece
    have hws : ws ≠ [] := by
      rintro rfl
      have htext : ['/'].intercalate (ys.splitOn '/') = ys := List.intercalate_splitOn '/'
      rw [hsplit] at htext
      exact h htext.symm
    simp [hws]

/-! ## 3. The join of the parts -/

/-- The text of a part. -/
def Part.text : Part → List Char
  | .root => []
  | .current => ['.']
  | .parent => ['.', '.']
  | .named name => name.toList

/-- What follows the first part: a separator before each further one. -/
def following (ws : List (List Char)) : List Char := ws.flatMap fun w => '/' :: w

/-- The text of parts, with one separator between two of them. -/
def spell : List Part → List Char
  | [] => []
  | [.root] => ['/']
  | p :: ps => p.text ++ following (ps.map Part.text)

theorem intercalate_eq (w : List Char) (ws : List (List Char)) :
    ['/'].intercalate (w :: ws) = w ++ following ws := by
  induction ws generalizing w with
  | nil => simp [following]
  | cons v ws ih => rw [List.intercalate_cons_cons, ih]; simp [following]

/-- A piece that is a part is the text of this part. -/
theorem text_of_part? {w : List Char} {p : Part} (h : part? w = some p) : p.text = w := by
  unfold part? at h
  split at h
  · cases h
  · cases h
  · cases h; rfl
  · cases h; simp [Part.text]

theorem ne_root_of_part? {w : List Char} {p : Part} (h : part? w = some p) : p ≠ .root := by
  rintro rfl
  unfold part? at h
  split at h <;> cases h

theorem spell_cons {p : Part} (h : p ≠ .root) (ps : List Part) :
    spell (p :: ps) = p.text ++ following (ps.map Part.text) := by
  cases p with
  | root => exact absurd rfl h
  | current => rfl
  | parent => rfl
  | named name => rfl

/-- A piece that is no part is empty or a `.`. -/
theorem eq_of_part?_eq_none {w : List Char} (h : part? w = none) : w = [] ∨ w = ['.'] := by
  unfold part? at h
  split at h
  · exact .inl rfl
  · exact .inr rfl
  · cases h
  · cases h

/-! ## 4. Respelling -/

/-- A separator at the end of a text, or before another separator, may be left out. -/
theorem respelled_separator {xs : List Char} (hxs : xs ≠ []) (ws : List (List Char)) :
    Relation.EqvGen Shortens (xs ++ '/' :: following ws) (xs ++ following ws) := by
  cases ws with
  | nil => simpa [following] using Relation.EqvGen.rel _ _ (Shortens.trailing hxs)
  | cons w ws => exact .rel _ _ (.doubled xs _)

/-- A piece that is no part leaves a separator behind it. -/
theorem respelled_no_part {w : List Char} (hw : part? w = none) (xs : List Char)
    (ws : List (List Char)) :
    Relation.EqvGen Shortens (xs ++ following (w :: ws)) (xs ++ '/' :: following ws) := by
  rcases eq_of_part?_eq_none hw with rfl | rfl
  · exact .refl _
  · refine .rel _ _ (.dot xs fun c hc => ?_)
    cases ws with
    | nil => cases hc
    | cons v vs => exact (Option.some_inj.1 hc).symm

/-- **Behind a text that is not empty only the parts count.** -/
theorem respelled_following {xs : List Char} (hxs : xs ≠ []) (ws : List (List Char)) :
    Relation.EqvGen Shortens (xs ++ following ws)
      (xs ++ following ((ws.filterMap part?).map Part.text)) := by
  induction ws generalizing xs with
  | nil => exact .refl _
  | cons w ws ih =>
    cases hw : part? w with
    | none =>
      rw [List.filterMap_cons_none hw]
      exact ((respelled_no_part hw xs ws).trans _ _ _ (respelled_separator hxs ws)).trans _ _ _
        (ih hxs)
    | some p =>
      rw [List.filterMap_cons_some hw, List.map_cons, text_of_part? hw]
      have hcons : xs ++ '/' :: w ≠ [] := by simp
      have hpiece := ih hcons
      simpa [following] using hpiece

/-- What begins with a separator is respelt as a path from the root. -/
theorem respelled_root {ws : List (List Char)} (hws : ws ≠ []) :
    Relation.EqvGen Shortens (following ws) (spell (.root :: ws.filterMap part?)) := by
  induction ws with
  | nil => exact absurd rfl hws
  | cons w ws ih =>
    cases hw : part? w with
    | none =>
      rw [List.filterMap_cons_none hw]
      have hpiece := respelled_no_part hw [] ws
      cases ws with
      | nil => exact hpiece
      | cons v vs =>
        exact (hpiece.trans _ _ _ (.rel _ _ (.doubled [] _))).trans _ _ _ (ih (List.cons_ne_nil v vs))
    | some p =>
      rw [List.filterMap_cons_some hw]
      have hpiece := respelled_following (List.cons_ne_nil '/' w) ws
      rw [← text_of_part? hw] at hpiece ⊢
      exact hpiece

/-- **Every text is respelt as the join of its parts.** -/
theorem respelled_spell (w : List Char) (ws : List (List Char)) :
    Relation.EqvGen Shortens (w ++ following ws) (spell (partsOf (w :: ws))) := by
  unfold partsOf
  split
  · next v vs h =>
    obtain ⟨rfl, rfl⟩ := List.cons.inj h
    exact respelled_root (List.cons_ne_nil v vs)
  · next h =>
    obtain ⟨rfl, rfl⟩ := List.cons.inj h
    exact respelled_following (List.cons_ne_nil _ _) _
  · next hroot hcurrent =>
    cases hw : part? w with
    | none =>
      -- only the empty text has a first piece that is no part
      rcases eq_of_part?_eq_none hw with rfl | rfl
      · cases ws with
        | nil => exact .refl _
        | cons v vs => exact absurd rfl (hroot v vs)
      · exact absurd rfl (hcurrent ws)
    | some p =>
      have hne : w ≠ [] := by
        rintro rfl
        cases hw
      rw [List.filterMap_cons_some hw, spell_cons (ne_root_of_part? hw), text_of_part? hw]
      exact respelled_following hne ws

/-- **Paths have the same parts exactly when they are spellings of one path.** -/
theorem parts_eq_iff {p q : String} : parts p = parts q ↔ Respelled p q := by
  constructor
  · intro h
    have hjoin : ∀ path : String,
        Relation.EqvGen Shortens path.toList (spell (parts path)) := by
      intro path
      obtain ⟨w, ws, hsplit⟩ := List.exists_cons_of_ne_nil (List.splitOn_ne_nil '/' path.toList)
      have htext : ['/'].intercalate (path.toList.splitOn '/') = path.toList :=
        List.intercalate_splitOn '/'
      rw [hsplit, intercalate_eq] at htext
      rw [parts_eq_partsOf, hsplit, ← htext]
      exact respelled_spell w ws
    exact (hjoin p).trans _ _ _ (h ▸ (hjoin q).symm)
  · intro h
    rw [parts_eq_partsOf, parts_eq_partsOf]
    rw [Respelled] at h
    generalize p.toList = xs at h
    generalize q.toList = ys at h
    induction h with
    | rel xs ys h => exact h.partsOf_eq
    | refl xs => rfl
    | symm xs ys _ ih => exact ih.symm
    | trans xs ys zs _ _ ih ih' => exact ih.trans ih'

end CatalogLint.Path
