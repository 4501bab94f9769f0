/-
# Keys in another style

A key may be declared in capitals or in small letters, with underscores between its words or without
them.  The cross reference is meant to look past that: what is exempt or used in one style is so in
every other.  This module says how far it does.

* Keys that have the same small form have the same accessor (`ofKey_eq_of_lower_eq`), as long as no
  capital sigma sees past a dot: the accessor is written small word by word, and the small form of a
  sigma may be another once the dot is gone.
* Keys that differ by underscores have the same match key (`keyOf_eq_of_respelled`), as long as words
  begin with characters that come back from their capital: an underscore makes the next word capital
  before all is written small.
* `Restyled` is both, and `keyOf_restyled` says that the match key and the report do not tell two
  such keys apart.  Without the two conditions they do (`style_shows`).
-/
import CatalogLint.Proofs.Accessor.Convention
import CatalogLint.Proofs.CrossReference.Growth

namespace CatalogLint

open Text

namespace Accessor

variable {separator : Char} {cs key key' segment segment' : List Char}

/-! ## 1. Casing -/

theorem lower_eq_nil_iff : lower cs = [] ↔ cs = [] := by
  cases cs with
  | nil => exact ⟨fun _ => rfl, fun _ => rfl⟩
  | cons c cs =>
    have hne : (if c = sigma then [smallSigma [] cs] else small c) ≠ [] := by
      split
      · exact List.cons_ne_nil _ _
      · exact small_ne_nil c
    simp [lower, lowerFrom, hne]

theorem pieces_lower_of_not_mem (hseparator : IsSeparator separator) (h : separator ∉ cs) :
    pieces separator (lower cs) = (pieces separator cs).map lower := by
  have hlower : separator ∉ lower cs := (mem_lowerFrom_iff hseparator [] cs).not.2 h
  rw [pieces_of_not_mem h, pieces_of_not_mem hlower]
  by_cases hnil : cs = []
  · rw [if_pos hnil, if_pos (lower_eq_nil_iff.2 hnil), List.map_nil]
  · rw [if_neg hnil, if_neg (mt lower_eq_nil_iff.1 hnil), List.map_singleton]

/-- **The pieces of a text are written small one by one**, if its sigmas do not see past separators.
The condition `P` says so of the text and is handed down to the part behind a separator. -/
theorem pieces_lower (hseparator : IsSeparator separator) {P : List Char → Prop}
    (hstep : ∀ as bs, P (as ++ separator :: bs) →
      lower (as ++ separator :: bs) = lower as ++ separator :: lower bs ∧ P bs) (h : P cs) :
    pieces separator (lower cs) = (pieces separator cs).map lower := by
  induction cs using List.recOnSeparator separator with
  | whole cs hcs => exact pieces_lower_of_not_mem hseparator hcs
  | more as bs has ih =>
    obtain ⟨happend, hbs⟩ := hstep as bs h
    rw [happend, pieces_append_cons, pieces_append_cons, List.map_append, ih hbs,
      pieces_lower_of_not_mem hseparator has]

theorem words_lower (segment : List Char) :
    pieces '_' (lower segment) = (pieces '_' segment).map lower :=
  pieces_lower (.inr rfl) (P := fun _ => True)
    (fun as bs _ => ⟨lower_append_underscore as bs, trivial⟩) trivial

theorem segments_lower (h : DotsUnseen key) :
    pieces '.' (lower key) = (pieces '.' key).map lower :=
  pieces_lower (.inl rfl) (fun _ _ h => ⟨lower_append_dot h, h.of_append_cons.2⟩) h

/-- A component depends on the small form of its segment. -/
theorem component_congr (several : Bool) (h : lower segment = lower segment') :
    component several segment = component several segment' := by
  have hwords : (pieces '_' segment).map lower = (pieces '_' segment').map lower := by
    rw [← words_lower, ← words_lower, h]
  have hcapital (words : List (List Char)) :
      words.flatMap capitalWord = (words.map lower).flatMap capitalize := by
    rw [List.flatMap_map]
    rfl
  rw [component, component, camel, camel]
  generalize pieces '_' segment = words at hwords
  generalize pieces '_' segment' = words' at hwords
  cases words with
  | nil =>
    obtain rfl : words' = [] := List.map_eq_nil_iff.1 hwords.symm
    rfl
  | cons word words =>
    cases words' with
    | nil => simp at hwords
    | cons word' words' =>
      obtain ⟨hword, hrest⟩ := List.cons.inj hwords
      have hfirst : capitalWord word = capitalWord word' := congrArg capitalize hword
      dsimp only
      rw [hfirst, hword, hcapital, hrest, ← hcapital]

/-- So do the components of several segments. -/
theorem map_component_congr (several : Bool) {segments segments' : List (List Char)}
    (h : segments.map lower = segments'.map lower) :
    segments.map (component several) = segments'.map (component several) := by
  induction segments generalizing segments' with
  | nil =>
    obtain rfl : segments' = [] := List.map_eq_nil_iff.1 h.symm
    rfl
  | cons segment segments ih =>
    cases segments' with
    | nil => simp at h
    | cons segment' segments' =>
      obtain ⟨hsegment, hrest⟩ := List.cons.inj h
      rw [List.map_cons, List.map_cons, component_congr several hsegment, ih hrest]

/-- **Keys with the same small form have the same accessor**, if no sigma sees past a dot. -/
theorem ofKey_eq_of_lower_eq {key key' : String} (h : lower key.toList = lower key'.toList)
    (hdots : DotsUnseen key.toList) (hdots' : DotsUnseen key'.toList) : ofKey key = ofKey key' := by
  have hsegments : (pieces '.' key.toList).map lower = (pieces '.' key'.toList).map lower := by
    rw [← segments_lower hdots, ← segments_lower hdots', h]
  have hlength : (pieces '.' key.toList).length = (pieces '.' key'.toList).length := by
    simpa using congrArg List.length hsegments
  rw [← String.toList_inj, toList_ofKey, toList_ofKey, components_eq, components_eq, hlength,
    map_component_congr _ hsegments]

/-! ## 2. Underscores -/

/-- The same segment, or the same but for underscores that stand between or around other characters. -/
def SameLetters (segment segment' : List Char) : Prop :=
  segment = segment' ∨ bare segment = bare segment' ∧ bare segment ≠ []

instance (segment segment' : List Char) : Decidable (SameLetters segment segment') :=
  inferInstanceAs (Decidable (segment = segment' ∨ bare segment = bare segment' ∧ bare segment ≠ []))

/-- The same key, but for underscores in segments that have other characters. -/
def Respelled (key key' : List Char) : Prop :=
  List.Forall₂ SameLetters (key.splitOn '.') (key'.splitOn '.')

instance (key key' : List Char) : Decidable (Respelled key key') :=
  inferInstanceAs (Decidable (List.Forall₂ SameLetters (key.splitOn '.') (key'.splitOn '.')))

theorem SameLetters.isEmpty_eq (h : SameLetters segment segment') :
    segment.isEmpty = segment'.isEmpty := by
  rcases h with rfl | ⟨hbare, hne⟩
  · rfl
  · have hsegment : segment ≠ [] := by
      rintro rfl
      exact hne rfl
    have hsegment' : segment' ≠ [] := by
      rintro rfl
      exact hne hbare
    rw [List.isEmpty_eq_false_iff.2 hsegment, List.isEmpty_eq_false_iff.2 hsegment']

theorem SameLetters.bare_eq (h : SameLetters segment segment') : bare segment = bare segment' := by
  rcases h with rfl | ⟨hbare, -⟩
  · rfl
  · exact hbare

/-- A key that is respelled has the same segments, underscores apart. -/
theorem Respelled.map_bare_eq (h : Respelled key key') :
    (pieces '.' key).map bare = (pieces '.' key').map bare := by
  rw [Respelled] at h
  rw [pieces, pieces]
  generalize key.splitOn '.' = segments at h
  generalize key'.splitOn '.' = segments' at h
  induction h with
  | nil => rfl
  | @cons segment segment' segments segments' hsegment _ ih =>
    rw [List.filter_cons, List.filter_cons, hsegment.isEmpty_eq]
    split
    · rw [List.map_cons, List.map_cons, ih, hsegment.bare_eq]
    · exact ih

/-- **Keys that differ by underscores have the same match key**, if their words are steady. -/
theorem keyOf_eq_of_respelled {key key' : String} (h : Respelled key.toList key'.toList)
    (hwords : SteadyWords key.toList) (hwords' : SteadyWords key'.toList) :
    keyOf key = keyOf key' := by
  have hforms : (pieces '.' key.toList).map (fun segment => lower (bare segment)) =
      (pieces '.' key'.toList).map fun segment => lower (bare segment) := by
    have hlower := congrArg (List.map lower) h.map_bare_eq
    rwa [List.map_map, List.map_map] at hlower
  rw [← String.toList_inj, toList_keyOf hwords, toList_keyOf hwords', accessorOf, accessorOf, hforms]

/-! ## 3. Both -/

/-- Two keys in different styles: in other casing, or with underscores in other places. -/
inductive Restyled (key key' : String) : Prop
  /-- They have the same small form, and no sigma sees past a dot. -/
  | recased (h : lower key.toList = lower key'.toList) (hdots : DotsUnseen key.toList)
    (hdots' : DotsUnseen key'.toList)
  /-- They differ by underscores, and words begin with characters that come back from their
  capital. -/
  | respelled (h : Respelled key.toList key'.toList) (hwords : SteadyWords key.toList)
    (hwords' : SteadyWords key'.toList)

end Accessor

namespace CrossReference

/-- The key is used by some file, or the configuration or some file exempts it. -/
def Spared (x : CrossReference) (files : List SourceFile) (key : String) : Prop :=
  x.Used files (Accessor.keyOf key) ∨ key ∈ x.ignored ∨ key ∈ x.inProgress ∨
    ∃ contents ∈ x.ignoreFiles.parsed files, ∃ e ∈ contents.keys, e.key = key

theorem Spared.live {x : CrossReference} {files : List SourceFile} {key : String}
    (h : x.Spared files key) : x.Live files (Accessor.keyOf key) := by
  rcases h with hused | hignored | hprogress | ⟨contents, hcontents, e, he, rfl⟩
  · exact .inl hused
  · exact .inr (.inl ⟨key, hignored, rfl⟩)
  · exact .inr (.inr (.inl ⟨key, hprogress, rfl⟩))
  · exact .inr (.inr (.inr ⟨contents, hcontents, e, he, rfl⟩))

end CrossReference

namespace Accessor

/-- **Style does not matter.**  A key and the same key in another style have the same match key, and
hence no declaration of the one is reported as unused when the other is used or exempt. -/
theorem keyOf_restyled {key key' : String} (h : Restyled key key') :
    keyOf key = keyOf key' ∧
      ∀ (x : CrossReference) (files : List SourceFile), x.Spared files key →
        ∀ place, x.violation (.unused key') place ∉ x.violations files := by
  have hkey : keyOf key = keyOf key' := by
    rcases h with ⟨h, hdots, hdots'⟩ | ⟨h, hwords, hwords'⟩
    · exact congrArg matchKey (ofKey_eq_of_lower_eq h hdots hdots')
    · exact keyOf_eq_of_respelled h hwords hwords'
  refine ⟨hkey, fun x files hspared place => List.count_eq_zero.1 ?_⟩
  rw [CrossReference.count_unused, if_neg]
  rintro ⟨-, hdead⟩
  exact hdead (hkey ▸ hspared.live)

/-- A key in German in other casing, and a key in German and Greek with underscores inside its words. -/
theorem keyOf_restyled_respelled :
    Restyled "MAß_Über.TITEL" "mAß_ÜBER.Titel" ∧ keyOf "MAß_Über.TITEL" = keyOf "mAß_ÜBER.Titel" ∧
      Restyled "FUSSBALL__Maß.ΚΑΛΑΘΙ" "_FUSS_BALL_Maß.ΚΑΛ_ΑΘΙ" ∧
      keyOf "FUSSBALL__Maß.ΚΑΛΑΘΙ" = keyOf "_FUSS_BALL_Maß.ΚΑΛ_ΑΘΙ" := by
  have hrecased : Restyled "MAß_Über.TITEL" "mAß_ÜBER.Titel" :=
    .recased (by decide +kernel) (dotsUnseen_of_not_mem (by decide +kernel))
      (dotsUnseen_of_not_mem (by decide +kernel))
  have hgreek : Steady 'Κ' ∧ Steady 'Α' := by decide +kernel
  have hinitials : initials "FUSSBALL__Maß.ΚΑΛΑΘΙ".toList = ['F', 'M', 'Κ'] := by decide +kernel
  have hinitials' : initials "_FUSS_BALL_Maß.ΚΑΛ_ΑΘΙ".toList = ['F', 'B', 'M', 'Κ', 'Α'] := by
    decide +kernel
  have hrespelled : Restyled "FUSSBALL__Maß.ΚΑΛΑΘΙ" "_FUSS_BALL_Maß.ΚΑΛ_ΑΘΙ" := by
    refine .respelled (by decide +kernel) ⟨by decide +kernel, ?_⟩ ⟨by decide +kernel, ?_⟩
    · rw [hinitials]
      simp [hgreek, steady_ascii]
    · rw [hinitials']
      simp [hgreek, steady_ascii]
  exact ⟨hrecased, (keyOf_restyled hrecased).1, hrespelled, (keyOf_restyled hrespelled).1⟩

/-- **Style shows** where the two conditions are not met.  A sigma in front of a dot ends its segment, but
not the key; and a sharp s has a capital form of its own behind an underscore. -/
theorem style_shows :
    (lower "AΣ.B".toList = lower "aσ.b".toList ∧ keyOf "AΣ.B" ≠ keyOf "aσ.b") ∧
      Respelled "A_ß".toList "Aß".toList ∧ keyOf "A_ß" ≠ keyOf "Aß" := by
  refine ⟨⟨?_, ?_⟩, ?_, ?_⟩ <;> decide +kernel

end Accessor

end CatalogLint
