/-
# The names that accessors have

An accessor is put together in steps that undo one another in part: words are written small, then
some of them capital, then the head of a component small again, and the match key writes everything
small once more.  This module says what comes out of it, segment by segment and without the steps.

* `accessorOf` is the name of a key whose segments are written in a given way, each on its own.
* The match key of a key whose words begin with steady characters is made of its segments without
  underscores, in small letters (`toList_keyOf`): no capital leaves a trace, wherever a segment
  stands.
* Of a key in ASCII the accessor is known too.  `conventional` writes a segment, whatever the other
  segments are (`component_ascii`), and `naming_convention` joins both.
-/
import CatalogLint.Accessor
import CatalogLint.Proofs.List
import CatalogLint.Proofs.Text.LetterCase

namespace CatalogLint.Accessor

open Text

variable {separator c : Char} {cs key segment : List Char}

/-! ## 1. Pieces -/

theorem pieces_of_not_mem (h : separator ∉ cs) :
    pieces separator cs = if cs = [] then [] else [cs] := by
  rw [pieces, List.splitOn_eq_singleton h]
  cases cs <;> simp

theorem pieces_append_cons (separator : Char) (as bs : List Char) :
    pieces separator (as ++ separator :: bs) = pieces separator as ++ pieces separator bs := by
  rw [pieces, List.splitOn_append_cons_self, List.filter_append, pieces, pieces]

theorem flatten_pieces_of_not_mem (h : separator ∉ cs) : (pieces separator cs).flatten = cs := by
  rw [pieces_of_not_mem h]
  split
  · next hnil => rw [hnil, List.flatten_nil]
  · exact List.flatten_singleton

/-- The pieces are the text without its separators. -/
theorem flatten_pieces (separator : Char) (cs : List Char) :
    (pieces separator cs).flatten = cs.filter (· ≠ separator) := by
  induction cs using List.recOnSeparator separator with
  | whole cs h =>
    rw [flatten_pieces_of_not_mem h, eq_comm, List.filter_eq_self]
    intro c hc
    simpa using fun hceq : c = separator => h (hceq ▸ hc)
  | more as bs has ih =>
    have has' : as.filter (· ≠ separator) = as :=
      List.filter_eq_self.2 fun c hc => by simpa using fun hceq : c = separator => has (hceq ▸ hc)
    rw [pieces_append_cons, List.flatten_append, ih, flatten_pieces_of_not_mem has,
      List.filter_append, has']
    simp

theorem mem_of_mem_pieces {piece : List Char} (h : piece ∈ pieces separator cs) (hc : c ∈ piece) :
    c ∈ cs := by
  have hmem : c ∈ (pieces separator cs).flatten := List.mem_flatten.2 ⟨piece, h, hc⟩
  rw [flatten_pieces] at hmem
  exact (List.mem_filter.1 hmem).1

/-- A segment without its underscores. -/
def bare (segment : List Char) : List Char := segment.filter (· ≠ '_')

/-! ## 2. Match keys -/

/-- The name of a key whose segments are written in the given way. -/
def accessorOf (write : List Char → List Char) (key : List Char) : List Char :=
  scope ++ '.' :: ['.'].intercalate ((pieces '.' key).map write)

theorem accessorOf_congr {write write' : List Char → List Char}
    (h : ∀ segment ∈ pieces '.' key, write segment = write' segment) :
    accessorOf write key = accessorOf write' key := by
  rw [accessorOf, accessorOf, List.map_congr_left h]

/-- The characters with which the words of a key begin. -/
def initials (key : List Char) : List Char :=
  ((pieces '.' key).flatMap (pieces '_')).filterMap List.head?

theorem mem_initials_iff :
    c ∈ initials key ↔ ∃ segment ∈ pieces '.' key, ∃ word ∈ pieces '_' segment, word.head? = some c := by
  simp only [initials, List.mem_filterMap, List.mem_flatMap]
  constructor
  · rintro ⟨word, ⟨segment, hsegment, hword⟩, hc⟩
    exact ⟨segment, hsegment, word, hword, hc⟩
  · rintro ⟨segment, hsegment, word, hword, hc⟩
    exact ⟨word, ⟨segment, hsegment, hword⟩, hc⟩

/-- Case is a matter of single characters in a key: there is no capital sigma, which would look around,
and every word begins with a character that comes back from its capital. -/
structure SteadyWords (key : List Char) : Prop where
  noSigma : sigma ∉ key
  steady : ∀ c ∈ initials key, Steady c

theorem steadyWords_ascii (h : ∀ c ∈ key, c.toNat < 0x80) : SteadyWords key where
  noSigma hmem := ne_sigma_of_ascii (h _ hmem) rfl
  steady c hc := by
    obtain ⟨segment, hsegment, word, hword, hc⟩ := mem_initials_iff.1 hc
    exact steady_ascii (h c (mem_of_mem_pieces hsegment
      (mem_of_mem_pieces hword (List.mem_of_mem_head? hc))))

/-- Words that are written small and capital, and run together, have the small form of the words. -/
theorem smallForm_capitalWords {words : List (List Char)} (hsigma : ∀ word ∈ words, sigma ∉ word)
    (h : ∀ word ∈ words, ∀ c ∈ word.head?, Steady c) :
    SmallForm (words.flatMap capitalWord) (words.flatten.flatMap small) := by
  induction words with
  | nil => exact ⟨List.not_mem_nil, rfl⟩
  | cons word words ih =>
    obtain ⟨hword, hwords⟩ := List.forall_mem_cons.1 hsigma
    obtain ⟨hsteady, hsteadies⟩ := List.forall_mem_cons.1 h
    rw [List.flatMap_cons, List.flatten_cons, List.flatMap_append, capitalWord, lower,
      lowerFrom_eq_flatMap hword]
    exact (SmallForm.capitalize hsteady).append (ih hwords hsteadies)

/-- **A component has the small form of its segment**, underscores apart. -/
theorem smallForm_component (several : Bool) (hsigma : sigma ∉ segment)
    (h : ∀ word ∈ pieces '_' segment, ∀ c ∈ word.head?, Steady c) :
    SmallForm (component several segment) (lower (bare segment)) := by
  have hbare : sigma ∉ bare segment := fun hmem => hsigma (List.mem_of_mem_filter hmem)
  rw [lower, lowerFrom_eq_flatMap hbare, component, bare, ← flatten_pieces, camel]
  have hwords : ∀ word ∈ pieces '_' segment, sigma ∉ word := fun word hword hmem =>
    hsigma (mem_of_mem_pieces hword hmem)
  generalize pieces '_' segment = words at h hwords
  refine SmallForm.uncapitalize ?_
  cases words with
  | nil => exact ⟨List.not_mem_nil, rfl⟩
  | cons word words =>
    obtain ⟨hword, hwords⟩ := List.forall_mem_cons.1 hwords
    obtain ⟨hsteady, hsteadies⟩ := List.forall_mem_cons.1 h
    dsimp only
    rw [List.flatten_cons, List.flatMap_append, capitalWord, lower, lowerFrom_eq_flatMap hword]
    refine SmallForm.append ?_ (smallForm_capitalWords hwords hsteadies)
    split
    · exact SmallForm.capitalize hsteady
    · exact SmallForm.flatMap_small word

theorem smallForm_intercalate {parts : List (List Char)} {write : List Char → List Char}
    {form : List Char → List Char} (h : ∀ part ∈ parts, SmallForm (write part) (form part)) :
    SmallForm (['.'].intercalate (parts.map write)) (['.'].intercalate (parts.map form)) := by
  have hdot : SmallForm ['.'] ['.'] := ⟨by decide, by decide⟩
  induction parts with
  | nil => exact ⟨List.not_mem_nil, rfl⟩
  | cons part parts ih =>
    obtain ⟨hpart, hparts⟩ := List.forall_mem_cons.1 h
    cases parts with
    | nil => simpa using hpart
    | cons next parts =>
      have hrest := ih hparts
      simp only [List.map_cons, List.intercalate_cons_cons] at hrest ⊢
      exact (hpart.append hdot).append hrest

/-- **The match key has its segments without underscores, in small letters**, and nothing else of the
key, if its words are steady. -/
theorem toList_keyOf {key : String} (h : SteadyWords key.toList) :
    (keyOf key).toList = accessorOf (fun segment => lower (bare segment)) key.toList := by
  have hcomponents : ∀ segment ∈ pieces '.' key.toList, SmallForm _ _ := fun segment hsegment =>
    smallForm_component (1 < (pieces '.' key.toList).length)
      (fun hmem => h.noSigma (mem_of_mem_pieces hsegment hmem))
      fun word hword c hc => h.steady c (mem_initials_iff.2 ⟨segment, hsegment, word, hword, hc⟩)
  have hscope : SmallForm (scope ++ ['.']) (scope ++ ['.']) := ⟨by decide, by decide⟩
  have hkey := hscope.append (smallForm_intercalate hcomponents)
  rw [List.append_assoc, List.append_assoc] at hkey
  rw [keyOf, matchKey, String.toList_ofList, toList_ofKey, components_eq]
  exact hkey.lower_eq

/-! ## 3. ASCII -/

/-- A word with a capital, in ASCII. -/
def titled : List Char → List Char
  | [] => []
  | c :: cs => c.toUpper :: cs.map Char.toLower

/-- A segment as the convention writes it, in ASCII: the first word in small letters, then every
further word with a capital. -/
def conventional (segment : List Char) : List Char :=
  match pieces '_' segment with
  | [] => []
  | word :: words => word.map Char.toLower ++ words.flatMap titled

theorem capitalWord_ascii {word : List Char} (h : ∀ c ∈ word, c.toNat < 0x80) :
    capitalWord word = titled word := by
  rw [capitalWord, lower_ascii h]
  cases word with
  | nil => rfl
  | cons c cs =>
    rw [List.map_cons, capitalize, capital_ascii (toNat_toLower_lt (h c List.mem_cons_self)),
      Char.toUpper_toLower_eq_toUpper]
    rfl

/-- **A component is its segment as the convention writes it**, whether or not there are others: the
head of the first word is small again after it was capital. -/
theorem component_ascii (several : Bool) (h : ∀ c ∈ segment, c.toNat < 0x80) :
    component several segment = conventional segment := by
  have hwords : ∀ word ∈ pieces '_' segment, ∀ c ∈ word, c.toNat < 0x80 := fun word hword c hc =>
    h c (mem_of_mem_pieces hword hc)
  have hne : ∀ word ∈ pieces '_' segment, word ≠ [] := fun word hword => by
    simpa using (List.mem_filter.1 hword).2
  rw [component, camel, conventional]
  generalize pieces '_' segment = words at hwords hne
  cases words with
  | nil => rfl
  | cons word words =>
    obtain ⟨hword, hrest⟩ := List.forall_mem_cons.1 hwords
    obtain ⟨c, cs, rfl⟩ := List.exists_cons_of_ne_nil (hne word List.mem_cons_self)
    have hc := hword c List.mem_cons_self
    have htitled : words.flatMap capitalWord = words.flatMap titled :=
      List.flatMap_congr fun other hother => capitalWord_ascii (hrest other hother)
    dsimp only
    rw [htitled]
    split
    · rw [capitalWord_ascii hword, titled, List.cons_append, uncapitalize,
        small_ascii (toNat_toUpper_lt hc), Char.toLower_toUpper_eq_toLower]
      rfl
    · rw [lower_ascii hword, List.map_cons, List.cons_append, uncapitalize,
        small_ascii (toNat_toLower_lt hc), Char.toLower_toLower_eq_toLower]
      rfl

/-- **The accessor follows the naming convention**, and its match key the canonical text of the key.
Each segment of a key in ASCII is written by itself, wherever it stands; a segment without words
leaves an empty component.  The match key has the segments in small letters without underscores, so
that two keys match when these canonical texts are equal, and no others do. -/
theorem naming_convention {key other : String} (h : ∀ c ∈ key.toList, c.toNat < 0x80)
    (hother : ∀ c ∈ other.toList, c.toNat < 0x80) :
    (ofKey key).toList = accessorOf conventional key.toList ∧
      (keyOf key).toList =
        accessorOf (fun segment => (bare segment).map Char.toLower) key.toList ∧
      (keyOf key = keyOf other ↔
        accessorOf (fun segment => (bare segment).map Char.toLower) key.toList =
          accessorOf (fun segment => (bare segment).map Char.toLower) other.toList) := by
  have hcanonical : ∀ {key : String}, (∀ c ∈ key.toList, c.toNat < 0x80) →
      (keyOf key).toList =
        accessorOf (fun segment => (bare segment).map Char.toLower) key.toList := by
    intro key h
    rw [toList_keyOf (steadyWords_ascii h)]
    refine accessorOf_congr fun segment hsegment => lower_ascii fun c hc => h c ?_
    exact mem_of_mem_pieces hsegment (List.mem_of_mem_filter hc)
  refine ⟨?_, hcanonical h, ?_⟩
  · rw [toList_ofKey, components_eq, accessorOf, List.map_congr_left fun segment hsegment =>
      component_ascii _ fun c hc => h c (mem_of_mem_pieces hsegment hc)]
  · rw [← hcanonical h, ← hcanonical hother, String.toList_inj]

/-- Empty segments and underscores in front, and a word that begins with a digit. -/
theorem naming_convention_digits :
    (∀ c ∈ "..EMPTY_STATE._1ST__bAG".toList, c.toNat < 0x80) ∧
      (∀ c ∈ "emptySTATE.1stBag.".toList, c.toNat < 0x80) ∧
      ofKey "..EMPTY_STATE._1ST__bAG" = "l10n.emptyState.1stBag" ∧
      keyOf "..EMPTY_STATE._1ST__bAG" = keyOf "emptySTATE.1stBag." := by
  have hkey : ∀ c ∈ "..EMPTY_STATE._1ST__bAG".toList, c.toNat < 0x80 := by
    simp
  have hother : ∀ c ∈ "emptySTATE.1stBag.".toList, c.toNat < 0x80 := by
    simp
  obtain ⟨haccessor, -, hmatch⟩ := naming_convention hkey hother
  refine ⟨hkey, hother, ?_, hmatch.2 (by decide +kernel)⟩
  rw [← String.toList_inj, haccessor]
  decide +kernel

end CatalogLint.Accessor
