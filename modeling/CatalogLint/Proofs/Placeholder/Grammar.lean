/-
# The grammar of placeholders

What a percent sign may start is said here by rules that leave open in which order their optional parts
are tried, and then compared with the readers, which never go back.

* `IsReference` and `IsSpecifier` are the rules, percent sign included.
* The readers take a text of the rule and leave what stands behind it, whatever that is
  (`reference?_append`, `specifier?_append`), and take no other text (`reference?_eq_some_iff`,
  `specifier?_eq_some_iff`).
* A reader has one answer.  So at most one text of a rule stands at the front of a given text
  (`IsReference.unique`, `IsSpecifier.unique`), and no part of it could have been tried in
  another way.
* No text of either rule has a blank in it (`IsReference.isBlank_eq_false`,
  `IsSpecifier.isBlank_eq_false`).
-/
import CatalogLint.Placeholder
import CatalogLint.Proofs.List
import Mathlib.Data.Bool.AllAny

namespace CatalogLint.Placeholder

open Text

variable {cs p q r rest position flags width precision length name : List Char} {c : Char}

/-! ## 1. The rules -/

/-- A part that may be left out. -/
def Optional (P : List Char → Prop) (cs : List Char) : Prop := cs = [] ∨ P cs

/-- Some decimal digits, at least one. -/
def IsDigits (cs : List Char) : Prop := cs ≠ [] ∧ ∀ d ∈ cs, isDecimalDigit d = true

/-- An argument position: digits and a dollar sign. -/
def IsPosition (cs : List Char) : Prop := ∃ ds, IsDigits ds ∧ cs = ds ++ ['$']

/-- A width or a precision: digits or an asterisk. -/
def IsNumber (cs : List Char) : Prop := cs = ['*'] ∨ IsDigits cs

/-- A point and the precision behind it. -/
def IsPrecision (cs : List Char) : Prop := ∃ n, IsNumber n ∧ cs = '.' :: n

/-- The characters of flags. -/
def flagCharacters : List Char := ['-', '+', '0', '#', '\'']

/-- The length modifiers. -/
def lengths : List (List Char) :=
  [['h', 'h'], ['h'], ['l', 'l'], ['l'], ['q'], ['L'], ['z'], ['t'], ['j']]

/-- The conversion characters. -/
def conversions : List Char :=
  ['@', 'd', 'D', 'i', 'u', 'U', 'x', 'X', 'o', 'O', 'f', 'F', 'e', 'E', 'g', 'G', 'c', 'C', 's', 'S',
    'p', 'a', 'A']

/-- A character of a variable's name: neither an at sign nor a blank. -/
def IsNameCharacter (c : Char) : Prop := c ≠ '@' ∧ isBlank c = false

/-- **A reference to a plural variable**: `%`, a position if there is one, `#@`, the name and `@`. -/
inductive IsReference : List Char → Prop
  /-- The parts, in order. -/
  | intro {position name : List Char} (hposition : Optional IsPosition position)
    (hname : ∀ c ∈ name, IsNameCharacter c) :
    IsReference ('%' :: (position ++ '#' :: '@' :: (name ++ ['@'])))

/-- **A format specifier**: `%`, then position, flags, width, precision and length as far as they are
there, and one conversion character. -/
inductive IsSpecifier : List Char → Prop
  /-- The parts, in order. -/
  | intro {position flags width precision length : List Char} {c : Char}
    (hposition : Optional IsPosition position) (hflags : ∀ f ∈ flags, f ∈ flagCharacters)
    (hwidth : Optional IsNumber width) (hprecision : Optional IsPrecision precision)
    (hlength : Optional (· ∈ lengths) length) (hc : c ∈ conversions) :
    IsSpecifier ('%' :: (position ++ (flags ++ (width ++ (precision ++ (length ++ [c]))))))

theorem isFlag_iff : isFlag c = true ↔ c ∈ flagCharacters := by
  simp [isFlag, flagCharacters, or_assoc]

theorem isConversion_iff : isConversion c = true ↔ c ∈ conversions := by
  rw [isConversion, decide_eq_true_iff, conversions]

/-! ## 2. What each part leaves

A part is followed by something that does not go on with it. -/

/-- Whether a character may go on with flags or with a number. -/
def goesOn (c : Char) : Bool := isFlag c || c == '*' || isDecimalDigit c

theorem isDecimalDigit_ne (h : isDecimalDigit c = true) {a : Char} (ha : isDecimalDigit a = false) :
    c ≠ a := by
  rintro rfl
  exact absurd h (by simp [ha])

theorem skipPosition_append (h : IsPosition p) (rest : List Char) : skipPosition (p ++ rest) = rest := by
  obtain ⟨ds, ⟨hne, hds⟩, rfl⟩ := h
  have hdrop : (ds ++ ['$'] ++ rest).dropWhile isDecimalDigit = '$' :: rest := by
    rw [List.append_assoc]
    exact dropWhile_append_of_stops hds (stops_cons.2 (by decide))
  obtain ⟨d, ds, rfl⟩ := List.exists_cons_of_ne_nil hne
  have hd : isDecimalDigit d = true := hds d List.mem_cons_self
  rw [skipPosition, hdrop]
  simp [hd]

/-- Without a dollar sign behind its digits a text has no position. -/
theorem skipPosition_eq_self (h : ∀ r, cs.dropWhile isDecimalDigit ≠ '$' :: r) :
    skipPosition cs = cs := by
  unfold skipPosition
  split
  · next r hr => exact absurd hr (h r)
  · rfl

theorem skipPosition_optional_append (h : Optional IsPosition p)
    (hrest : ∀ r, rest.dropWhile isDecimalDigit ≠ '$' :: r) : skipPosition (p ++ rest) = rest := by
  rcases h with rfl | h
  · exact skipPosition_eq_self hrest
  · exact skipPosition_append h rest

theorem skipNumber_eq_dropWhile (h : ∀ r, cs ≠ '*' :: r) :
    skipNumber cs = cs.dropWhile isDecimalDigit := by
  unfold skipNumber
  split
  · next r => exact absurd rfl (h r)
  · rfl

theorem ne_asterisk_of_stops (h : Stops goesOn rest) (r : List Char) : rest ≠ '*' :: r := by
  rintro rfl
  exact absurd (stops_cons.1 h) (by decide)

theorem skipNumber_append (h : Optional IsNumber p) (hrest : Stops goesOn rest) :
    skipNumber (p ++ rest) = rest := by
  have hdigit : Stops isDecimalDigit rest := hrest.imp fun c hc => by simp_all [goesOn]
  rcases h with rfl | rfl | ⟨hne, hds⟩
  · rw [List.nil_append, skipNumber_eq_dropWhile (ne_asterisk_of_stops hrest), hdigit.dropWhile_eq]
  · rfl
  · have hstar : ∀ r, p ++ rest ≠ '*' :: r := by
      obtain ⟨d, ds, rfl⟩ := List.exists_cons_of_ne_nil hne
      intro r heq
      exact isDecimalDigit_ne (hds d List.mem_cons_self) (by decide) (List.cons.inj heq).1
    rw [skipNumber_eq_dropWhile hstar, dropWhile_append_of_stops hds hdigit]

/-- Flags may take the zeros in front of a width with them; what they leave is a width or nothing. -/
theorem skipNumber_flags_append (hflags : ∀ f ∈ flags, f ∈ flagCharacters)
    (hwidth : Optional IsNumber width) (hrest : Stops goesOn rest) :
    skipNumber ((flags ++ (width ++ rest)).dropWhile isFlag) = rest := by
  have hflag : Stops isFlag rest := hrest.imp fun c hc => by simp_all [goesOn]
  have hwidth' : Optional IsNumber (width.dropWhile isFlag) := by
    rcases hwidth with rfl | rfl | ⟨-, hds⟩
    · exact .inl rfl
    · exact .inr (.inl rfl)
    · by_cases hnil : width.dropWhile isFlag = []
      · exact .inl hnil
      · exact .inr (.inr ⟨hnil, fun d hd => hds d ((List.dropWhile_sublist _).mem hd)⟩)
  rw [List.dropWhile_append_of_pos fun f hf => isFlag_iff.2 (hflags f hf), hflag.dropWhile_append]
  exact skipNumber_append hwidth' hrest

theorem startsNumber_append (h : IsNumber p) (rest : List Char) : startsNumber (p ++ rest) = true := by
  rcases h with rfl | ⟨hne, hds⟩
  · rfl
  · obtain ⟨d, ds, rfl⟩ := List.exists_cons_of_ne_nil hne
    simp [startsNumber, hds d List.mem_cons_self]

theorem skipPrecision_append (h : Optional IsPrecision p) (hrest : Stops goesOn rest)
    (hpoint : Stops (· == '.') rest) : skipPrecision (p ++ rest) = rest := by
  rcases h with rfl | ⟨n, hn, rfl⟩
  · rw [List.nil_append]
    unfold skipPrecision
    split
    · exact absurd (stops_cons.1 hpoint) (by decide)
    · rfl
  · rw [List.cons_append, skipPrecision, if_pos (startsNumber_append hn rest)]
    exact skipNumber_append (.inr hn) hrest

theorem skipLength_append (h : Optional (· ∈ lengths) p) (hc : c ∈ conversions) (rest : List Char) :
    skipLength (p ++ c :: rest) = c :: rest := by
  have hnone : ∀ a ∈ conversions, a ∉ ['h', 'l', 'q', 'L', 'z', 't', 'j'] :=
    List.all_iff_forall_prop.1 (by decide)
  have hne := hnone c hc
  simp only [List.mem_cons, List.not_mem_nil, or_false, not_or] at hne
  rcases h with rfl | h
  · simp [skipLength, hne]
  · simp only [lengths, List.mem_cons, List.not_mem_nil, or_false] at h
    rcases h with rfl | rfl | rfl | rfl | rfl | rfl | rfl | rfl | rfl <;> simp [skipLength, hne]

/-- Whether a character may stand between the position and the conversion of a specifier. -/
def isInner (c : Char) : Bool := goesOn c || c == '.' || c ∈ ['h', 'l', 'q', 'L', 'z', 't', 'j']

theorem isInner_of_goesOn (h : goesOn c = true) : isInner c = true := by
  simp [isInner, h]

theorem isInner_of_mem_number (h : IsNumber p) (hc : c ∈ p) : isInner c = true := by
  refine isInner_of_goesOn ?_
  rcases h with rfl | ⟨-, hds⟩
  · rw [List.mem_singleton.1 hc]
    decide
  · simp [goesOn, hds c hc]

/-- What stands between the position and the conversion of a specifier. -/
theorem isInner_of_mem (hflags : ∀ f ∈ flags, f ∈ flagCharacters) (hwidth : Optional IsNumber width)
    (hprecision : Optional IsPrecision precision) (hlength : Optional (· ∈ lengths) length)
    (hc : c ∈ flags ++ (width ++ (precision ++ length))) : isInner c = true := by
  simp only [List.mem_append] at hc
  rcases hc with hc | hc | hc | hc
  · exact isInner_of_goesOn (by simp [goesOn, isFlag_iff.2 (hflags c hc)])
  · rcases hwidth with rfl | hwidth
    · exact nomatch hc
    · exact isInner_of_mem_number hwidth hc
  · rcases hprecision with rfl | ⟨n, hn, rfl⟩
    · exact nomatch hc
    · rcases List.mem_cons.1 hc with rfl | hc
      · decide
      · exact isInner_of_mem_number hn hc
  · rcases hlength with rfl | hlength
    · exact nomatch hc
    · have hall : ∀ l ∈ lengths, ∀ a ∈ l, isInner a = true := by
        simp only [← List.all_eq_true]
        decide
      exact hall length hlength c hc

theorem not_isDecimalDigit_of_mem_conversions (hc : c ∈ conversions) : isDecimalDigit c = false := by
  have hall : ∀ a ∈ conversions, isDecimalDigit a = false :=
    List.all_iff_forall_prop.1 (by decide)
  exact hall c hc

/-- What follows the position of a specifier does not end it later: no dollar sign stands behind
digits. -/
theorem dropWhile_inner_ne (h : ∀ a ∈ cs, isInner a = true) (hc : c ∈ conversions)
    (rest r : List Char) : (cs ++ c :: rest).dropWhile isDecimalDigit ≠ '$' :: r := by
  have hstops : Stops isDecimalDigit (c :: rest) :=
    stops_cons.2 (not_isDecimalDigit_of_mem_conversions hc)
  rw [hstops.dropWhile_append]
  intro heq
  rcases List.append_eq_cons_iff.1 heq with ⟨-, hcons⟩ | ⟨cs', hcs', -⟩
  · rw [(List.cons.inj hcons).1] at hc
    exact absurd hc (by decide)
  · have hmem : '$' ∈ cs := (List.dropWhile_sublist isDecimalDigit).mem (by simp [hcs'])
    exact absurd (h _ hmem) (by decide)

theorem stops_length (h : Optional (· ∈ lengths) length) (hc : c ∈ conversions) (rest : List Char) :
    Stops (fun a => goesOn a || a == '.') (length ++ c :: rest) := by
  have hall : ∀ a ∈ conversions, (goesOn a || a == '.') = false :=
    List.all_iff_forall_prop.1 (by decide)
  rcases h with rfl | h
  · exact stops_cons.2 (hall c hc)
  · simp only [lengths, List.mem_cons, List.not_mem_nil, or_false] at h
    rcases h with rfl | rfl | rfl | rfl | rfl | rfl | rfl | rfl | rfl <;>
      exact stops_cons.2 (by decide)

theorem stops_precision (h : Optional IsPrecision precision) (hrest : Stops goesOn rest) :
    Stops goesOn (precision ++ rest) := by
  rcases h with rfl | ⟨n, -, rfl⟩
  · exact hrest
  · exact stops_cons.2 (by decide)

/-! ## 3. The readers take what the rules say -/

theorem specifier?_append (h : IsSpecifier ('%' :: p)) (rest : List Char) :
    specifier? (p ++ rest) = some rest := by
  obtain ⟨hposition, hflags, hwidth, hprecision, hlength, hc⟩ := h
  next position flags width precision length c =>
  have hlast := stops_length hlength hc rest
  have hgoes : Stops goesOn (length ++ c :: rest) := hlast.imp fun a ha => by simp_all
  have hpoint : Stops (· == '.') (length ++ c :: rest) := hlast.imp fun a ha => by simp_all
  have hdollar := dropWhile_inner_ne
    (fun a => isInner_of_mem hflags hwidth hprecision hlength) hc rest
  simp only [List.append_assoc, List.cons_append, List.nil_append] at hdollar ⊢
  rw [specifier?, skipPosition_optional_append hposition hdollar,
    skipNumber_flags_append hflags hwidth (stops_precision hprecision hgoes),
    skipPrecision_append hprecision hgoes hpoint, skipLength_append hlength hc]
  simp [isConversion_iff.2 hc]

/-- Behind the at sign of a reference the name goes on to the next at sign or blank. -/
theorem dropWhile_name (h : ∀ c ∈ name, IsNameCharacter c)
    (hrest : Stops (fun c => c != '@' && !isBlank c) rest) :
    (name ++ rest).dropWhile (fun c => c != '@' && !isBlank c) = rest :=
  dropWhile_append_of_stops (fun c hc => by simp [(h c hc).1, (h c hc).2]) hrest

theorem skipPosition_hash (h : Optional IsPosition p) (rest : List Char) :
    skipPosition (p ++ '#' :: rest) = '#' :: rest := by
  refine skipPosition_optional_append h fun r => ?_
  have hstops : Stops isDecimalDigit ('#' :: rest) := stops_cons.2 (by decide)
  rw [hstops.dropWhile_eq]
  simp

theorem reference?_append (h : IsReference ('%' :: p)) (rest : List Char) :
    reference? (p ++ rest) = some rest := by
  obtain ⟨hposition, hname⟩ := h
  next position name =>
  have hdrop := dropWhile_name hname (stops_cons.2 (by simp) : Stops _ ('@' :: rest))
  simp only [List.append_assoc, List.cons_append, List.nil_append]
  rw [reference?, skipPosition_hash hposition]
  simp only [hdrop]

/-! ## 4. The readers take nothing else -/

theorem exists_position (cs : List Char) : ∃ p, Optional IsPosition p ∧ cs = p ++ skipPosition cs := by
  unfold skipPosition
  split
  · next r hr =>
    split
    · next hhead =>
      have hne : cs.takeWhile isDecimalDigit ≠ [] := by
        cases cs with
        | nil => simp at hhead
        | cons d cs =>
          have hd : isDecimalDigit d = true := by simpa using hhead
          simp [hd]
      refine ⟨cs.takeWhile isDecimalDigit ++ ['$'],
        .inr ⟨_, ⟨hne, fun d hd => List.mem_takeWhile_imp hd⟩, rfl⟩, ?_⟩
      rw [List.append_assoc, List.singleton_append, ← hr, List.takeWhile_append_dropWhile]
    · exact ⟨[], .inl rfl, rfl⟩
  · exact ⟨[], .inl rfl, rfl⟩

theorem exists_number (h : startsNumber cs = true) : ∃ w, IsNumber w ∧ cs = w ++ skipNumber cs := by
  cases cs with
  | nil => exact absurd h (by decide)
  | cons d cs =>
    by_cases hstar : d = '*'
    · subst hstar
      exact ⟨['*'], .inl rfl, rfl⟩
    · have hd : isDecimalDigit d = true := by simpa [startsNumber, hstar] using h
      refine ⟨(d :: cs).takeWhile isDecimalDigit, .inr ⟨by simp [hd], fun a ha =>
        List.mem_takeWhile_imp ha⟩, ?_⟩
      rw [skipNumber_eq_dropWhile (by simp [hstar]), List.takeWhile_append_dropWhile]

theorem exists_width (cs : List Char) : ∃ w, Optional IsNumber w ∧ cs = w ++ skipNumber cs := by
  cases h : startsNumber cs with
  | true =>
    obtain ⟨w, hw, heq⟩ := exists_number h
    exact ⟨w, .inr hw, heq⟩
  | false =>
    refine ⟨[], .inl rfl, ?_⟩
    cases cs with
    | nil => rfl
    | cons d cs =>
      obtain ⟨hstar, hd⟩ : d ≠ '*' ∧ isDecimalDigit d = false := by simpa [startsNumber] using h
      rw [skipNumber_eq_dropWhile (by simp [hstar])]
      simp [hd]

theorem exists_precision (cs : List Char) :
    ∃ p, Optional IsPrecision p ∧ cs = p ++ skipPrecision cs := by
  unfold skipPrecision
  split
  · next r =>
    split
    · next h =>
      obtain ⟨n, hn, heq⟩ := exists_number h
      exact ⟨'.' :: n, .inr ⟨n, hn, rfl⟩, by rw [List.cons_append, ← heq]⟩
    · exact ⟨[], .inl rfl, rfl⟩
  · exact ⟨[], .inl rfl, rfl⟩

theorem exists_length (cs : List Char) :
    ∃ l, Optional (· ∈ lengths) l ∧ cs = l ++ skipLength cs := by
  have hall : ∀ a ∈ ['h', 'l', 'q', 'L', 'z', 't', 'j'], [a] ∈ lengths :=
    List.all_iff_forall_prop.1 (by decide)
  unfold skipLength
  split
  · exact ⟨['h', 'h'], .inr (by decide), rfl⟩
  · exact ⟨['l', 'l'], .inr (by decide), rfl⟩
  · next a r _ _ =>
    split
    · next ha => exact ⟨[a], .inr (hall a ha), rfl⟩
    · exact ⟨[], .inl rfl, rfl⟩
  · exact ⟨[], .inl rfl, rfl⟩

/-- **The reader of specifiers takes exactly the texts of the rule.** -/
theorem specifier?_eq_some_iff :
    specifier? cs = some r ↔ ∃ p, IsSpecifier ('%' :: p) ∧ cs = p ++ r := by
  constructor
  · intro h
    obtain ⟨position, hposition, hcs⟩ := exists_position cs
    rw [specifier?] at h
    generalize skipPosition cs = behindPosition at h hcs
    have hflags : ∀ f ∈ behindPosition.takeWhile isFlag, f ∈ flagCharacters := fun f hf =>
      isFlag_iff.1 (List.mem_takeWhile_imp hf)
    have hbehind := (List.takeWhile_append_dropWhile (p := isFlag) (l := behindPosition)).symm
    generalize behindPosition.takeWhile isFlag = flags at hflags hbehind
    generalize behindPosition.dropWhile isFlag = behindFlags at h hbehind
    obtain ⟨width, hwidth, hbehindFlags⟩ := exists_width behindFlags
    generalize skipNumber behindFlags = behindWidth at h hbehindFlags
    obtain ⟨precision, hprecision, hbehindWidth⟩ := exists_precision behindWidth
    generalize skipPrecision behindWidth = behindPrecision at h hbehindWidth
    obtain ⟨length, hlength, hbehindPrecision⟩ := exists_length behindPrecision
    split at h
    · next c r' hlast =>
      split at h
      · next hc =>
        cases h
        refine ⟨_, .intro hposition hflags hwidth hprecision hlength (isConversion_iff.1 hc), ?_⟩
        rw [hcs, hbehind, hbehindFlags, hbehindWidth, hbehindPrecision, hlast]
        simp only [List.append_assoc, List.singleton_append]
      · cases h
    · cases h
  · rintro ⟨p, hp, rfl⟩
    exact specifier?_append hp r

/-- **The reader of references takes exactly the texts of the rule.** -/
theorem reference?_eq_some_iff :
    reference? cs = some r ↔ ∃ p, IsReference ('%' :: p) ∧ cs = p ++ r := by
  constructor
  · intro h
    obtain ⟨position, hposition, hcs⟩ := exists_position cs
    rw [reference?] at h
    generalize skipPosition cs = behindPosition at h hcs
    split at h
    · next s =>
      have hname : ∀ c ∈ s.takeWhile fun c => c != '@' && !isBlank c, IsNameCharacter c :=
        fun c hc => by simpa [IsNameCharacter] using List.mem_takeWhile_imp hc
      have hs := (List.takeWhile_append_dropWhile (p := fun c => c != '@' && !isBlank c) (l := s)).symm
      split at h
      · next r' hr =>
        cases h
        refine ⟨_, .intro hposition hname, ?_⟩
        rw [hr] at hs
        simp only [List.append_assoc, List.cons_append, List.nil_append]
        rw [hcs, ← hs]
      · cases h
    · cases h
  · rintro ⟨p, hp, rfl⟩
    exact reference?_append hp r

theorem IsSpecifier.exists_cons (h : IsSpecifier p) : ∃ q, p = '%' :: q := by
  cases h
  exact ⟨_, rfl⟩

theorem IsReference.exists_cons (h : IsReference p) : ∃ q, p = '%' :: q := by
  cases h
  exact ⟨_, rfl⟩

/-- What a reader takes whatever stands behind it is the only such text at the front of a text. -/
theorem eq_of_prefix_of_reader {P : List Char → Prop} {read : List Char → Option (List Char)}
    (hcons : ∀ {p}, P p → ∃ q, p = '%' :: q)
    (hread : ∀ {p}, P ('%' :: p) → ∀ rest, read (p ++ rest) = some rest) (hp : P p) (hq : P q)
    (hpcs : p <+: cs) (hqcs : q <+: cs) : p = q := by
  obtain ⟨r, rfl⟩ := hpcs
  obtain ⟨s, hs⟩ := hqcs
  obtain ⟨p, rfl⟩ := hcons hp
  obtain ⟨q, rfl⟩ := hcons hq
  have hs : q ++ s = p ++ r := (List.cons.inj hs).2
  have hrest : some s = some r := by rw [← hread hq s, hs, hread hp r]
  rw [Option.some_inj.1 hrest] at hs
  rw [List.append_cancel_right hs]

/-- **At most one specifier stands at the front of a text.** -/
theorem IsSpecifier.unique (hp : IsSpecifier p) (hq : IsSpecifier q) (hpcs : p <+: cs)
    (hqcs : q <+: cs) : p = q :=
  eq_of_prefix_of_reader IsSpecifier.exists_cons specifier?_append hp hq hpcs hqcs

/-- **At most one reference stands at the front of a text.** -/
theorem IsReference.unique (hp : IsReference p) (hq : IsReference q) (hpcs : p <+: cs)
    (hqcs : q <+: cs) : p = q :=
  eq_of_prefix_of_reader IsReference.exists_cons reference?_append hp hq hpcs hqcs

/-! ## 5. Blanks -/

theorem isBlank_of_isDecimalDigit (h : isDecimalDigit c = true) : isBlank c = false := by
  have hapart : ∀ z ∈ zeros, ∀ r ∈ blanks.ranges, z + 10 ≤ r.1 ∨ r.2 < z := by decide
  simp only [isDecimalDigit, List.any_eq_true, Bool.and_eq_true, decide_eq_true_eq] at h
  obtain ⟨z, hz, hle, hlt⟩ := h
  simp only [isBlank, CodeSet.contains, List.any_eq_false, Bool.and_eq_true, decide_eq_true_eq]
  intro r hr hc
  rcases hapart z hz r hr with hbelow | habove <;> omega

theorem isBlank_of_isInner (h : isInner c = true) : isBlank c = false := by
  have hflags : ∀ a ∈ flagCharacters, isBlank a = false := List.all_iff_forall_prop.1 (by decide)
  have hlengths : ∀ a ∈ ['h', 'l', 'q', 'L', 'z', 't', 'j'], isBlank a = false :=
    List.all_iff_forall_prop.1 (by decide)
  simp only [isInner, goesOn, Bool.or_eq_true, isFlag_iff, beq_iff_eq, decide_eq_true_eq] at h
  rcases h with (((hflag | rfl) | hdigit) | rfl) | hlength
  · exact hflags c hflag
  · decide
  · exact isBlank_of_isDecimalDigit hdigit
  · decide
  · exact hlengths c hlength

theorem isBlank_of_mem_position (h : Optional IsPosition p) (hc : c ∈ p) : isBlank c = false := by
  rcases h with rfl | ⟨ds, ⟨-, hds⟩, rfl⟩
  · exact nomatch hc
  · rcases List.mem_append.1 hc with hc | hc
    · exact isBlank_of_isDecimalDigit (hds c hc)
    · rw [List.mem_singleton.1 hc]
      decide

/-- **No specifier has a blank in it.** -/
theorem IsSpecifier.isBlank_eq_false (h : IsSpecifier p) (hc : c ∈ p) : isBlank c = false := by
  obtain ⟨hposition, hflags, hwidth, hprecision, hlength, hconversion⟩ := h
  next position flags width precision length conversion =>
  have hall : ∀ a ∈ conversions, isBlank a = false :=
    List.all_iff_forall_prop.1 (by decide)
  have hinner : c ∈ flags ++ (width ++ (precision ++ length)) → isBlank c = false := fun h =>
    isBlank_of_isInner (isInner_of_mem hflags hwidth hprecision hlength h)
  simp only [List.mem_cons, List.mem_append, List.not_mem_nil, or_false] at hc hinner
  rcases hc with rfl | hc | hc | hc | hc | hc | rfl
  · decide
  · exact isBlank_of_mem_position hposition hc
  · exact hinner (.inl hc)
  · exact hinner (.inr (.inl hc))
  · exact hinner (.inr (.inr (.inl hc)))
  · exact hinner (.inr (.inr (.inr hc)))
  · exact hall c hconversion

/-- **No reference has a blank in it.** -/
theorem IsReference.isBlank_eq_false (h : IsReference p) (hc : c ∈ p) : isBlank c = false := by
  obtain ⟨hposition, hname⟩ := h
  simp only [List.mem_cons, List.mem_append, List.not_mem_nil, or_false] at hc
  rcases hc with rfl | hc | rfl | rfl | hc | rfl
  · decide
  · exact isBlank_of_mem_position hposition hc
  · decide
  · decide
  · exact (hname c hc).2
  · decide

/-! ## 6. References that are not closed -/

/-- What a position or a hash sign starts is no escaped percent sign. -/
theorem position_append_ne_percent (h : Optional IsPosition position) (rest r : List Char) :
    position ++ '#' :: rest ≠ '%' :: r := by
  rcases h with rfl | ⟨ds, ⟨hne, hds⟩, rfl⟩
  · simp
  · obtain ⟨d, ds, rfl⟩ := List.exists_cons_of_ne_nil hne
    intro heq
    exact isDecimalDigit_ne (hds d List.mem_cons_self) (by decide) (List.cons.inj heq).1

/-- Without the at sign behind its name a reference is a specifier with the flag `#`, and the name is
left. -/
theorem isSpecifier_of_unclosed (h : Optional IsPosition position) :
    IsSpecifier ('%' :: (position ++ ['#', '@'])) :=
  @IsSpecifier.intro position ['#'] [] [] [] '@' h (List.forall_mem_singleton.2 (by decide)) (.inl rfl)
    (.inl rfl) (.inl rfl) (by decide)

/-- A name that is followed by a blank, or by nothing, is no reference's name. -/
theorem reference?_of_unclosed (h : Optional IsPosition position)
    (hname : ∀ c ∈ name, IsNameCharacter c) (hrest : ∀ c ∈ rest.head?, isBlank c = true) :
    reference? (position ++ '#' :: '@' :: (name ++ rest)) = none := by
  have hat : ∀ r, rest ≠ '@' :: r := by
    rintro r rfl
    exact absurd (hrest '@' rfl) (by decide)
  have hstops : Stops (fun c => c != '@' && !isBlank c) rest := fun c hc => by simp [hrest c hc]
  have hdrop := dropWhile_name hname hstops
  rw [reference?, skipPosition_hash h]
  simp only [hdrop]

end CatalogLint.Placeholder
