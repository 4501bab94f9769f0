/-
# The reader reads every text of the grammar

`Node.read?` reads each text of a tree to that tree (`read?_of_text`).  The reader is greedy, so what
stands behind a part matters: digits go on until something else comes, and blanks behind a tree are
left for whoever reads next.

* Numerals are read if the next character, if there is one, does not go on with them
  (`Numeral.read?_append`); words, strings and brackets end by themselves (`codes?_append`).
* Behind a tree stands a comma, a bracket or nothing (`Closes`).
* `reads` is the induction over the fuel.  A text of `n` characters takes less than `2 * n` steps.
-/
import CatalogLint.Proofs.Json.Grammar
import CatalogLint.Proofs.List
import Mathlib.Data.List.DropRight

namespace CatalogLint.Json

open CatalogLint.Number CatalogLint.Text

/-! ## 1. Numerals -/

namespace Numeral

/-- Whether a character may go on with a numeral. -/
def goesOn (c : Char) : Bool := c.isDigit || c == '.' || c == 'e' || c == 'E'

variable {rest : List Char}

theorem readFraction?_append {fraction : Option (List Char)} {cs : List Char}
    (h : Fraction fraction cs) (hdigit : Stops Char.isDigit rest) (hpoint : Stops (· == '.') rest) :
    readFraction? (cs ++ rest) = some (fraction, rest) := by
  cases h with
  | none =>
    cases rest with
    | nil => rfl
    | cons c rest =>
      have hc : c ≠ '.' := by simpa using stops_cons.1 hpoint
      simp [readFraction?, hc]
  | some h =>
    rw [List.cons_append, readFraction?]
    simp only [takeWhile_append_of_stops h.2 hdigit, dropWhile_append_of_stops h.2 hdigit]
    rw [if_neg (by simpa using h.1)]

/-- The digits of an exponent, with or without a sign. -/
theorem readSigned?_append {digits : List Char} (h : Digits digits)
    (hrest : Stops Char.isDigit rest) :
    readSigned? (digits ++ rest) = some ((digitsValue digits : Int), rest) ∧
      readSigned? ('+' :: (digits ++ rest)) = some ((digitsValue digits : Int), rest) ∧
      readSigned? ('-' :: (digits ++ rest)) = some (-(digitsValue digits : Int), rest) := by
  have htake := takeWhile_append_of_stops h.2 hrest
  have hdrop := dropWhile_append_of_stops h.2 hrest
  have hempty : digits.isEmpty = false := by simpa using h.1
  refine ⟨?_, ?_, ?_⟩
  · obtain ⟨c, cs, rfl⟩ := List.exists_cons_of_ne_nil h.1
    have hc : c.isDigit := h.2 c List.mem_cons_self
    have hminus : c ≠ '-' := by rintro rfl; exact absurd hc (by decide)
    have hplus : c ≠ '+' := by rintro rfl; exact absurd hc (by decide)
    rw [List.cons_append] at htake hdrop ⊢
    simp [readSigned?, hminus, hplus, htake, hdrop]
  · simp [readSigned?, htake, hdrop, h.1]
  · simp [readSigned?, htake, hdrop, h.1]

theorem readExponent?_append {exponent : Option Int} {cs : List Char} (h : Exponent exponent cs)
    (hrest : Stops goesOn rest) : readExponent? (cs ++ rest) = some (exponent, rest) := by
  have hdigit : Stops Char.isDigit rest := hrest.imp fun c hc => by simp_all [goesOn]
  cases h with
  | none =>
    cases rest with
    | nil => rfl
    | cons c rest =>
      have hc : goesOn c = false := stops_cons.1 hrest
      have hne : c ≠ 'e' ∧ c ≠ 'E' := by simp_all [goesOn]
      simp [readExponent?, hne.1, hne.2]
  | unsigned he h =>
    rcases he with rfl | rfl <;> simp [readExponent?, (readSigned?_append h hdigit).1]
  | plus he h =>
    rcases he with rfl | rfl <;> simp [readExponent?, (readSigned?_append h hdigit).2.1]
  | minus he h =>
    rcases he with rfl | rfl <;> simp [readExponent?, (readSigned?_append h hdigit).2.2]

/-- An exponent, and what stands behind it, goes on neither with digits nor with a point. -/
theorem stops_exponent {exponent : Option Int} {cs : List Char} (h : Exponent exponent cs)
    (hrest : Stops goesOn rest) : Stops (fun c => c.isDigit || c == '.') (cs ++ rest) := by
  cases h with
  | none => exact hrest.imp fun c hc => by simp_all [goesOn]
  | unsigned he _ => rcases he with rfl | rfl <;> exact stops_cons.2 (by decide)
  | plus he _ => rcases he with rfl | rfl <;> exact stops_cons.2 (by decide)
  | minus he _ => rcases he with rfl | rfl <;> exact stops_cons.2 (by decide)

theorem stops_fraction {fraction : Option (List Char)} {cs : List Char} (h : Fraction fraction cs)
    (hrest : Stops Char.isDigit rest) : Stops Char.isDigit (cs ++ rest) := by
  cases h with
  | none => exact hrest
  | some _ => exact stops_cons.2 (by decide)

/-- **A numeral is read** from any of its texts, if what stands behind does not go on with it. -/
theorem read?_append {x : Numeral} {cs : List Char} (h : x.Spells cs) (hrest : Stops goesOn rest) :
    read? (cs ++ rest) = some (x, rest) := by
  obtain @⟨negative, whole, fs, es, fraction, exponent, hwhole, hzero, hfraction, hexponent⟩ := h
  have hes := stops_exponent hexponent hrest
  have hes_digit : Stops Char.isDigit (es ++ rest) := hes.imp fun c hc => by simp_all
  have hes_point : Stops (· == '.') (es ++ rest) := hes.imp fun c hc => by simp_all
  have hfs := stops_fraction hfraction hes_digit
  have htake := takeWhile_append_of_stops hwhole.2 hfs
  have hdrop := dropWhile_append_of_stops hwhole.2 hfs
  have hwhole' : ¬ (whole.isEmpty || (whole.head? == some '0' && whole != ['0'])) := by
    simpa [hwhole.1] using hzero
  cases negative with
  | true =>
    rw [if_pos rfl, List.append_assoc, List.singleton_append, List.append_assoc, List.append_assoc,
      read?]
    simp only [htake, hdrop, if_neg hwhole', readFraction?_append hfraction hes_digit hes_point,
      Option.bind_some, readExponent?_append hexponent hrest, Option.map_some]
  | false =>
    have hsign : ∀ r, whole ++ (fs ++ (es ++ rest)) ≠ '-' :: r := by
      obtain ⟨c, ds, rfl⟩ := List.exists_cons_of_ne_nil hwhole.1
      rintro r h
      obtain rfl : c = '-' := (List.cons.inj h).1
      exact absurd (hwhole.2 _ List.mem_cons_self) (by decide)
    rw [if_neg Bool.false_ne_true, List.nil_append, List.append_assoc, List.append_assoc,
      read?]
    · simp only [htake, hdrop, if_neg hwhole', readFraction?_append hfraction hes_digit hes_point,
        Option.bind_some, readExponent?_append hexponent hrest, Option.map_some]
    · exact hsign

/-- No numeral is empty, and it starts with a minus sign or a digit. -/
theorem Spells.head {x : Numeral} {cs : List Char} (h : x.Spells cs) :
    ∃ c ds, cs = c :: ds ∧ (c = '-' ∨ c.isDigit) := by
  obtain @⟨negative, whole, fs, es, fraction, exponent, hwhole, -, -, -⟩ := h
  cases negative with
  | true => exact ⟨'-', _, rfl, .inl rfl⟩
  | false =>
    obtain ⟨c, ds, rfl⟩ := List.exists_cons_of_ne_nil hwhole.1
    exact ⟨c, _, rfl, .inr (hwhole.2 _ List.mem_cons_self)⟩

end Numeral

namespace Node

variable {rest : List Char}

/-! ## 2. Strings -/

/-- The codes of a string are read up to the quote behind it. -/
theorem codes?_append {ns : List Nat} {cs : List Char} (h : Codes ns cs) :
    codes? (cs ++ '"' :: rest) = some (ns, rest) := by
  induction h with
  | nil => simp [codes?]
  | @plain c ns cs hcontrol hquote hescape _ ih =>
    rw [List.cons_append, codes?]
    · simp [hcontrol, hescape, ih]
    all_goals simp_all
  | @short e c ns cs he _ ih =>
    rw [List.cons_append, List.cons_append, codes?]
    · simp [he, ih]
    · rintro a b c d r rfl
      simp [escape?] at he
  | digits hn _ ih => simp [codes?, hn, ih]

theorem readString?_append {ns : List Nat} {cs : List Char} (h : Codes ns cs) :
    readString? (cs ++ '"' :: rest) = some (textOf ns, rest) := by
  rw [readString?, codes?_append h, Option.map_some, textOf]

/-! ## 3. Blanks -/

theorem skip_blank_append {before : List Char} (h : Blank before) (cs : List Char) :
    skip (before ++ cs) = skip cs := by
  rw [skip, List.dropWhile_append_of_pos h, skip]

theorem skip_of_stops {cs : List Char} (h : Stops isSpace cs) : skip cs = cs := by
  cases cs with
  | nil => rfl
  | cons c cs => simp [skip, stops_cons.1 h]

/-- Skipping ends where the blanks do. -/
theorem skip_blank_append_of_stops {before : List Char} (h : Blank before)
    (hrest : Stops isSpace rest) : skip (before ++ rest) = rest := by
  rw [skip_blank_append h, skip_of_stops hrest]

theorem skip_skip (cs : List Char) : skip (skip cs) = skip cs :=
  List.dropWhile_idempotent _ _

theorem readNode?_skip (fuel : Nat) (cs : List Char) :
    readNode? fuel (skip cs) = readNode? fuel cs := by
  cases fuel with
  | zero => rfl
  | succ fuel => rw [readNode?, readNode?, skip_skip]

theorem readItems?_skip (fuel : Nat) (cs : List Char) :
    readItems? fuel (skip cs) = readItems? fuel cs := by
  cases fuel with
  | zero => rfl
  | succ fuel => rw [readItems?, readItems?, readNode?_skip]

theorem readMembers?_skip (fuel : Nat) (cs : List Char) :
    readMembers? fuel (skip cs) = readMembers? fuel cs := by
  cases fuel with
  | zero => rfl
  | succ fuel => rw [readMembers?, readMembers?, skip_skip]

/-! ## 4. Trees -/

theorem isSpace_iff {c : Char} : isSpace c ↔ c ∈ [' ', '\n', '\t', '\r'] := by
  simp [isSpace, or_assoc]

/-- What may stand behind a tree: nothing, or a character that separates or ends. -/
def Closes (rest : List Char) : Prop := ∀ c ∈ rest.head?, c ∈ [',', ']', '}']

theorem closes_cons {c : Char} : Closes (c :: rest) ↔ c ∈ [',', ']', '}'] := by simp [Closes]

theorem Closes.stops_isSpace (h : Closes rest) : Stops isSpace rest := fun c hc =>
  (by simp [isSpace] : ∀ c ∈ [',', ']', '}'], isSpace c = false) c (h c hc)

/-- What closes a tree, blanks before it included, does not go on with a numeral. -/
theorem Closes.stops_goesOn (h : Closes rest) {after : List Char} (hafter : Blank after) :
    Stops Numeral.goesOn (after ++ rest) := by
  cases after with
  | nil =>
    exact fun c hc =>
      (by simp [Numeral.goesOn] : ∀ c ∈ [',', ']', '}'], Numeral.goesOn c = false) c (h c hc)
  | cons c after =>
    have hc : c ∈ [' ', '\n', '\t', '\r'] := isSpace_iff.1 (hafter c List.mem_cons_self)
    exact stops_cons.2
      ((by simp [Numeral.goesOn] : ∀ c ∈ [' ', '\n', '\t', '\r'], Numeral.goesOn c = false) c hc)

/-- Characters with which no tree starts, because they stand around trees. -/
def around : List Char := [' ', '\n', '\t', '\r', ']', '}']

theorem isSpace_of_not_mem_around {c : Char} (h : c ∉ around) : isSpace c = false := by
  by_contra hc
  exact h (List.mem_append_left [']', '}'] (isSpace_iff.1 (by simpa using hc)))

/-- A numeral starts like no other tree, and not like what stands around trees. -/
theorem not_mem_of_numeral {c : Char} (h : c = '-' ∨ c.isDigit) {others : List Char}
    (hothers : ∀ e ∈ others, e ≠ '-' ∧ e.isDigit = false) : c ∉ others := by
  intro hc
  simp [hothers c hc] at h

/-- The first character of a tree. -/
theorem Spells.head {node : Node} {cs : List Char} (h : Spells node cs) :
    ∃ c ds, cs = c :: ds ∧ c ∉ around := by
  cases h with
  | number h =>
    obtain ⟨c, ds, rfl, hc⟩ := h.head
    exact ⟨c, ds, rfl, not_mem_of_numeral hc (by simp [around])⟩
  | _ => exact ⟨_, _, rfl, by decide⟩

/-- Every text of a tree is read with this fuel, if it is long enough. -/
def ReadsNodes (fuel : Nat) : Prop := ∀ {node : Node} {cs rest : List Char}, Spells node cs →
  Stops Numeral.goesOn rest → 2 * cs.length ≤ fuel + 1 →
    readNode? fuel (cs ++ rest) = some (node, rest)

/-- Every text of items is read with this fuel, if it is long enough. -/
def ReadsItems (fuel : Nat) : Prop := ∀ {items : List Node} {cs rest : List Char},
  SpellsItems items cs → 2 * cs.length ≤ fuel → readItems? fuel (cs ++ rest) = some (items, rest)

/-- Every text of members is read with this fuel, if it is long enough. -/
def ReadsMembers (fuel : Nat) : Prop :=
  ∀ {members : List (Option String × Node)} {cs rest : List Char}, SpellsMembers members cs →
    2 * cs.length ≤ fuel → readMembers? fuel (cs ++ rest) = some (members, rest)

/-- Blanks in front of a tree are skipped, and those behind it are left. -/
theorem ReadsNodes.padded {fuel : Nat} (hreads : ReadsNodes fuel) {node : Node} {cs ds : List Char}
    (h : Spells node cs) (hpad : Padded cs ds) (hrest : Closes rest)
    (hfuel : 2 * ds.length ≤ fuel + 1) :
    ∃ r, readNode? fuel (ds ++ rest) = some (node, r) ∧ skip r = rest := by
  obtain ⟨before, after, hbefore, hafter, rfl⟩ := hpad
  simp only [List.length_append] at hfuel
  refine ⟨after ++ rest, ?_, ?_⟩
  · rw [List.append_assoc, List.append_assoc, ← readNode?_skip, skip_blank_append hbefore,
      readNode?_skip]
    exact hreads h (hrest.stops_goesOn hafter) (by omega)
  · exact skip_blank_append_of_stops hafter hrest.stops_isSpace

/-- Behind the blanks in front stands the text itself. -/
theorem skip_padded {c : Char} {cs ds : List Char} (hpad : Padded (c :: cs) ds) (hc : c ∉ around)
    (rest : List Char) : ∃ after, Blank after ∧ skip (ds ++ rest) = c :: (cs ++ (after ++ rest)) := by
  obtain ⟨before, after, hbefore, hafter, rfl⟩ := hpad
  refine ⟨after, hafter, ?_⟩
  rw [List.append_assoc, skip_blank_append hbefore, List.cons_append, List.cons_append,
    List.append_assoc, skip_of_stops (stops_cons.2 (isSpace_of_not_mem_around hc))]

theorem SpellsItems.head {items : List Node} {cs : List Char} (h : SpellsItems items cs)
    (rest : List Char) : ∃ c ds, skip (cs ++ rest) = c :: ds ∧ c ∉ around := by
  cases h with
  | last h hpad =>
    obtain ⟨c, ds, rfl, hc⟩ := h.head
    obtain ⟨after, -, hskip⟩ := skip_padded hpad hc (']' :: rest)
    exact ⟨c, _, by rw [List.append_assoc]; exact hskip, hc⟩
  | @more _ _ _ _ es h hpad _ =>
    obtain ⟨c, ds, rfl, hc⟩ := h.head
    obtain ⟨after, -, hskip⟩ := skip_padded hpad hc (',' :: (es ++ rest))
    exact ⟨c, _, by rw [List.append_assoc]; exact hskip, hc⟩

theorem SpellsMembers.head {members : List (Option String × Node)} {cs : List Char}
    (h : SpellsMembers members cs) (rest : List Char) : ∃ ds, skip (cs ++ rest) = '"' :: ds := by
  cases h with
  | @last _ _ _ _ _ ds _ hpad _ _ =>
    obtain ⟨after, -, hskip⟩ := skip_padded hpad (by decide) (':' :: (ds ++ '}' :: rest))
    exact ⟨_, by simpa using hskip⟩
  | @more _ _ _ _ _ _ ds es _ hpad _ _ _ =>
    obtain ⟨after, -, hskip⟩ := skip_padded hpad (by decide) (':' :: (ds ++ ',' :: (es ++ rest)))
    exact ⟨_, by simpa using hskip⟩

theorem readsItems_succ {fuel : Nat} (hnodes : ReadsNodes fuel) (hitems : ReadsItems fuel) :
    ReadsItems (fuel + 1) := by
  intro items cs rest h hfuel
  cases h with
  | @last item cs ds h hpad =>
    have hclose : Closes (']' :: rest) := closes_cons.2 (by decide)
    obtain ⟨r, hr, hskip⟩ := hnodes.padded h hpad hclose (by simp at hfuel; omega)
    rw [List.append_assoc, List.singleton_append, readItems?, hr, Option.bind_some]
    simp only [hskip]
  | @more item items cs ds es h hpad hmore =>
    have hclose : Closes (',' :: (es ++ rest)) := closes_cons.2 (by decide)
    simp only [List.length_append, List.length_cons] at hfuel
    obtain ⟨r, hr, hskip⟩ := hnodes.padded h hpad hclose (by omega)
    rw [List.append_assoc, List.cons_append, readItems?, hr, Option.bind_some]
    simp only [hskip, hitems hmore (by omega), Option.map_some]

/-- A key and its colon are read; behind the value stands the end of the object or a comma. -/
theorem readMembers?_succ {ns : List Nat} {ks ks' tail r : List Char} {item : Node} {fuel : Nat}
    (hkey : Codes ns ks) (hpad : Padded ('"' :: (ks ++ ['"'])) ks')
    (hitem : readNode? fuel tail = some (item, r)) :
    (skip r = '}' :: rest →
      readMembers? (fuel + 1) (ks' ++ ':' :: tail) = some ([(textOf ns, item)], rest)) ∧
      ∀ es members, skip r = ',' :: es → readMembers? fuel es = some (members, rest) →
        readMembers? (fuel + 1) (ks' ++ ':' :: tail) = some ((textOf ns, item) :: members, rest) := by
  obtain ⟨after, hafter, hskip⟩ := skip_padded hpad (by decide) (':' :: tail)
  have hcolon : skip (after ++ ':' :: tail) = ':' :: tail :=
    skip_blank_append_of_stops hafter (stops_cons.2 (by decide))
  rw [readMembers?, hskip, List.append_assoc, List.singleton_append]
  simp only [readString?_append hkey, Option.bind_some, hcolon, hitem]
  constructor
  · intro hend
    simp only [hend]
  · intro es members hcomma hmembers
    simp only [hcomma, hmembers, Option.map_some]

theorem readsMembers_succ {fuel : Nat} (hnodes : ReadsNodes fuel) (hmembers : ReadsMembers fuel) :
    ReadsMembers (fuel + 1) := by
  intro members cs rest h hfuel
  cases h with
  | @last ns item ks ks' cs ds hkey hpadKey h hpad =>
    have hclose : Closes ('}' :: rest) := closes_cons.2 (by decide)
    simp only [List.length_append, List.length_cons] at hfuel
    obtain ⟨r, hr, hskip⟩ := hnodes.padded h hpad hclose (by omega)
    rw [List.append_assoc, List.cons_append, List.append_assoc, List.singleton_append]
    exact (readMembers?_succ hkey hpadKey hr).1 hskip
  | @more ns item members ks ks' cs ds es hkey hpadKey h hpad hmore =>
    have hclose : Closes (',' :: (es ++ rest)) := closes_cons.2 (by decide)
    simp only [List.length_append, List.length_cons] at hfuel
    obtain ⟨r, hr, hskip⟩ := hnodes.padded h hpad hclose (by omega)
    rw [List.append_assoc, List.cons_append, List.append_assoc, List.cons_append]
    exact (readMembers?_succ hkey hpadKey hr).2 _ _ hskip (hmembers hmore (by omega))

theorem readsNodes_succ {fuel : Nat} (hitems : ReadsItems fuel) (hmembers : ReadsMembers fuel) :
    ReadsNodes (fuel + 1) := by
  intro node cs rest h hrest hfuel
  cases h with
  | wordNull => simp [readNode?, skip, isSpace]
  | wordTrue => simp [readNode?, skip, isSpace]
  | wordFalse => simp [readNode?, skip, isSpace]
  | number h =>
    obtain ⟨c, ds, rfl, hc⟩ := h.head
    have hread := Numeral.read?_append h hrest
    have haround : c ∉ around := not_mem_of_numeral hc (by simp [around])
    have hother : c ∉ ['n', 't', 'f', '"', '[', '{'] := not_mem_of_numeral hc (by simp)
    rw [List.cons_append] at hread ⊢
    rw [readNode?, skip_of_stops (stops_cons.2 (isSpace_of_not_mem_around haround))]
    split
    case h_7 => rw [hread, Option.map_some]
    all_goals
      next heq => simp [(List.cons.inj heq).1] at hother
  | string h => simp [readNode?, skip, isSpace, readString?_append h]
  | @emptyArray cs h =>
    have hskip : skip (cs ++ ']' :: rest) = ']' :: rest :=
      skip_blank_append_of_stops h (stops_cons.2 (by decide))
    rw [List.cons_append, List.append_assoc, List.singleton_append, readNode?,
      skip_of_stops (stops_cons.2 (by decide))]
    simp only [hskip]
  | array h =>
    obtain ⟨c, ds, hskip, hc⟩ := h.head rest
    rw [List.length_cons] at hfuel
    have hread : readItems? fuel (_ ++ rest) = _ := hitems h (by omega)
    rw [← readItems?_skip, hskip] at hread
    have hbracket : c ≠ ']' := by rintro rfl; exact hc (by decide)
    rw [List.cons_append, readNode?, skip_of_stops (stops_cons.2 (by decide))]
    simp [hskip, hbracket, hread]
  | @emptyObject cs h =>
    have hskip : skip (cs ++ '}' :: rest) = '}' :: rest :=
      skip_blank_append_of_stops h (stops_cons.2 (by decide))
    rw [List.cons_append, List.append_assoc, List.singleton_append, readNode?,
      skip_of_stops (stops_cons.2 (by decide))]
    simp only [hskip]
  | object h =>
    obtain ⟨ds, hskip⟩ := h.head rest
    rw [List.length_cons] at hfuel
    have hread : readMembers? fuel (_ ++ rest) = _ := hmembers h (by omega)
    rw [← readMembers?_skip, hskip] at hread
    rw [List.cons_append, readNode?, skip_of_stops (stops_cons.2 (by decide))]
    simp [hskip, hread]

/-- **With enough fuel every text is read.**  The induction is on the fuel: a tree inside brackets is
shorter by one character, and reading it takes two steps. -/
theorem reads (fuel : Nat) : ReadsNodes fuel ∧ ReadsItems fuel ∧ ReadsMembers fuel := by
  induction fuel with
  | zero =>
    refine ⟨fun h _ hfuel => ?_, fun h hfuel => ?_, fun h hfuel => ?_⟩
    · obtain ⟨c, ds, rfl, -⟩ := h.head
      rw [List.length_cons] at hfuel
      omega
    · cases h <;> simp at hfuel
    · cases h <;> simp at hfuel
  | succ fuel ih =>
    obtain ⟨hnodes, hitems, hmembers⟩ := ih
    exact ⟨readsNodes_succ hitems hmembers, readsItems_succ hnodes hitems,
      readsMembers_succ hnodes hmembers⟩

/-- **Every text of a tree is read** to that tree. -/
theorem read?_of_text {node : Node} {text : String} (h : node.Text text) :
    read? text = some node := by
  obtain ⟨cs, hcs, hpad⟩ := h
  have hclose : Closes [] := by simp [Closes]
  have hreads : ReadsNodes (2 * text.toList.length + 2) := (reads _).1
  obtain ⟨r, hr, hskip⟩ := hreads.padded hcs hpad hclose (by omega)
  rw [List.append_nil] at hr
  rw [read?]
  simp only [hr, hskip]
  rfl

end Node

end CatalogLint.Json
