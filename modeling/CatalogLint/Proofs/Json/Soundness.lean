/-
# The reader reads nothing else

The counterpart of `read?_of_text`: what is read is spelled by what was taken.  So a text is read to a
tree exactly when it is one of the texts of that tree (`read?_eq_some_iff`).

* `Takes` says it of a reader of one part: what it takes from the front of a text spells what it
  gives, and the rest is left as it is.
* Blanks in front of a tree are taken with it, and those behind it are left for the next reader; items
  and members pad their trees with both.
* `takes` is the induction over the fuel.  It asks nothing of the fuel, which only bounds what is read.
-/
import CatalogLint.Proofs.Json.Reader

namespace CatalogLint.Json

open CatalogLint.Number

variable {cs rest : List Char}

/-- What is taken from the front of a text spells what is given. -/
def Takes {α : Type} (P : α → List Char → Prop) (read : List Char → Option (α × List Char)) : Prop :=
  ∀ {cs : List Char} {a : α} {rest : List Char}, read cs = some (a, rest) →
    ∃ ds, P a ds ∧ cs = ds ++ rest

/-! ## 1. Numerals -/

namespace Numeral

theorem digits_takeWhile (h : (cs.takeWhile Char.isDigit).isEmpty = false) :
    Digits (cs.takeWhile Char.isDigit) :=
  ⟨List.isEmpty_eq_false_iff.1 h, fun _ hc => List.mem_takeWhile_imp hc⟩

/-- Digits are taken as far as they go, if there are any. -/
theorem takes_digits {α : Type} (f : List Char → α) :
    Takes (fun a ds => Digits ds ∧ f ds = a) fun cs =>
      if (cs.takeWhile Char.isDigit).isEmpty then none
      else some (f (cs.takeWhile Char.isDigit), cs.dropWhile Char.isDigit) := by
  intro cs a rest h
  dsimp only at h
  split at h
  · cases h
  · next hdigits =>
    cases h
    exact ⟨_, ⟨digits_takeWhile (by simpa using hdigits), rfl⟩, List.takeWhile_append_dropWhile.symm⟩

theorem takes_readFraction? : Takes Fraction readFraction? := by
  intro cs fraction rest h
  unfold readFraction? at h
  split at h
  · obtain ⟨digits, ⟨hdigits, rfl⟩, rfl⟩ := takes_digits some h
    exact ⟨_, .some hdigits, rfl⟩
  · cases h
    exact ⟨[], .none, rfl⟩

/-- An exponent behind its letter. -/
theorem takes_readSigned? {e : Char} (he : e = 'e' ∨ e = 'E') :
    Takes (fun n ds => Exponent (some n) (e :: ds)) readSigned? := by
  intro cs n rest h
  unfold readSigned? at h
  split at h
  next sign unsigned hsign =>
  obtain ⟨digits, ⟨hdigits, rfl⟩, rfl⟩ := takes_digits (fun ds => sign * (digitsValue ds : Int)) h
  split at hsign
  · cases hsign
    refine ⟨'-' :: digits, ?_, rfl⟩
    rw [Int.neg_one_mul]
    exact .minus he hdigits
  · cases hsign
    refine ⟨'+' :: digits, ?_, rfl⟩
    rw [Int.one_mul]
    exact .plus he hdigits
  · cases hsign
    refine ⟨digits, ?_, rfl⟩
    rw [Int.one_mul]
    exact .unsigned he hdigits

theorem takes_readExponent? : Takes Exponent readExponent? := by
  intro cs exponent rest h
  unfold readExponent? at h
  split at h
  · obtain ⟨⟨n, r⟩, hread, hn⟩ := Option.map_eq_some_iff.1 h
    cases hn
    obtain ⟨ds, hds, rfl⟩ := takes_readSigned? (.inl rfl) hread
    exact ⟨_, hds, rfl⟩
  · obtain ⟨⟨n, r⟩, hread, hn⟩ := Option.map_eq_some_iff.1 h
    cases hn
    obtain ⟨ds, hds, rfl⟩ := takes_readSigned? (.inr rfl) hread
    exact ⟨_, hds, rfl⟩
  · cases h
    exact ⟨[], .none, rfl⟩

theorem takes_read? : Takes Spells read? := by
  intro cs x rest h
  unfold read? at h
  split at h
  next negative unsigned hsign =>
  have hcs : cs = (if negative then ['-'] else []) ++ unsigned := by
    split at hsign <;> cases hsign <;> rfl
  dsimp only at h
  split at h
  · cases h
  · next hwhole =>
    obtain ⟨⟨fraction, r⟩, hfraction, h⟩ := Option.bind_eq_some_iff.1 h
    obtain ⟨⟨exponent, r'⟩, hexponent, hx⟩ := Option.map_eq_some_iff.1 h
    cases hx
    obtain ⟨fs, hfs, hr⟩ := takes_readFraction? hfraction
    obtain ⟨es, hes, rfl⟩ := takes_readExponent? hexponent
    simp only [Bool.or_eq_true, Bool.and_eq_true, beq_iff_eq, bne_iff_ne, not_or, not_and,
      not_not, Bool.not_eq_true] at hwhole
    refine ⟨_, .parts (digits_takeWhile hwhole.1) hwhole.2 hfs hes, ?_⟩
    rw [hcs, List.append_assoc, List.append_assoc, List.append_assoc, ← hr,
      List.takeWhile_append_dropWhile]

end Numeral

namespace Node

/-! ## 2. Strings -/

/-- The codes of a string are taken with the quote behind them. -/
theorem codes?_sound {ns : List Nat} (h : codes? cs = some (ns, rest)) :
    ∃ ks, Codes ns ks ∧ cs = ks ++ '"' :: rest := by
  induction cs using codes?.induct generalizing ns with
  | case1 => simp [codes?] at h
  | case2 r =>
    obtain ⟨rfl, rfl⟩ : [] = ns ∧ r = rest := by simpa [codes?] using h
    exact ⟨[], .nil, rfl⟩
  | case3 a b c d r ih =>
    rw [codes?] at h
    obtain ⟨n, hn, h⟩ := Option.bind_eq_some_iff.1 h
    obtain ⟨⟨ms, r'⟩, hr, hms⟩ := Option.map_eq_some_iff.1 h
    cases hms
    obtain ⟨ks, hks, rfl⟩ := ih hr
    exact ⟨_, .digits hn hks, rfl⟩
  | case4 e r hdigits ih =>
    rw [codes?] at h
    · obtain ⟨c, hc, h⟩ := Option.bind_eq_some_iff.1 h
      obtain ⟨⟨ms, r'⟩, hr, hms⟩ := Option.map_eq_some_iff.1 h
      cases hms
      obtain ⟨ks, hks, rfl⟩ := ih hr
      exact ⟨_, .short hc hks, rfl⟩
    · exact hdigits
  | case5 c r hquote hdigits hshort hbad =>
    rw [codes?, if_pos hbad] at h
    · cases h
    all_goals assumption
  | case6 c r hquote hdigits hshort hgood ih =>
    rw [codes?, if_neg hgood] at h
    · obtain ⟨⟨ms, r'⟩, hr, hms⟩ := Option.map_eq_some_iff.1 h
      cases hms
      obtain ⟨ks, hks, rfl⟩ := ih hr
      rw [not_or, Nat.not_lt] at hgood
      exact ⟨_, .plain hgood.1 hquote hgood.2 hks, rfl⟩
    all_goals assumption

theorem readString?_sound {text : Option String} (h : readString? cs = some (text, rest)) :
    ∃ ns ks, text = textOf ns ∧ Codes ns ks ∧ cs = ks ++ '"' :: rest := by
  obtain ⟨⟨ns, r⟩, hr, htext⟩ := Option.map_eq_some_iff.1 h
  cases htext
  obtain ⟨ks, hks, hcs⟩ := codes?_sound hr
  exact ⟨ns, ks, rfl, hks, hcs⟩

/-! ## 3. Trees -/

/-- What is skipped are blanks. -/
theorem exists_blank (cs : List Char) : ∃ before, Blank before ∧ cs = before ++ skip cs :=
  ⟨cs.takeWhile isSpace, fun _ hc => List.mem_takeWhile_imp hc, List.takeWhile_append_dropWhile.symm⟩

/-- A tree with blanks in front. -/
def Led (node : Node) (ds : List Char) : Prop :=
  ∃ before cs, Blank before ∧ Spells node cs ∧ ds = before ++ cs

/-- A tree that was taken, and the blanks behind it. -/
theorem Led.padded {node : Node} {ds : List Char} (h : Led node ds) (rest : List Char) :
    ∃ cs ds', Spells node cs ∧ Padded cs ds' ∧ ds ++ rest = ds' ++ skip rest := by
  obtain ⟨before, cs, hbefore, hcs, rfl⟩ := h
  obtain ⟨after, hafter, hrest⟩ := exists_blank rest
  refine ⟨cs, before ++ (cs ++ after), hcs, ⟨before, after, hbefore, hafter, rfl⟩, ?_⟩
  conv_lhs => rw [hrest]
  simp

theorem takes_readItems?_succ {fuel : Nat} (hnode : Takes Led (readNode? fuel))
    (hitems : Takes SpellsItems (readItems? fuel)) : Takes SpellsItems (readItems? (fuel + 1)) := by
  intro cs items rest hread
  rw [readItems?] at hread
  obtain ⟨⟨item, r⟩, hitem, h⟩ := Option.bind_eq_some_iff.1 hread
  obtain ⟨ds, hds, hcs⟩ := hnode hitem
  obtain ⟨ts, ds', hts, hpad, hpadded⟩ := hds.padded r
  rw [hcs, hpadded]
  dsimp only at h
  split at h
  · next r' hskip =>
    obtain ⟨⟨items', r''⟩, hmore, hcons⟩ := Option.map_eq_some_iff.1 h
    cases hcons
    obtain ⟨es, hes, rfl⟩ := hitems hmore
    exact ⟨_, .more hts hpad hes, by rw [hskip]; simp⟩
  · next r' hskip =>
    cases h
    exact ⟨_, .last hts hpad, by rw [hskip]; simp⟩
  · cases h

theorem takes_readMembers?_succ {fuel : Nat} (hnode : Takes Led (readNode? fuel))
    (hmembers : Takes SpellsMembers (readMembers? fuel)) :
    Takes SpellsMembers (readMembers? (fuel + 1)) := by
  intro cs members rest hread
  rw [readMembers?] at hread
  split at hread
  case h_2 => cases hread
  next r hquote =>
  obtain ⟨⟨key, r'⟩, hkey, hmember⟩ := Option.bind_eq_some_iff.1 hread
  dsimp only at hmember
  split at hmember
  case h_2 => cases hmember
  next tail hcolon =>
  obtain ⟨⟨item, r''⟩, hitem, h⟩ := Option.bind_eq_some_iff.1 hmember
  obtain ⟨ns, ks, rfl, hks, hr⟩ := readString?_sound hkey
  obtain ⟨before, hbefore, hcs⟩ := exists_blank cs
  obtain ⟨after, hafter, hr'⟩ := exists_blank r'
  obtain ⟨ds, hds, htail⟩ := hnode hitem
  obtain ⟨ts, ds', hts, hpad, hpadded⟩ := hds.padded r''
  have hpadKey : Padded ('"' :: (ks ++ ['"'])) (before ++ ('"' :: (ks ++ ['"']) ++ after)) :=
    ⟨before, after, hbefore, hafter, rfl⟩
  rw [hcs, hquote, hr, hr', hcolon, htail, hpadded]
  dsimp only at h
  split at h
  · next es hskip =>
    obtain ⟨⟨members', r⟩, hmore, hcons⟩ := Option.map_eq_some_iff.1 h
    cases hcons
    obtain ⟨es, hes, rfl⟩ := hmembers hmore
    exact ⟨_, .more hks hpadKey hts hpad hes, by rw [hskip]; simp⟩
  · next hskip =>
    cases h
    exact ⟨_, .last hks hpadKey hts hpad, by rw [hskip]; simp⟩
  · cases h

theorem takes_readNode?_succ {fuel : Nat} (hitems : Takes SpellsItems (readItems? fuel))
    (hmembers : Takes SpellsMembers (readMembers? fuel)) : Takes Led (readNode? (fuel + 1)) := by
  intro cs node rest h
  obtain ⟨before, hbefore, hcs⟩ := exists_blank cs
  suffices ∃ ts, Spells node ts ∧ skip cs = ts ++ rest by
    obtain ⟨ts, hts, hskip⟩ := this
    exact ⟨before ++ ts, ⟨before, ts, hbefore, hts, rfl⟩, by rw [hcs, hskip, List.append_assoc]⟩
  clear hcs
  rw [readNode?] at h
  split at h
  · next hskip =>
    cases h
    exact ⟨_, .wordNull, hskip⟩
  · next hskip =>
    cases h
    exact ⟨_, .wordTrue, hskip⟩
  · next hskip =>
    cases h
    exact ⟨_, .wordFalse, hskip⟩
  · next r hskip =>
    obtain ⟨⟨text, r'⟩, htext, hnode⟩ := Option.map_eq_some_iff.1 h
    cases hnode
    obtain ⟨ns, ks, rfl, hks, rfl⟩ := readString?_sound htext
    exact ⟨_, .string hks, by rw [hskip]; simp⟩
  · next r hskip =>
    obtain ⟨blank, hblank, hr⟩ := exists_blank r
    split at h
    · next r' hclose =>
      cases h
      exact ⟨_, .emptyArray hblank, by rw [hskip, hr, hclose]; simp⟩
    · obtain ⟨⟨items, r'⟩, hread, hnode⟩ := Option.map_eq_some_iff.1 h
      cases hnode
      rw [readItems?_skip] at hread
      obtain ⟨es, hes, rfl⟩ := hitems hread
      exact ⟨_, .array hes, hskip⟩
  · next r hskip =>
    obtain ⟨blank, hblank, hr⟩ := exists_blank r
    split at h
    · next r' hclose =>
      cases h
      exact ⟨_, .emptyObject hblank, by rw [hskip, hr, hclose]; simp⟩
    · obtain ⟨⟨members, r'⟩, hread, hnode⟩ := Option.map_eq_some_iff.1 h
      cases hnode
      rw [readMembers?_skip] at hread
      obtain ⟨es, hes, rfl⟩ := hmembers hread
      exact ⟨_, .object hes, hskip⟩
  · obtain ⟨⟨x, r'⟩, hx, hnode⟩ := Option.map_eq_some_iff.1 h
    cases hnode
    obtain ⟨ts, hts, hskip⟩ := Numeral.takes_read? hx
    exact ⟨ts, .number hts, hskip⟩

/-- **What is taken is spelled**, whatever the fuel. -/
theorem takes (fuel : Nat) : Takes Led (readNode? fuel) ∧ Takes SpellsItems (readItems? fuel) ∧
    Takes SpellsMembers (readMembers? fuel) := by
  induction fuel with
  | zero =>
    refine ⟨?_, ?_, ?_⟩ <;> intro cs a rest h <;> cases h
  | succ fuel ih =>
    obtain ⟨hnode, hitems, hmembers⟩ := ih
    exact ⟨takes_readNode?_succ hitems hmembers, takes_readItems?_succ hnode hitems,
      takes_readMembers?_succ hnode hmembers⟩

/-- **A text is read to the tree that it spells**, and to no other. -/
theorem read?_eq_some_iff {text : String} {node : Node} : read? text = some node ↔ node.Text text := by
  refine ⟨fun h => ?_, read?_of_text⟩
  rw [read?] at h
  split at h
  · next node' r hread =>
    split at h
    · next hempty =>
      cases h
      obtain ⟨ds, hds, hcs⟩ := (takes _).1 hread
      obtain ⟨ts, ds', hts, hpad, htext⟩ := hds.padded r
      rw [List.isEmpty_iff.1 hempty, List.append_nil] at htext
      exact ⟨ts, hts, by rwa [hcs, htext]⟩
    · cases h
  · cases h

end Node

end CatalogLint.Json
