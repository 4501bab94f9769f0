/-
# What the parts of a comment say

A comment is read in two steps: a text into the members of an object, and four of the members into the
parts of a comment.  This module says, without the readers, which texts are read and what their parts
are.

* `Holds` is the rule for one member: it is absent or `null`, or it has the expected shape.  `Says` is
  that rule for all four members, and `Decodes` says the same of a comment's text.
* A length is read in steps, some of which round.  Only words from `2 ^ 63` on are rounded, and rounding
  does not move them below that, where the words with a sign end.  So the steps hold the exact integer
  to sixty-four bits (`wholeNumber?_eq`), for every number that a text can hold.
* A length stands in `Says` as it is written, as any integer.  `held` brings it into the range of
  sixty-four bits, and reading is `Says` followed by `held` (`ofMembers?_eq_some_iff`).
* Texts that are not read are those that decode to nothing (`validate_of_not_decodes`), and the verdict
  on the others depends on what they decode to (`validate_of_decodes`).
* The members of an object that was read ascend by their keys (`sorted_of_read?`).
-/
import CatalogLint.Comment.Validator
import CatalogLint.Proofs.Json.Range
import CatalogLint.Proofs.List

namespace CatalogLint.Comment

open Json CatalogLint.Number

variable {α : Type} {members : Table Value} {c : Comment} {r : Record}

/-! ## 1. Single members -/

/-- A member of an object that may be left out: it is absent or `null`, or it stands for something. -/
inductive Holds (P : Value → α → Prop) : Option Value → Option α → Prop
  /-- The member is absent. -/
  | absent : Holds P none none
  /-- The member is `null`. -/
  | null : Holds P (some .null) none
  /-- The member has a value that stands for something. -/
  | given {v : Value} {a : α} (h : P v a) : Holds P (some v) (some a)

theorem holds_congr {P Q : Value → α → Prop} (h : ∀ v a, P v a ↔ Q v a) {v : Option Value}
    {a : Option α} : Holds P v a ↔ Holds Q v a := by
  constructor
  · rintro (_ | _ | hp)
    · exact .absent
    · exact .null
    · exact .given ((h _ _).1 hp)
  · rintro (_ | _ | hq)
    · exact .absent
    · exact .null
    · exact .given ((h _ _).2 hq)

/-- A member is read when it holds something for the reader of its values. -/
theorem member?_eq_some_iff {read : Value → Option α} (hnull : read .null = none) {key : String}
    {a : Option α} :
    member? read members key = some a ↔
      Holds (fun v b => read v = some b) (Table.get? members key) a := by
  unfold member?
  split
  · next hget =>
    rw [hget, Option.some_inj]
    constructor
    · rintro rfl
      exact .absent
    · rintro (_ | _ | _)
      rfl
  · next hget =>
    rw [hget, Option.some_inj]
    constructor
    · rintro rfl
      exact .null
    · rintro (_ | _ | h)
      · rfl
      · exact absurd h (by simp [hnull])
  · next v hv hget =>
    rw [hget, Option.map_eq_some_iff]
    constructor
    · rintro ⟨b, hb, rfl⟩
      exact .given hb
    · rintro (_ | _ | h)
      · exact absurd rfl hv
      · exact ⟨_, h, rfl⟩

theorem text?_eq_some_iff {v : Value} {s : String} : text? v = some s ↔ v = .string s := by
  cases v <;> simp [text?]

theorem texts?_eq_some_iff {v : Value} {names : List String} :
    texts? v = some names ↔ v = .array (names.map .string) := by
  cases v with
  | array items =>
    rw [texts?, Value.array.injEq, List.mapM_eq_some_iff_forall₂, ← List.forall₂_eq_eq_eq,
      List.forall₂_map_right_iff]
    simp only [text?_eq_some_iff]
  | _ => simp [texts?]

theorem member?_text?_eq_some_iff {key : String} {a : Option String} :
    member? text? members key = some a ↔
      Holds (fun v s => v = .string s) (Table.get? members key) a :=
  (member?_eq_some_iff rfl).trans (holds_congr fun _ _ => text?_eq_some_iff)

theorem member?_texts?_eq_some_iff {key : String} {a : Option (List String)} :
    member? texts? members key = some a ↔
      Holds (fun v names => v = .array (names.map .string)) (Table.get? members key) a :=
  (member?_eq_some_iff rfl).trans (holds_congr fun _ _ => texts?_eq_some_iff)

/-! ## 2. Lengths -/

/-- **The steps of reading hold the exact integer to sixty-four bits**, whatever they go through. -/
theorem wholeNumber?_eq {x : Number} (h : x.Fits) :
    wholeNumber? x = x.whole?.map clampSigned := by
  cases x with
  | natural n =>
    rw [Number.whole?, Option.map_some]
    rcases Nat.lt_or_ge n signedLimit with hsigned | hbeyond
    · have hfits : fitsSigned n = true := by
        rw [fitsSigned_iff]
        omega
      rw [wholeNumber?, Number.signed?, if_pos hsigned, Option.some_or,
        clampSigned_of_fitsSigned hfits]
    · obtain ⟨k, hk, hlimit⟩ := Number.exists_whole?_nearest hbeyond h
      have hclamp : clampSigned k = clampSigned n := by
        rw [clampSigned, clampSigned]
        omega
      rw [wholeNumber?, Number.signed?, if_neg (Nat.not_lt.2 hbeyond), Option.none_or, hk,
        Option.map_some, hclamp]
  | negative n =>
    obtain ⟨hpos, hle⟩ := h
    have hfits : fitsSigned (-(n : Int)) = true := by
      rw [fitsSigned_iff]
      omega
    rw [wholeNumber?, Number.signed?, Option.some_or, Number.whole?, Option.map_some,
      clampSigned_of_fitsSigned hfits]
  | double d => rfl

/-- A length is read from a number that is an integer, and held to sixty-four bits. -/
theorem length?_eq_some_iff {v : Value} (hfits : ∀ x, v = .number x → x.Fits) {k : Int} :
    length? v = some k ↔
      ∃ (x : Number) (n : Int), v = .number x ∧ x.rational? = some (n : ℚ) ∧ clampSigned n = k := by
  cases v with
  | number x => simp [length?, wholeNumber?_eq (hfits x rfl), Number.whole?_eq_some_iff]
  | _ => simp [length?]

/-- A length is read as it is written and then held to sixty-four bits. -/
theorem member?_length?_eq_some_iff {key : String}
    (hfits : ∀ x, Table.get? members key = some (.number x) → x.Fits) {a : Option Int} :
    member? length? members key = some a ↔
      ∃ n : Option Int,
        Holds (fun v (n : Int) => ∃ x : Number, v = .number x ∧ x.rational? = some (n : ℚ))
          (Table.get? members key) n ∧ n.map clampSigned = a := by
  rw [member?_eq_some_iff rfl]
  generalize Table.get? members key = v at hfits
  constructor
  · intro h
    cases h with
    | absent => exact ⟨none, .absent, rfl⟩
    | null => exact ⟨none, .null, rfl⟩
    | given h =>
      obtain ⟨x, n, rfl, hx, rfl⟩ :=
        (length?_eq_some_iff fun x hx => hfits x (congrArg some hx)).1 h
      exact ⟨some n, .given ⟨x, rfl, hx⟩, rfl⟩
  · rintro ⟨n, h, rfl⟩
    cases h with
    | absent => exact .absent
    | null => exact .null
    | given h =>
      obtain ⟨x, rfl, hx⟩ := h
      exact .given ((length?_eq_some_iff fun y hy => hfits y (congrArg some hy)).2
        ⟨x, _, rfl, hx, rfl⟩)

/-! ## 3. All members -/

/-- **What the members of an object say**, taken for the parts of a comment: a description and a
screenshot are strings, placeholders a list of strings, and a length is a number that is an
integer. -/
structure Says (members : Table Value) (c : Comment) : Prop where
  description : Holds (fun v s => v = .string s) (Table.get? members "description") c.description
  placeholders : Holds (fun v names => v = .array (names.map .string))
    (Table.get? members "placeholders") c.placeholders
  screenshot : Holds (fun v s => v = .string s) (Table.get? members "img") c.screenshot
  greatestLength : Holds (fun v (n : Int) => ∃ x : Number, v = .number x ∧ x.rational? = some (n : ℚ))
    (Table.get? members "max_character_count") c.greatestLength

/-- A comment with its length held to sixty-four bits. -/
def held (c : Comment) : Comment :=
  { c with greatestLength := c.greatestLength.map clampSigned }

/-- **The parts of a comment are what its members say**, with the length held to sixty-four bits. -/
theorem ofMembers?_eq_some_iff
    (hfits : ∀ x, Table.get? members "max_character_count" = some (.number x) → x.Fits) :
    ofMembers? members = some c ↔ ∃ d, Says members d ∧ d.held = c := by
  simp only [ofMembers?, Option.bind_eq_bind, Option.bind_eq_some_iff, Option.pure_def,
    Option.some_inj, member?_length?_eq_some_iff hfits, member?_text?_eq_some_iff,
    member?_texts?_eq_some_iff]
  constructor
  · rintro ⟨description, hd, placeholders, hp, screenshot, hs, length, ⟨n, hn, rfl⟩, rfl⟩
    exact ⟨⟨description, placeholders, screenshot, n⟩, ⟨hd, hp, hs, hn⟩, rfl⟩
  · rintro ⟨d, h, rfl⟩
    exact ⟨_, h.description, _, h.placeholders, _, h.screenshot, _, ⟨_, h.greatestLength, rfl⟩, rfl⟩

/-! ## 4. The text of a comment -/

/-- The text of a comment is there, is an object of JSON with the given members, and these say the
given parts. -/
structure Decodes (text : Option String) (members : Table Value) (c : Comment) : Prop where
  object : ∃ s, text = some s ∧ Value.read? s = some (.object members)
  parts : Says members c

theorem members?_eq_some_iff {text : Option String} :
    members? text = some members ↔
      ∃ s, text = some s ∧ Value.read? s = some (.object members) := by
  unfold members?
  cases text with
  | none => simp
  | some s =>
    rw [Option.bind_some]
    cases hread : Value.read? s with
    | none => simp [hread]
    | some v => cases v <;> simp [hread]

/-- Comments that were read hold only numbers in their range. -/
theorem fits_of_members? {text : Option String} (h : members? text = some members) {key : String}
    (x : Number) (hget : Table.get? members key = some (.number x)) : x.Fits := by
  obtain ⟨s, -, hread⟩ := members?_eq_some_iff.1 h
  exact Value.fits_of_read? hread hget

/-- The members of a text whose tree is known. -/
theorem members?_of_read? {s : String} {nodes : List (Option String × Node)}
    {entries : List (String × Value)} (hnodes : Node.read? s = some (.object nodes))
    (hentries : Node.membersWithin? nodes (Node.deepest - 1) = some entries) :
    members? (some s) = some (Table.ofEntries entries) :=
  members?_eq_some_iff.2 ⟨s, rfl, Value.read?_eq_object_iff.2
    ⟨nodes, entries, Node.read?_eq_some_iff.1 hnodes, hentries, rfl⟩⟩

namespace Validator

variable (v : Validator)

theorem validate_of_decodes (h : Decodes r.comment members c) :
    v.validate r = v.check members c.held r := by
  have hmembers : members? r.comment = some members := members?_eq_some_iff.2 h.object
  have hparts : ofMembers? members = some c.held :=
    (ofMembers?_eq_some_iff (fits_of_members? hmembers)).2 ⟨c, h.parts, rfl⟩
  rw [validate, hmembers]
  dsimp only
  rw [hparts]

theorem validate_of_not_decodes (h : ∀ members c, ¬ Decodes r.comment members c) :
    v.validate r = some .invalidJson := by
  rw [validate]
  split
  · rfl
  · next members hmembers =>
    split
    · rfl
    · next d hd =>
      obtain ⟨c, hc, -⟩ := (ofMembers?_eq_some_iff (fits_of_members? hmembers)).1 hd
      exact absurd ⟨members?_eq_some_iff.1 hmembers, hc⟩ (h members c)

end Validator

/-- The members of an object that was read ascend by their keys. -/
theorem sorted_of_read? {s : String} (h : Value.read? s = some (.object members)) :
    Table.Sorted members := by
  obtain ⟨nodes, entries, -, -, rfl⟩ := Value.read?_eq_object_iff.1 h
  exact Table.ofEntries_sorted entries

end CatalogLint.Comment
