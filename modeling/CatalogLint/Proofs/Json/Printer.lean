/-
# What is printed is in the grammar

The text of a value is a text of a tree.  Strings, natural numbers, lists and objects have one lemma
each (`prints_string`, `prints_natural`, `prints_array`, `prints_object`), so that the trees of a
record are put together as the record is.

* Every character is escaped to a code of its own, and no character is half of another
  (`joinHalves?_toNat`), so a string keeps its characters, control characters among them.
* A number below `2 ^ 64` is read back exactly (`number?_ofNat`): its digits have no zero in front
  (`decimal_of_head_zero`) and are gathered without a rest (`gather_of_lt`).
-/
import CatalogLint.Json.Value
import CatalogLint.Proofs.Json.Grammar
import Mathlib.Data.List.Forall2

namespace CatalogLint

/-! ## 1. Natural numbers -/

namespace Number

theorem le_foldl_digits (n : Nat) (cs : List Char) :
    n ≤ cs.foldl (fun n c => 10 * n + digitValue c) n := by
  induction cs generalizing n with
  | nil => exact Nat.le_refl n
  | cons c cs ih =>
    have := ih (10 * n + digitValue c)
    rw [List.foldl_cons]
    omega

/-- Only zero is written with a zero in front. -/
theorem decimal_of_head_zero {n : Nat} (h : (decimal n).head? = some '0') : decimal n = ['0'] := by
  induction n using Nat.strongRecOn with
  | _ n ih =>
    by_cases hlt : n < 10
    · rw [decimal, Nat.toDigits_of_lt_base hlt] at h ⊢
      rw [List.head?_cons] at h
      rw [Option.some_inj.1 h]
    · have hstep : decimal n = decimal (n / 10) ++ [Nat.digitChar (n % 10)] :=
        Nat.toDigits_eq_if (by decide : 1 < 10) |>.trans (by simp [hlt, decimal])
      rw [hstep, List.head?_append_of_ne_nil _ (decimal_ne_nil _)] at h
      have hzero : n / 10 = 0 := by
        rw [← digitsValue_decimal (n / 10), ih _ (by omega) h]
        decide
      omega

end Number

namespace Json

open CatalogLint.Number

namespace Numeral

/-- Digits whose value fits are gathered without a rest. -/
theorem gather_of_lt {cs : List Char} {n : Nat}
    (h : cs.foldl (fun n c => 10 * n + digitValue c) n < wordLimit) :
    gather n cs = (cs.foldl (fun n c => 10 * n + digitValue c) n, []) := by
  induction cs generalizing n with
  | nil => rfl
  | cons c cs ih =>
    rw [List.foldl_cons] at h ⊢
    have hle := le_foldl_digits (10 * n + digitValue c) cs
    rw [gather]
    simp only [if_pos (Nat.lt_of_le_of_lt hle h)]
    exact ih h

/-- The digits of a number as a numeral. -/
def ofNat (n : Nat) : Numeral := ⟨false, decimal n, none, none⟩

/-- **A word is read back** from its digits. -/
theorem number?_ofNat {n : Nat} (h : n < wordLimit) : (ofNat n).number? = some (.natural n) := by
  have hvalue := digitsValue_decimal n
  rw [digitsValue] at hvalue
  have hgather := gather_of_lt (hvalue ▸ h)
  rw [hvalue] at hgather
  rw [number?, ofNat]
  simp only [hgather]
  rfl

theorem spells_ofNat (n : Nat) : (ofNat n).Spells (decimal n) := by
  have hdigits : Digits (decimal n) := ⟨decimal_ne_nil n, fun c hc => isDigit_of_mem_decimal hc⟩
  have h : (ofNat n).Spells ((if false then ['-'] else []) ++ (decimal n ++ ([] ++ []))) :=
    .parts hdigits decimal_of_head_zero .none .none
  simpa using h

end Numeral

namespace Node

open Value

/-! ## 2. Strings -/

/-- No character is half of a character. -/
theorem isHigh_toNat (c : Char) : isHigh c.toNat = false ∧ isLow c.toNat = false := by
  have h := c.valid
  simp only [UInt32.isValidChar, Nat.isValidChar, Char.toNat_val] at h
  simp only [isHigh, isLow, Bool.and_eq_false_iff, decide_eq_false_iff_not]
  omega

theorem joinHalves?_toNat (cs : List Char) : joinHalves? (cs.map Char.toNat) = some cs := by
  induction cs with
  | nil => rfl
  | cons c cs ih =>
    obtain ⟨hhigh, hlow⟩ := isHigh_toNat c
    cases cs with
    | nil => simp [joinHalves?, hhigh, hlow]
    | cons d cs =>
      rw [List.map_cons, List.map_cons, joinHalves?, ← List.map_cons, ih]
      simp [hhigh, hlow]

theorem textOf_toNat (s : String) : textOf (s.toList.map Char.toNat) = some s := by
  rw [textOf, joinHalves?_toNat, Option.map_some, String.ofList_toList]

/-- A control character is written with four digits. -/
theorem padded_control : ∀ n < 0x20, (Hex.padded 4 n).length = 4 ∧
    Hex.value? (Hex.padded 4 n) = some n := by decide

/-- A character is escaped to its own code. -/
theorem codes_escape (c : Char) {ns : List Nat} {cs : List Char} (h : Codes ns cs) :
    Codes (c.toNat :: ns) (escape c ++ cs) := by
  unfold escape
  split
  case h_8 _ hquote hescape _ _ _ _ _ =>
    split
    · next hcontrol =>
      obtain ⟨hlength, hvalue⟩ := padded_control c.toNat hcontrol
      generalize Hex.padded 4 c.toNat = digits at hlength hvalue
      obtain ⟨w, x, y, z, rfl⟩ : ∃ w x y z, digits = [w, x, y, z] := by
        match digits, hlength with
        | [w, x, y, z], _ => exact ⟨w, x, y, z, rfl⟩
      exact .digits hvalue h
    · next hcontrol => exact .plain (Nat.le_of_not_lt hcontrol) hquote hescape h
  all_goals exact .short rfl h

theorem codes_flatMap_escape (cs : List Char) : Codes (cs.map Char.toNat) (cs.flatMap escape) := by
  induction cs with
  | nil => exact .nil
  | cons c cs ih => exact codes_escape c ih

/-! ## 3. Values -/

/-- A value is printed as a text of a tree. -/
def Prints (v : Value) (node : Node) : Prop := Spells node (chars v)

theorem blank_nil : Blank [] := by simp [Blank]

theorem padded_self (cs : List Char) : Padded cs cs :=
  ⟨[], [], blank_nil, blank_nil, by simp⟩

theorem prints_string {s : String} : Prints (.string s) (string (some s)) := by
  rw [← textOf_toNat s]
  exact .string (codes_flatMap_escape s.toList)

theorem prints_natural {n : Nat} : Prints (.ofNat n) (number (.ofNat n)) :=
  .number (Numeral.spells_ofNat n)

theorem spellsItems_itemChars {v : Value} {vs : List Value} {item : Node} {items : List Node}
    (h : Prints v item) (hs : List.Forall₂ Prints vs items) :
    SpellsItems (item :: items) (chars v ++ itemChars vs) := by
  induction hs generalizing v item with
  | nil => exact .last h (padded_self _)
  | cons hnext _ ih => exact .more h (padded_self _) (ih hnext)

theorem prints_array {vs : List Value} {items : List Node} (h : List.Forall₂ Prints vs items) :
    Prints (.array vs) (array items) := by
  cases h with
  | nil => exact .emptyArray blank_nil
  | cons h hs => exact .array (spellsItems_itemChars h hs)

/-- A member of an object and the member of its tree. -/
def PrintsMember (m : String × Value) (n : Option String × Node) : Prop :=
  n.1 = some m.1 ∧ Prints m.2 n.2

theorem spellsMembers_memberChars {key : String} {v : Value} {node : Node}
    {ms : List (String × Value)} {ns : List (Option String × Node)} (h : Prints v node)
    (hs : List.Forall₂ PrintsMember ms ns) :
    SpellsMembers ((some key, node) :: ns)
      (printString key ++ ':' :: (chars v ++ memberChars ms)) := by
  rw [← textOf_toNat]
  induction hs generalizing key v node with
  | nil => exact .last (codes_flatMap_escape _) (padded_self _) h (padded_self _)
  | @cons m n ms ns hnext _ ih =>
    obtain ⟨key', v'⟩ := m
    obtain ⟨_, node'⟩ := n
    obtain ⟨rfl, hv'⟩ := hnext
    have hmore : SpellsMembers ((textOf (key'.toList.map Char.toNat), node') :: ns) _ := ih hv'
    rw [textOf_toNat] at hmore
    have hchars : memberChars ((key', v') :: ms) =
        ',' :: (printString key' ++ ':' :: (chars v' ++ memberChars ms)) := by simp [memberChars]
    rw [hchars]
    exact .more (codes_flatMap_escape _) (padded_self _) h (padded_self _) hmore

theorem prints_object {members : List (String × Value)} {nodes : List (Option String × Node)}
    (h : List.Forall₂ PrintsMember members nodes) : Prints (.object members) (object nodes) := by
  cases h with
  | nil => exact .emptyObject blank_nil
  | @cons m n ms ns h hs =>
    obtain ⟨key, v⟩ := m
    obtain ⟨_, node⟩ := n
    obtain ⟨rfl, hv⟩ := h
    have hchars : chars (.object ((key, v) :: ms)) =
        '{' :: (printString key ++ ':' :: (chars v ++ memberChars ms)) := by simp [chars]
    rw [Prints, hchars]
    exact .object (spellsMembers_memberChars hv hs)

/-- The text of a value is a whole text of its tree. -/
theorem text_print {v : Value} {node : Node} (h : Prints v node) : node.Text v.print :=
  ⟨chars v, h, by rw [Value.print, String.toList_ofList]; exact padded_self _⟩

end Node

end Json

end CatalogLint
