/-
# Lists and runs of characters

Facts about lists of any kind, which several parts of the development use.

* Steps that may fail are taken apart: two of them in a row succeed if both do, and fail because of
  one of them (`Except.bind_eq_ok_iff`, `Except.bind_eq_error_iff`).
* A list is read item by item: reading succeeds if it does for every item
  (`List.mapM_eq_some_iff_forall₂`, `List.mapM_eq_ok_iff_forall₂`), and fails because of one of them.
* A list is cut at its first separator (`List.recOnSeparator`), and a prefix without separators ends
  before that (`List.prefix_of_prefix_append_cons`).
* Two passes over lists, one inside the other, may be exchanged (`List.flatMap_flatMap_perm`).
* What takes characters as long as they are of one kind needs to know what stands behind them.
  `Text.Stops` says that a text does not start with a character of the kind; it is what is left of a run
  that stands in front of it (`Text.dropWhile_append_of_stops`), and the run is what is taken
  (`Text.takeWhile_append_of_stops`).
-/
import Mathlib.Data.List.DropRight
import Mathlib.Data.List.Forall2
import Mathlib.Data.List.Perm.Basic

/-! ## 1. Steps that may fail -/

namespace Except

variable {α β ε : Type}

/-- Two steps succeed when both do. -/
theorem bind_eq_ok_iff {x : Except ε α} {f : α → Except ε β} {b : β} :
    x >>= f = .ok b ↔ ∃ a, x = .ok a ∧ f a = .ok b := by
  cases x <;> simp [bind, Except.bind]

/-- Two steps fail when the first does, or the second after the first. -/
theorem bind_eq_error_iff {x : Except ε α} {f : α → Except ε β} {e : ε} :
    x >>= f = .error e ↔ x = .error e ∨ ∃ a, x = .ok a ∧ f a = .error e := by
  cases x <;> simp [bind, Except.bind]

theorem map_eq_ok_iff {x : Except ε α} {f : α → β} {b : β} :
    x.map f = .ok b ↔ ∃ a, x = .ok a ∧ f a = b := by
  cases x <;> simp [Except.map]

theorem map_eq_error_iff {x : Except ε α} {f : α → β} {e : ε} :
    x.map f = .error e ↔ x = .error e := by
  cases x <;> simp [Except.map]

end Except

namespace List

variable {α β γ ε : Type}

/-! ## 2. Reading item by item -/

/-- A list is read item by item, and all of them must be read. -/
theorem mapM_eq_some_iff_forall₂ {read : α → Option β} {xs : List α} {ys : List β} :
    xs.mapM read = some ys ↔ Forall₂ (fun x y => read x = some y) xs ys := by
  induction xs generalizing ys with
  | nil => simp [forall₂_nil_left_iff, eq_comm]
  | cons x xs ih =>
    rw [mapM_cons, forall₂_cons_left_iff]
    simp only [Option.bind_eq_bind, Option.bind_eq_some_iff, Option.pure_def, Option.some_inj, ih]
    constructor
    · rintro ⟨y, hy, rest, hrest, rfl⟩
      exact ⟨y, rest, hy, hrest, rfl⟩
    · rintro ⟨y, rest, hy, hrest, rfl⟩
      exact ⟨y, hy, rest, hrest, rfl⟩

theorem mapM_eq_none_of_mem {read : α → Option β} {x : α} {xs : List α} (hx : x ∈ xs)
    (h : read x = none) : xs.mapM read = none := by
  induction xs with
  | nil => cases hx
  | cons y xs ih =>
    rw [mapM_cons]
    rcases mem_cons.1 hx with rfl | hx
    · rw [h]
      rfl
    · rw [ih hx]
      cases read y <;> rfl

/-- The same where reading gives a reason for its failure. -/
theorem mapM_eq_ok_iff_forall₂ {read : α → Except ε β} {xs : List α} {ys : List β} :
    xs.mapM read = .ok ys ↔ Forall₂ (fun x y => read x = .ok y) xs ys := by
  induction xs generalizing ys with
  | nil => simp [forall₂_nil_left_iff, eq_comm, pure, Except.pure]
  | cons x xs ih =>
    rw [mapM_cons, forall₂_cons_left_iff]
    simp only [Except.bind_eq_ok_iff, ih]
    constructor
    · rintro ⟨y, hy, rest, hrest, heq⟩
      exact ⟨y, rest, hy, hrest, (Except.ok.inj heq).symm⟩
    · rintro ⟨y, rest, hy, hrest, rfl⟩
      exact ⟨y, hy, rest, hrest, rfl⟩

/-- Where items are not read, one of them is to blame. -/
theorem exists_of_mapM_eq_error {read : α → Except ε β} {xs : List α} {e : ε}
    (h : xs.mapM read = .error e) : ∃ x ∈ xs, read x = .error e := by
  induction xs with
  | nil => cases h
  | cons x xs ih =>
    rw [mapM_cons] at h
    rcases Except.bind_eq_error_iff.1 h with hx | ⟨y, -, hrest⟩
    · exact ⟨x, mem_cons_self, hx⟩
    · rcases Except.bind_eq_error_iff.1 hrest with hxs | ⟨ys, -, hpure⟩
      · obtain ⟨x', hmem, hx'⟩ := ih hxs
        exact ⟨x', mem_cons_of_mem x hmem, hx'⟩
      · cases hpure

/-! ## 3. Separators -/

variable {separator : α} {as bs p : List α}

/-- A list is without separators, or a list without separators stands in front of one. -/
@[elab_as_elim]
theorem recOnSeparator {P : List α → Prop} (separator : α) (whole : ∀ as, separator ∉ as → P as)
    (more : ∀ as bs, separator ∉ as → P bs → P (as ++ separator :: bs)) (as : List α) : P as := by
  induction hn : as.length using Nat.strongRecOn generalizing as with
  | _ n ih =>
    by_cases hmem : separator ∈ as
    · obtain ⟨cs, bs, rfl, hcs⟩ := eq_append_cons_of_mem hmem
      refine more cs bs hcs (ih bs.length ?_ bs rfl)
      rw [← hn, length_append, length_cons]
      omega
    · exact whole as hmem

/-- What stands in front of a list up to an item that it does not have, stands in front of what comes
before this item. -/
theorem prefix_of_prefix_append_cons (h : p <+: as ++ separator :: bs) (hp : separator ∉ p) :
    p <+: as := by
  have hcut : as ++ [separator] <+: as ++ separator :: bs := ⟨bs, by simp⟩
  rcases prefix_or_prefix_of_prefix h hcut with hle | hge
  · rcases prefix_concat_iff.1 hle with rfl | hle
    · exact absurd (by simp) hp
    · exact hle
  · exact absurd (hge.subset (by simp)) hp

/-! ## 4. Passes -/

/-- Two passes over lists, one inside the other, may be exchanged. -/
theorem flatMap_flatMap_perm (xs : List α) (ys : List β) (f : α → β → List γ) :
    (xs.flatMap fun x => ys.flatMap (f x)).Perm
      (ys.flatMap fun y => xs.flatMap fun x => f x y) := by
  induction xs with
  | nil => simp
  | cons x xs ih =>
    simp only [flatMap_cons]
    exact (ih.append_left _).trans (flatMap_append_perm ys _ _)

end List

/-! ## 5. Runs of characters -/

namespace CatalogLint.Text

/-- The text does not start with a character of the given kind. -/
def Stops (p : Char → Bool) (cs : List Char) : Prop := ∀ c ∈ cs.head?, p c = false

theorem stops_cons {p : Char → Bool} {c : Char} {cs : List Char} :
    Stops p (c :: cs) ↔ p c = false := by
  simp [Stops]

theorem Stops.imp {p q : Char → Bool} {cs : List Char} (h : Stops p cs)
    (hpq : ∀ c, p c = false → q c = false) : Stops q cs := fun c hc => hpq c (h c hc)

theorem Stops.dropWhile_eq {p : Char → Bool} {cs : List Char} (h : Stops p cs) :
    cs.dropWhile p = cs := by
  cases cs with
  | nil => rfl
  | cons c cs => simp [stops_cons.1 h]

/-- A run is dropped alike with a text behind it that does not go on with it. -/
theorem Stops.dropWhile_append {p : Char → Bool} {rest : List Char} (h : Stops p rest)
    (cs : List Char) : (cs ++ rest).dropWhile p = cs.dropWhile p ++ rest := by
  rw [List.dropWhile_append, h.dropWhile_eq]
  split
  · next hempty => rw [List.isEmpty_iff.1 hempty, List.nil_append]
  · rfl

theorem dropWhile_append_of_stops {p : Char → Bool} {cs rest : List Char} (h : ∀ c ∈ cs, p c)
    (hrest : Stops p rest) : (cs ++ rest).dropWhile p = rest := by
  rw [List.dropWhile_append_of_pos h, hrest.dropWhile_eq]

theorem takeWhile_append_of_stops {p : Char → Bool} {cs rest : List Char} (h : ∀ c ∈ cs, p c)
    (hrest : Stops p rest) : (cs ++ rest).takeWhile p = cs := by
  rw [List.takeWhile_append_of_pos h]
  cases rest with
  | nil => simp
  | cons c rest => simp [stops_cons.1 hrest]

end CatalogLint.Text
