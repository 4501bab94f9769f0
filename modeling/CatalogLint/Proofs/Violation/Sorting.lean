/-
# Sorting violations: what does not depend on how they came

`sort` compares location, rule and reason, and nothing else of a violation.  Violations that agree
in these are TIED: the order cannot tell them apart, and they stay as they stood.  Two facts about
`sort` carry the statements about whole runs.

* Lists with the same violations in another order are sorted into lists that are tied at every
  position (`forall₂_tied_sort`).  Where tied violations of the list are the `same`, so are the
  sorted lists, position by position (`forall₂_same_sort`).
* Sorting commutes with `filter` (`filter_sort`), for every predicate: what is filtered out never
  moves what stays.

Both come from one description of a sorted list: it is determined up to ties by the number of
violations in each class of ties (`forall₂_tied_of_countP`), and entirely by the classes themselves
(`eq_of_filter_tied`).  Sorting keeps each class as a list (`filter_tied_sort`), which is stability.
-/
import CatalogLint.Violation
import Mathlib.Data.List.Forall2

namespace CatalogLint

namespace Violation

/-! ## 1. Ties -/

/-- Whether the order of reports cannot tell two violations apart. -/
def tied (a b : Violation) : Bool := compare a b == .eq

theorem tied_iff {a b : Violation} : tied a b = true ↔ compare a b = .eq := beq_iff_eq

theorem tied_refl (a : Violation) : tied a a = true := tied_iff.2 Std.ReflCmp.compare_self

theorem tied_symm {a b : Violation} (h : tied a b = true) : tied b a = true :=
  tied_iff.2 (Std.OrientedCmp.eq_symm (tied_iff.1 h))

/-- Tied violations are tied to the same violations. -/
theorem tied_congr {a b : Violation} (h : tied a b = true) (c : Violation) :
    tied c a = tied c b := by
  rw [tied, tied, Std.TransCmp.congr_right (tied_iff.1 h)]

theorem before_of_tied {a b : Violation} (h : tied a b = true) : before a b = true := by
  rw [before, tied_iff.1 h]
  rfl

theorem tied_of_before {a b : Violation} (h : before a b = true) (h' : before b a = true) :
    tied a b = true :=
  tied_iff.2 (Std.OrientedCmp.isLE_antisymm h h')

/-! ## 2. Sorted lists by their classes -/

/-- The head of a sorted list stands before everything that is tied to a member. -/
theorem before_of_head {a b c : Violation} {vs : List Violation}
    (hs : (a :: vs).Pairwise fun a b => before a b = true) (hb : b ∈ a :: vs)
    (hc : tied c b = true) : before a c = true := by
  have hbc : before b c = true := before_of_tied (tied_symm hc)
  rcases List.mem_cons.1 hb with rfl | hb
  · exact hbc
  · exact before_trans (List.rel_of_pairwise_cons hs hb) hbc

/-- **Sorted lists with classes of equal size are tied, position by position.** -/
theorem forall₂_tied_of_countP {vs ws : List Violation}
    (hv : vs.Pairwise fun a b => before a b = true)
    (hw : ws.Pairwise fun a b => before a b = true)
    (h : ∀ c, vs.countP (tied c) = ws.countP (tied c)) :
    List.Forall₂ (fun a b => tied a b = true) vs ws := by
  induction vs generalizing ws with
  | nil =>
    cases ws with
    | nil => exact List.Forall₂.nil
    | cons b ws =>
      have hb := h b
      rw [List.countP_nil, List.countP_cons_of_pos (tied_refl b)] at hb
      omega
  | cons a vs ih =>
    cases ws with
    | nil =>
      have ha := h a
      rw [List.countP_nil, List.countP_cons_of_pos (tied_refl a)] at ha
      omega
    | cons b ws =>
      -- each head is tied to a member of the other list, so each stands before the other
      obtain ⟨d, hd, hbd⟩ : ∃ d ∈ a :: vs, tied b d = true := by
        rw [← List.countP_pos_iff, h b, List.countP_cons_of_pos (tied_refl b)]
        omega
      obtain ⟨e, he, hae⟩ : ∃ e ∈ b :: ws, tied a e = true := by
        rw [← List.countP_pos_iff, ← h a, List.countP_cons_of_pos (tied_refl a)]
        omega
      have hab : tied a b = true :=
        tied_of_before (before_of_head hv hd hbd) (before_of_head hw he hae)
      refine List.Forall₂.cons hab (ih hv.of_cons hw.of_cons fun c => ?_)
      have hc := h c
      rw [List.countP_cons, List.countP_cons, tied_congr hab c] at hc
      omega

/-- **Sorted lists with the same classes are equal.** -/
theorem eq_of_filter_tied {vs ws : List Violation}
    (hv : vs.Pairwise fun a b => before a b = true)
    (hw : ws.Pairwise fun a b => before a b = true)
    (h : ∀ c, vs.filter (tied c) = ws.filter (tied c)) : vs = ws := by
  have htied : List.Forall₂ (fun a b => tied a b = true) vs ws :=
    forall₂_tied_of_countP hv hw fun c => by
      rw [List.countP_eq_length_filter, List.countP_eq_length_filter, h c]
  clear hv hw
  induction htied with
  | nil => rfl
  | @cons a b vs ws hab _ ih =>
    have ha := h a
    rw [List.filter_cons_of_pos (tied_refl a), List.filter_cons_of_pos hab] at ha
    obtain rfl : a = b := (List.cons.inj ha).1
    refine congrArg (a :: ·) (ih fun c => ?_)
    have hc := h c
    rw [List.filter_cons, List.filter_cons] at hc
    split at hc
    · exact (List.cons.inj hc).2
    · exact hc

/-! ## 3. Sorting and its order of entry -/

/-- **Sorting is stable**: the violations tied to one violation stay as they stood. -/
theorem filter_tied_sort (c : Violation) (vs : List Violation) :
    (sort vs).filter (tied c) = vs.filter (tied c) := by
  have hclass : (vs.filter (tied c)).Pairwise fun a b => before a b = true := by
    refine List.pairwise_of_forall_mem_list fun a ha b hb => ?_
    have hca : tied c a = true := (List.mem_filter.1 ha).2
    have hcb : tied c b = true := (List.mem_filter.1 hb).2
    exact before_of_tied ((tied_congr hcb a).symm.trans (tied_symm hca))
  -- a class is sorted as it stands, so it lies in the sorted list, and there are no more of it
  have hsub : (vs.filter (tied c)).Sublist (sort vs) :=
    @List.sublist_mergeSort _ before vs (fun _ _ _ => before_trans) before_total _ hclass
      List.filter_sublist
  have hsub' : (vs.filter (tied c)).Sublist ((sort vs).filter (tied c)) := by
    simpa using hsub.filter (tied c)
  exact (hsub'.eq_of_length ((sort_perm vs).filter _).length_eq.symm).symm

/-- **What is filtered out never moves what stays.** -/
theorem filter_sort (p : Violation → Bool) (vs : List Violation) :
    (sort vs).filter p = sort (vs.filter p) := by
  refine eq_of_filter_tied ((sort_pairwise vs).filter p) (sort_pairwise _) fun c => ?_
  rw [filter_tied_sort, List.filter_comm, filter_tied_sort, List.filter_comm]

/-- The same violations in another order are sorted into a list that is tied at every position. -/
theorem forall₂_tied_sort {vs ws : List Violation} (h : vs.Perm ws) :
    List.Forall₂ (fun a b => tied a b = true) (sort vs) (sort ws) := by
  refine forall₂_tied_of_countP (sort_pairwise vs) (sort_pairwise ws) fun c => ?_
  rw [(sort_perm vs).countP_eq, (sort_perm ws).countP_eq, h.countP_eq]

/-! ## 4. Violations that are the same -/

theorem same_iff {a b : Violation} :
    same a b = true ↔ tied a b = true ∧ a.name = b.name ∧ a.severity = b.severity := by
  simp only [same, Location.same, tied_iff, compare_eq_iff, Bool.and_eq_true, beq_iff_eq]
  constructor
  · rintro ⟨⟨⟨⟨hrule, hname⟩, hsev⟩, hloc⟩, hreason⟩
    exact ⟨⟨hloc, hrule, hreason⟩, hname, hsev⟩
  · rintro ⟨⟨hloc, hrule, hreason⟩, hname, hsev⟩
    exact ⟨⟨⟨⟨hrule, hname⟩, hsev⟩, hloc⟩, hreason⟩

/-- **Order of entry does not matter** where tied violations are the same: the sorted lists then
agree in everything, position by position. -/
theorem forall₂_same_sort {vs ws : List Violation} (h : vs.Perm ws)
    (hsame : ∀ a ∈ vs, ∀ b ∈ vs, tied a b = true → same a b = true) :
    List.Forall₂ (fun a b => same a b = true) (sort vs) (sort ws) := by
  have hleft := (List.forall₂_and_left (sort vs) (sort ws)).2
    ⟨fun a ha => (sort_perm vs).mem_iff.1 ha, forall₂_tied_sort h⟩
  have hright := (List.forall₂_and_left (sort ws) (sort vs)).2
    ⟨fun b hb => h.mem_iff.2 ((sort_perm ws).mem_iff.1 hb), hleft.flip⟩
  exact hright.flip.imp fun a b hab => hsame a hab.2.1 b hab.1 hab.2.2

end Violation

end CatalogLint
