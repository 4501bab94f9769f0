/-
# What the small form of a text depends on

A text is written small character by character, with one exception: the capital sigma looks at the
characters around it.  This module says how far it looks, and which characters come back when they
are written large and then small again.

* Small letters stay as they are (`small_of_mem_small`): the table maps nothing that it maps to
  (`sources_and_images`).
* Dots and underscores stand for themselves, and nothing else becomes one (`mem_small_iff`,
  `mem_lowerFrom_iff`).
* No sigma sees past an underscore, which is neither a letter nor looked through
  (`lower_append_underscore`).  A dot is looked through, so a sigma sees past it unless another
  character is in the way (`DotsUnseen`, `lower_append_dot`).  Without a sigma there is nothing to
  look for (`lowerFrom_eq_flatMap`).
* `Steady` characters come back from their capital form, and so do words that begin with one
  (`SmallForm.capitalize`).  All of ASCII is steady (`steady_ascii`).
-/
import CatalogLint.Text.LetterCase
import Mathlib

namespace CatalogLint.Text

variable {c d : Char} {before before' as bs cs : List Char}

/-! ## 1. Small letters -/

/-- The code points of a run when its first one is moved to the given place. -/
def CaseRun.codes : CaseRun → Nat → List Nat
  | (first, last, step, _), start =>
    (List.range ((last - first) / step + 1)).map fun j => start + step * j

/-- A set of numbers as the bits of one. -/
def bits (ns : List Nat) : Nat := ns.foldl (fun m n => m ||| 1 <<< n) 0

/-- **No small letter has a small letter of its own.**  The table has too many pairs of runs to look
at each, so both sides are put into one number. -/
theorem sources_and_images :
    bits (0x130 :: smallRuns.flatMap fun run => run.codes run.1) &&&
      bits (smallRuns.flatMap fun run => run.codes run.2.2.2) = 0 := by
  decide +kernel

/-- Every image lies beyond the capital letters of ASCII. -/
theorem image_smallRuns : ∀ run ∈ smallRuns, 0x60 < run.2.2.2 := by decide +kernel

/-- Bits that are set stay set. -/
theorem testBit_foldl {ns : List Nat} {n m : Nat} (h : m.testBit n ∨ n ∈ ns) :
    (ns.foldl (fun m n => m ||| 1 <<< n) m).testBit n := by
  induction ns generalizing m with
  | nil => simpa using h
  | cons k ns ih =>
    refine ih ?_
    rcases h with h | h
    · exact .inl (by rw [Nat.testBit_or, h, Bool.true_or])
    · refine (List.mem_cons.1 h).imp_left ?_
      rintro rfl
      rw [Nat.testBit_or, Nat.one_shiftLeft, Nat.testBit_two_pow_self, Bool.or_true]

theorem testBit_bits {ns : List Nat} {n : Nat} (h : n ∈ ns) : (bits ns).testBit n :=
  testBit_foldl (.inr h)

theorem mem_codes {first last step image k start : Nat} (hk : k ≤ last - first)
    (hstep : k % step = 0) : start + k ∈ CaseRun.codes (first, last, step, image) start := by
  refine List.mem_map.2 ⟨k / step, ?_, ?_⟩
  · have := Nat.div_le_div_right (c := step) hk
    exact List.mem_range.2 (by omega)
  · have := Nat.div_add_mod k step
    omega

theorem exists_run {runs : List CaseRun} (h : mapRuns? runs c = some d) :
    ∃ first last step image, (first, last, step, image) ∈ runs ∧ first ≤ c.toNat ∧
      c.toNat ≤ last ∧ (c.toNat - first) % step = 0 ∧ d = Char.ofNat (image + (c.toNat - first)) := by
  obtain ⟨⟨first, last, step, image⟩, hrun, rfl⟩ := Option.map_eq_some_iff.1 h
  have hmaps := List.find?_some hrun
  simp only [Bool.and_eq_true, decide_eq_true_eq, beq_iff_eq] at hmaps
  exact ⟨first, last, step, image, List.mem_of_find?_eq_some hrun, hmaps.1.1, hmaps.1.2, hmaps.2,
    rfl⟩

/-- The small form of a character beyond ASCII is itself, or its image, or two characters. -/
theorem small_cases (hc : 0x80 ≤ c.toNat) :
    small c = [c] ∨ small c = ['i', '\u0307'] ∨
      ∃ d, small c = [d] ∧ mapRuns? smallRuns c = some d := by
  rw [small, if_neg (Nat.not_lt.2 hc)]
  split
  · exact .inr (.inl rfl)
  · cases mapRuns? smallRuns c with
    | none => exact .inl rfl
    | some d => exact .inr (.inr ⟨d, rfl, rfl⟩)

/-- A code point that is mapped is no image. -/
theorem not_mem_sources {n : Nat} {first last step image k : Nat}
    (hrun : (first, last, step, image) ∈ smallRuns) (hk : k ≤ last - first) (hstep : k % step = 0)
    (hn : n ∈ 0x130 :: smallRuns.flatMap fun run => run.codes run.1) : n ≠ image + k := by
  rintro rfl
  have himage : image + k ∈ smallRuns.flatMap fun run => run.codes run.2.2.2 :=
    List.mem_flatMap.2 ⟨_, hrun, mem_codes hk hstep⟩
  have hbit := congrArg (Nat.testBit · (image + k)) sources_and_images
  simp [testBit_bits hn, testBit_bits himage] at hbit

/-- An image is no capital letter. -/
theorem small_of_mapRuns? (h : mapRuns? smallRuns c = some d) : small d = [d] := by
  obtain ⟨first, last, step, image, hrun, hfirst, hlast, hstep, rfl⟩ := exists_run h
  have hk : c.toNat - first ≤ last - first := by omega
  generalize c.toNat - first = k at hstep hk
  have himage : 0x60 < image := image_smallRuns _ hrun
  have hd := Char.toNat_ofNat (image + k)
  split at hd
  · generalize Char.ofNat (image + k) = d at hd
    by_cases hascii : d.toNat < 0x80
    · have hupper : ¬ d.isUpper := by
        simp only [Char.isUpper, ge_iff_le, UInt32.le_iff_toNat_le, decide_eq_true_eq]
        rintro ⟨-, hle⟩
        have : d.toNat ≤ 90 := hle
        omega
      rw [small_ascii hascii, Char.toLower_eq_of_not_isUpper hupper]
    · have hne : d ≠ '\u0130' := by
        rintro rfl
        exact not_mem_sources hrun hk hstep List.mem_cons_self hd
      rw [small, if_neg hascii, if_neg hne]
      cases hruns : mapRuns? smallRuns d with
      | none => rfl
      | some e =>
        obtain ⟨first', last', step', image', hrun', hfirst', hlast', hstep', -⟩ := exists_run hruns
        have hsource : d.toNat ∈ smallRuns.flatMap fun run => run.codes run.1 := by
          refine List.mem_flatMap.2 ⟨_, hrun', ?_⟩
          rw [← Nat.add_sub_of_le hfirst']
          exact mem_codes (by omega) hstep'
        exact absurd hd (not_mem_sources hrun hk hstep (List.mem_cons_of_mem _ hsource))
  · have hzero : Char.ofNat (image + k) = '\x00' := Char.toNat_inj.1 hd
    rw [hzero]
    decide +kernel

theorem toNat_toLower_lt (hc : c.toNat < 0x80) : c.toLower.toNat < 0x80 := by
  by_cases h : c.isUpper
  · have hle : c.toNat ≤ 90 := by
      simp only [Char.isUpper, ge_iff_le, UInt32.le_iff_toNat_le, decide_eq_true_eq] at h
      exact h.2
    rw [Char.toLower_eq_of_isUpper h, Char.toNat_ofNat]
    split <;> omega
  · rwa [Char.toLower_eq_of_not_isUpper h]

theorem toNat_toUpper_lt (hc : c.toNat < 0x80) : c.toUpper.toNat < 0x80 := by
  by_cases h : c.isLower
  · rw [Char.toUpper_eq_of_isLower h, Char.toNat_ofNat]
    split <;> omega
  · rwa [Char.toUpper_eq_of_not_isLower h]

/-- **Small letters stay as they are.** -/
theorem small_of_mem_small (h : d ∈ small c) : small d = [d] := by
  by_cases hc : c.toNat < 0x80
  · rw [small_ascii hc, List.mem_singleton] at h
    rw [h, small_ascii (toNat_toLower_lt hc), Char.toLower_toLower_eq_toLower]
  · rcases small_cases (Nat.le_of_not_lt hc) with hsame | hdotted | ⟨e, himage, hruns⟩
    · rw [hsame, List.mem_singleton] at h
      rw [h, hsame]
    · rw [hdotted] at h
      rcases List.mem_pair.1 h with rfl | rfl <;> decide +kernel
    · rw [himage, List.mem_singleton] at h
      rw [h, small_of_mapRuns? hruns]

theorem small_ne_nil (c : Char) : small c ≠ [] := by
  rw [small]
  split
  · exact List.cons_ne_nil _ _
  · split <;> exact List.cons_ne_nil _ _

theorem flatMap_small_of_small (h : ∀ d ∈ cs, small d = [d]) : cs.flatMap small = cs := by
  induction cs with
  | nil => rfl
  | cons d cs ih =>
    rw [List.flatMap_cons, h d List.mem_cons_self, ih fun e he => h e (List.mem_cons_of_mem _ he),
      List.singleton_append]

/-! ## 2. Dots and underscores -/

/-- The characters that part a key. -/
def IsSeparator (c : Char) : Prop := c = '.' ∨ c = '_'

/-- **Separators stand for themselves**, and nothing else becomes one. -/
theorem mem_small_iff (hd : IsSeparator d) : d ∈ small c ↔ c = d := by
  have hlow : d.toNat < 0x60 ∧ d ≠ '\x00' ∧ d.toLower = d ∧ d.isAlpha = false := by
    rcases hd with rfl | rfl <;> decide
  by_cases hc : c.toNat < 0x80
  · rw [small_ascii hc, List.mem_singleton]
    constructor
    · rintro rfl
      have halpha : c.isAlpha = false := by simpa using hlow.2.2.2
      have hupper : ¬ c.isUpper := by simp [Char.isAlpha] at halpha; simp [halpha]
      exact (Char.toLower_eq_of_not_isUpper hupper).symm
    · rintro rfl
      exact hlow.2.2.1.symm
  · have hne : c ≠ d := by
      rintro rfl
      omega
    simp only [hne, iff_false]
    rcases small_cases (Nat.le_of_not_lt hc) with hsame | hdotted | ⟨e, himage, hruns⟩
    · simpa [hsame] using hne.symm
    · rw [hdotted]
      rcases hd with rfl | rfl <;> decide
    · rw [himage, List.mem_singleton]
      rintro rfl
      obtain ⟨first, last, step, image, hrun, -, -, -, hd⟩ := exists_run hruns
      have hbeyond : 0x60 < image := image_smallRuns _ hrun
      have hd' := congrArg Char.toNat hd
      rw [Char.toNat_ofNat] at hd'
      split at hd'
      · omega
      · exact hlow.2.1 (Char.toNat_inj.1 hd')

theorem ne_smallSigma (hd : IsSeparator d) (before after : List Char) :
    d ≠ smallSigma before after := by
  rw [smallSigma]
  rcases hd with rfl | rfl <;> split <;> decide

/-- A text has the separators of its small form. -/
theorem mem_lowerFrom_iff (hd : IsSeparator d) (before cs : List Char) :
    d ∈ lowerFrom before cs ↔ d ∈ cs := by
  induction cs generalizing before with
  | nil => simp [lowerFrom]
  | cons c cs ih =>
    rw [lowerFrom, List.mem_append, ih, List.mem_cons]
    refine or_congr ?_ Iff.rfl
    split
    · next hsigma =>
      have hne : d ≠ c := by
        rintro rfl
        rw [hsigma] at hd
        exact absurd hd (by simp [IsSeparator, sigma])
      simp [hne, ne_smallSigma hd]
    · rw [mem_small_iff hd, eq_comm]

/-! ## 3. What a sigma sees -/

/-- A character that is neither a letter nor looked through ends what can be seen. -/
theorem reachesCased_append_cons (hignorable : isCaseIgnorable c = false) (hcased : isCased c = false)
    (as bs : List Char) : reachesCased (as ++ c :: bs) = reachesCased as := by
  induction as with
  | nil => simp [reachesCased, hignorable, hcased]
  | cons a as ih =>
    by_cases ha : isCaseIgnorable a
    · simpa [reachesCased, ha] using ih
    · simp [reachesCased, ha]

/-- A character that is not looked through hides what stands behind it. -/
theorem reachesCased_append (h : ∃ a ∈ as, isCaseIgnorable a = false) (bs : List Char) :
    reachesCased (as ++ bs) = reachesCased as := by
  induction as with
  | nil => simp at h
  | cons a as ih =>
    by_cases ha : isCaseIgnorable a
    · have has : ∃ a ∈ as, isCaseIgnorable a = false := by simpa [ha] using h
      simpa [reachesCased, ha] using ih has
    · simp [reachesCased, ha]

/-- A text is written small alike behind two others, if its sigmas cannot tell them apart. -/
theorem lowerFrom_congr
    (h : ∀ xs ys, cs = xs ++ sigma :: ys →
      reachesCased (xs.reverse ++ before) = reachesCased (xs.reverse ++ before')) :
    lowerFrom before cs = lowerFrom before' cs := by
  induction cs generalizing before before' with
  | nil => rfl
  | cons c cs ih =>
    rw [lowerFrom, lowerFrom, ih fun xs ys hcs => ?_]
    · by_cases hc : c = sigma
      · have hbefore : reachesCased before = reachesCased before' := by
          simpa using h [] cs (by rw [hc, List.nil_append])
        rw [if_pos hc, if_pos hc, smallSigma, smallSigma, hbefore]
      · rw [if_neg hc, if_neg hc]
    · simpa using h (c :: xs) ys (by rw [hcs, List.cons_append])

/-- Two texts are written small one by one, if the sigmas of the first do not see the second. -/
theorem lowerFrom_append
    (h : ∀ xs ys, as = xs ++ sigma :: ys → reachesCased (ys ++ bs) = reachesCased ys) :
    lowerFrom before (as ++ bs) = lowerFrom before as ++ lowerFrom (as.reverse ++ before) bs := by
  induction as generalizing before with
  | nil => rfl
  | cons a as ih =>
    rw [List.cons_append, lowerFrom, lowerFrom,
      ih fun xs ys has => h (a :: xs) ys (by rw [has, List.cons_append])]
    have hsigma : (if a = sigma then [smallSigma before (as ++ bs)] else small a) =
        if a = sigma then [smallSigma before as] else small a := by
      by_cases ha : a = sigma
      · rw [if_pos ha, if_pos ha, smallSigma, smallSigma, h [] as (by rw [ha, List.nil_append])]
      · rw [if_neg ha, if_neg ha]
    rw [hsigma]
    simp

/-- **No sigma sees past an underscore.** -/
theorem lower_append_underscore (as bs : List Char) :
    lower (as ++ '_' :: bs) = lower as ++ '_' :: lower bs := by
  have hblock (as bs : List Char) : reachesCased (as ++ '_' :: bs) = reachesCased as :=
    reachesCased_append_cons (by decide) (by decide) as bs
  have hbehind : lowerFrom ('_' :: as.reverse) bs = lowerFrom [] bs := by
    refine lowerFrom_congr fun xs ys _ => ?_
    rw [hblock, List.append_nil]
  rw [lower, lowerFrom_append fun xs ys _ => hblock ys bs, lowerFrom, if_neg (by decide),
    small_ascii (by decide), List.append_nil, hbehind]
  rfl

/-- No capital sigma has a dot in sight: what stands between them is not all looked through. -/
def DotsUnseen (cs : List Char) : Prop :=
  ∀ xs ys zs, (cs = xs ++ sigma :: (ys ++ '.' :: zs) ∨ cs = xs ++ '.' :: (ys ++ sigma :: zs)) →
    ∃ c ∈ ys, isCaseIgnorable c = false

theorem DotsUnseen.of_append_cons (h : DotsUnseen (as ++ d :: bs)) : DotsUnseen as ∧ DotsUnseen bs := by
  constructor
  · rintro xs ys zs (rfl | rfl)
    · exact h xs ys (zs ++ d :: bs) (.inl (by simp))
    · exact h xs ys (zs ++ d :: bs) (.inr (by simp))
  · rintro xs ys zs (rfl | rfl)
    · exact h (as ++ d :: xs) ys zs (.inl (by simp))
    · exact h (as ++ d :: xs) ys zs (.inr (by simp))

/-- **No sigma sees past a dot that it does not see.** -/
theorem lower_append_dot (h : DotsUnseen (as ++ '.' :: bs)) :
    lower (as ++ '.' :: bs) = lower as ++ '.' :: lower bs := by
  have hfront : ∀ xs ys, as = xs ++ sigma :: ys → reachesCased (ys ++ '.' :: bs) = reachesCased ys := by
    rintro xs ys rfl
    exact reachesCased_append (h xs ys bs (.inl (by simp))) _
  have hbehind : lowerFrom ('.' :: as.reverse) bs = lowerFrom [] bs := by
    refine lowerFrom_congr fun xs ys hbs => ?_
    have hhidden : ∃ c ∈ xs.reverse, isCaseIgnorable c = false := by
      simpa using h as xs ys (.inr (by rw [hbs]))
    rw [reachesCased_append hhidden, List.append_nil]
  rw [lower, lowerFrom_append hfront, lowerFrom, if_neg (by decide), small_ascii (by decide),
    List.append_nil, hbehind]
  rfl

/-- Without a sigma, every character has its own small form. -/
theorem lowerFrom_eq_flatMap (h : sigma ∉ cs) (before : List Char) :
    lowerFrom before cs = cs.flatMap small := by
  induction cs generalizing before with
  | nil => rfl
  | cons c cs ih =>
    obtain ⟨hc, hcs⟩ := not_or.1 (mt List.mem_cons.2 h)
    rw [lowerFrom, if_neg (Ne.symm hc), ih hcs, List.flatMap_cons]

/-- A text without a sigma has no dot in the sight of one. -/
theorem dotsUnseen_of_not_mem (h : sigma ∉ cs) : DotsUnseen cs := by
  rintro xs ys zs (rfl | rfl) <;> simp at h

/-! ## 4. Characters that come back from their capital form -/

/-- A character that is written small the same way, whether or not it was written large before: the
small form of its capital is its own, and does not depend on what stands around it. -/
def Steady (c : Char) : Prop := ∀ d ∈ small c, d ≠ 'σ' ∧ (capital d).flatMap small = [d]

/-- The list of small forms is run through, not the type of characters. -/
instance (c : Char) : Decidable (Steady c) :=
  List.decidableBAll (fun d => d ≠ 'σ' ∧ (capital d).flatMap small = [d]) (small c)

theorem steady_ascii (h : c.toNat < 0x80) : Steady c := by
  intro d hd
  rw [small_ascii h, List.mem_singleton] at hd
  subst hd
  have hlower := toNat_toLower_lt h
  constructor
  · intro hsigma
    rw [hsigma] at hlower
    exact absurd hlower (by decide)
  · rw [capital_ascii hlower, List.flatMap_singleton, Char.toUpper_toLower_eq_toUpper,
      small_ascii (toNat_toUpper_lt h), Char.toLower_toUpper_eq_toLower]

theorem sigma_not_mem_small (c : Char) : sigma ∉ small c := by
  intro h
  exact absurd (small_of_mem_small h) (by decide +kernel)

/-- The only character with a capital sigma in its capital form that comes back from it is the small
sigma. -/
theorem Steady.sigma_not_mem (h : Steady c) (hd : d ∈ small c) : sigma ∉ capital d := by
  intro hsigma
  obtain ⟨hne, hback⟩ := h d hd
  have hmem : 'σ' ∈ (capital d).flatMap small :=
    List.mem_flatMap.2 ⟨sigma, hsigma, by decide +kernel⟩
  rw [hback, List.mem_singleton] at hmem
  exact hne hmem.symm

/-! ## 5. Small forms in parts -/

/-- `SmallForm cs ds`: the text has no capital sigma, and `ds` is its small form, character by
character. -/
structure SmallForm (cs ds : List Char) : Prop where
  noSigma : sigma ∉ cs
  small : cs.flatMap small = ds

namespace SmallForm

variable {ds as' bs' : List Char}

theorem lower_eq (h : SmallForm cs ds) : lower cs = ds := by
  rw [lower, lowerFrom_eq_flatMap h.noSigma, h.small]

theorem append (ha : SmallForm as as') (hb : SmallForm bs bs') :
    SmallForm (as ++ bs) (as' ++ bs') where
  noSigma h := (List.mem_append.1 h).elim ha.noSigma hb.noSigma
  small := by rw [List.flatMap_append, ha.small, hb.small]

/-- A text that is small is its own small form. -/
theorem flatMap_small (cs : List Char) : SmallForm (cs.flatMap Text.small) (cs.flatMap Text.small) where
  noSigma h := by
    obtain ⟨c, -, hc⟩ := List.mem_flatMap.1 h
    exact sigma_not_mem_small c hc
  small := flatMap_small_of_small fun d hd => by
    obtain ⟨c, -, hc⟩ := List.mem_flatMap.1 hd
    exact small_of_mem_small hc

/-- **A small word comes back from its capital**, if its first character is steady. -/
theorem capitalize (h : ∀ c ∈ cs.head?, Steady c) :
    SmallForm (capitalize (cs.flatMap Text.small)) (cs.flatMap Text.small) := by
  cases cs with
  | nil => exact ⟨List.not_mem_nil, rfl⟩
  | cons c cs =>
    have hsteady : Steady c := h c rfl
    have hself := flatMap_small (c :: cs)
    obtain ⟨d, ds, hd⟩ := List.exists_cons_of_ne_nil (small_ne_nil c)
    have hmem : d ∈ Text.small c := by rw [hd]; exact List.mem_cons_self
    rw [List.flatMap_cons, hd, List.cons_append] at hself ⊢
    have hcapital : SmallForm (capital d) [d] := ⟨hsteady.sigma_not_mem hmem, (hsteady d hmem).2⟩
    have hrest : SmallForm (ds ++ cs.flatMap Text.small) (ds ++ cs.flatMap Text.small) := by
      refine ⟨fun hsigma => hself.noSigma (List.mem_cons_of_mem d hsigma), ?_⟩
      have hsmall := hself.small
      rwa [List.flatMap_cons, small_of_mem_small hmem, List.singleton_append,
        List.cons_inj_right] at hsmall
    exact hcapital.append hrest

/-- The first character may be written small before the others are. -/
theorem uncapitalize (h : SmallForm cs ds) : SmallForm (uncapitalize cs) ds := by
  cases cs with
  | nil => exact h
  | cons c cs =>
    have hfirst : SmallForm (Text.small c) (Text.small c) := by
      simpa using flatMap_small [c]
    have hrest : SmallForm cs (cs.flatMap Text.small) :=
      ⟨fun hsigma => h.noSigma (List.mem_cons_of_mem c hsigma), rfl⟩
    rw [← h.small, List.flatMap_cons]
    exact hfirst.append hrest

end SmallForm

end CatalogLint.Text
