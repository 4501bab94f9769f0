/-
# Upper and lower case

`lower` writes a text in small letters.  A letter's small form is its own, but a sigma that ends a
word has a form of its own: a letter stands before it and none behind, marks and apostrophes looked
through.  `small` and `capital` are the forms of one character, which may be several characters.
Main facts: on ASCII text all three are the usual maps (`small_ascii`, `capital_ascii`,
`lower_ascii`).
-/
import CatalogLint.Text.LetterCase.Context
import CatalogLint.Text.LetterCase.Table

namespace CatalogLint.Text

/-! ## 1. Characters -/

/-- The image of a character under a list of runs. -/
def mapRuns? (runs : List CaseRun) (c : Char) : Option Char :=
  (runs.find? fun (first, last, step, _) =>
      first ≤ c.toNat && c.toNat ≤ last && (c.toNat - first) % step == 0).map
    fun (first, _, _, image) => Char.ofNat (image + (c.toNat - first))

/-- The small form of a character. -/
def small (c : Char) : List Char :=
  if c.toNat < 0x80 then [c.toLower]
  else if c = '\u0130' then ['i', '\u0307']
  else [(mapRuns? smallRuns c).getD c]

/-- The capital form of a character. -/
def capital (c : Char) : List Char :=
  if c.toNat < 0x80 then [c.toUpper]
  else
    match capitalForms.find? fun form => form.1 == c.toNat with
    | some (_, form) => form.map Char.ofNat
    | none => [(mapRuns? capitalRuns c).getD c]

/-! ## 2. Texts -/

/-- The capital sigma, whose small form depends on its place. -/
def sigma : Char := '\u03A3'

/-- The small form of a sigma between two texts, the first of them backwards. -/
def smallSigma (before after : List Char) : Char :=
  if reachesCased before && !reachesCased after then '\u03C2' else '\u03C3'

/-- A text in small letters, given what stands before it, backwards. -/
def lowerFrom (before : List Char) : List Char → List Char
  | [] => []
  | c :: cs =>
    (if c = sigma then [smallSigma before cs] else small c) ++ lowerFrom (c :: before) cs

/-- A text in small letters. -/
def lower (cs : List Char) : List Char := lowerFrom [] cs

/-- A text whose first character is capital. -/
def capitalize : List Char → List Char
  | [] => []
  | c :: cs => capital c ++ cs

/-- A text whose first character is small, whatever stands around it. -/
def uncapitalize : List Char → List Char
  | [] => []
  | c :: cs => small c ++ cs

/-! ## 3. ASCII -/

theorem small_ascii {c : Char} (h : c.toNat < 0x80) : small c = [c.toLower] := by
  simp [small, h]

theorem capital_ascii {c : Char} (h : c.toNat < 0x80) : capital c = [c.toUpper] := by
  simp [capital, h]

theorem ne_sigma_of_ascii {c : Char} (h : c.toNat < 0x80) : c ≠ sigma := by
  rintro rfl
  exact absurd h (by decide)

theorem lowerFrom_ascii {cs : List Char} (h : ∀ c ∈ cs, c.toNat < 0x80) (before : List Char) :
    lowerFrom before cs = cs.map Char.toLower := by
  induction cs generalizing before with
  | nil => rfl
  | cons c cs ih =>
    have hc := h c List.mem_cons_self
    rw [lowerFrom, if_neg (ne_sigma_of_ascii hc), small_ascii hc,
      ih fun d hd => h d (List.mem_cons_of_mem _ hd)]
    rfl

theorem lower_ascii {cs : List Char} (h : ∀ c ∈ cs, c.toNat < 0x80) :
    lower cs = cs.map Char.toLower :=
  lowerFrom_ascii h []

end CatalogLint.Text
