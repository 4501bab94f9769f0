/-
# A reason tells which kind of finding it is about

Reasons are texts, put together from fixed words and from what users write: keys, members of a
comment, names of placeholders, links.  None of these can make a reason of one kind look like a reason
of another.

* The sentences about comments differ in how they END, whatever key they start with: each kind has an
  ending of its own (`ending_suffix_reason`), and no ending ends in that of another kind
  (`identifier_eq_of_ending_suffix`).  So equal sentences are about one kind
  (`identifier_eq_of_aboutComment_eq`), although they need not be about one fault: a placeholder name
  may hold the quotes and commas that separate names.
* What the cross reference finds differs in how it STARTS, and what follows fixes the key
  (`Rule.Finding.reason_injective`).
* A link at the end says nothing, as long as it is the same (`Rule.withHelp_inj`).

So the reason of a violation tells its kind, and a rule has one severity for a kind
(`CommentCheck.severity_eq_of_reason_eq`, `CrossReference.severity_eq_of_reason_eq`).
-/
import CatalogLint.Rule.CommentCheck
import CatalogLint.Rule.CrossReference

namespace CatalogLint

/-! ## 1. Links -/

namespace Rule

theorem withHelp_inj {link : Option String} {a b : String} (h : withHelp link a = withHelp link b) :
    a = b := by
  cases link with
  | none => exact h
  | some link =>
    have h' : a ++ " For more information, please see: " ++ link =
        b ++ " For more information, please see: " ++ link := h
    exact (String.append_left_inj _).1 ((String.append_left_inj _).1 h')

end Rule

/-! ## 2. Comments -/

namespace Comment.Fault

/-- The last characters of every reason of a kind, as many as tell it from the other kinds. -/
def ending : Fault → List Char
  | invalidJson => ['N']
  | unknownKey _ => ['t']
  | missingDescription => 'e' :: described
  | emptyDescription => 'y' :: described
  | unknownPlaceholders _ => ['"']
  | placeholderCount => ['h']
  | missingScreenshot => ['g']
  | invalidScreenshot => ['i', 'd']
  | tooLong => ['e', 'd']
where
  /-- What the two reasons about the description have in common at their end. -/
  described : List Char := [' ', '`', 'd', 'e', 's', 'c', 'r', 'i', 'p', 't', 'i', 'o', 'n', '`']

theorem ending_suffix_reason (f : Fault) : f.ending <:+ f.reason.toList := by
  cases f with
  | unknownKey key =>
    have htext : (unknownKey key).reason.toList =
        ("the key " ++ key).toList ++ " is not allowed in this structured comment".toList :=
      String.toList_append
    have hend : ['t'] <:+ " is not allowed in this structured comment".toList := by decide
    exact htext ▸ hend.trans (List.suffix_append _ _)
  | unknownPlaceholders names =>
    have htext : (unknownPlaceholders names).reason.toList =
        ("contains invalid placeholders: \"" ++ "\", \"".intercalate names).toList ++ ['"'] :=
      String.toList_append
    exact htext ▸ List.suffix_append _ _
  | _ => decide

/-- No ending ends in that of another kind. -/
theorem identifier_eq_of_ending_suffix {f g : Fault} (h : f.ending <:+ g.ending) :
    f.identifier = g.identifier := by
  cases f <;> cases g <;>
    first | rfl | simp [ending, ending.described, List.suffix_cons_iff] at h

/-- Reasons that end alike are of one kind. -/
theorem identifier_eq_of_append_reason_eq {f g : Fault} {a b : String}
    (h : a ++ f.reason = b ++ g.reason) : f.identifier = g.identifier := by
  have hf : f.ending <:+ (a ++ f.reason).toList := by
    rw [String.toList_append]
    exact (ending_suffix_reason f).trans (List.suffix_append _ _)
  have hg : g.ending <:+ (a ++ f.reason).toList := by
    rw [h, String.toList_append]
    exact (ending_suffix_reason g).trans (List.suffix_append _ _)
  rcases List.suffix_or_suffix_of_suffix hf hg with hfg | hgf
  · exact identifier_eq_of_ending_suffix hfg
  · exact (identifier_eq_of_ending_suffix hgf).symm

/-- **Equal sentences about comments are about one kind of fault**, whatever the keys are. -/
theorem identifier_eq_of_aboutComment_eq {f g : Fault} {key key' : String}
    (h : Rule.aboutComment key f.reason = Rule.aboutComment key' g.reason) :
    f.identifier = g.identifier :=
  identifier_eq_of_append_reason_eq h

-- A sentence does not tell more than the kind: names may hold what separates them.
example : Rule.aboutComment "key" (unknownPlaceholders ["a", "b"]).reason =
    Rule.aboutComment "key" (unknownPlaceholders ["a\", \"b"]).reason := by
  decide

end Comment.Fault

/-! ## 3. The cross reference -/

namespace Rule.Finding

/-- The first character of every reason of a kind. -/
def opening : Finding → Char
  | unused _ => 'L'
  | referenced => 'T'
  | missingOwner => 'P'

theorem reason_unused (key : String) :
    (unused key).reason =
      "Localized string \"" ++ key ++ "\" is unused. If you intend to use this string in a later " ++
        "PR, please add it to the \"work_in_progress\" list in the lint configuration or create an " ++
        "ignore file." := rfl

theorem head?_reason (f : Finding) : f.reason.toList.head? = some f.opening := by
  cases f with
  | unused key =>
    have hhead : "Localized string \"".toList.head? = some 'L' := by decide
    simp only [reason_unused, String.toList_append, List.head?_append, hhead, Option.some_or]
    rfl
  | _ => decide

/-- **A reason of the cross reference tells everything**: the kind, and the key of an unused string. -/
theorem reason_injective {a b : Finding} (h : a.reason = b.reason) : a = b := by
  have hopening : a.opening = b.opening := by
    have hhead : some a.opening = some b.opening := by rw [← head?_reason, ← head?_reason, h]
    exact Option.some.inj hhead
  cases a with
  | unused key =>
    cases b with
    | unused key' =>
      rw [reason_unused, reason_unused, String.append_left_inj, String.append_left_inj,
        String.append_left_inj, String.append_right_inj] at h
      rw [h]
    | _ => simp [opening] at hopening
  | referenced =>
    cases b with
    | referenced => rfl
    | _ => simp [opening] at hopening
  | missingOwner =>
    cases b with
    | missingOwner => rfl
    | _ => simp [opening] at hopening

end Rule.Finding

/-! ## 4. Violations -/

variable {files files' : List SourceFile} {v w : Violation}

namespace CommentCheck

/-- Violations with one reason, of checks with one link, are about one kind of fault. -/
theorem identifier_eq_of_reason_eq {c c' : CommentCheck} {r r' : Record} {f g : Comment.Fault}
    (hlink : c.helpLink = c'.helpLink)
    (h : (c.violation r f).reason = (c'.violation r' g).reason) : f.identifier = g.identifier := by
  have hreason : Rule.withHelp c.helpLink (Rule.aboutComment r.key f.reason) =
      Rule.withHelp c'.helpLink (Rule.aboutComment r'.key g.reason) := h
  rw [← hlink] at hreason
  exact Comment.Fault.identifier_eq_of_aboutComment_eq (Rule.withHelp_inj hreason)

/-- **A check weighs by the reason**: violations with one reason have one severity, whenever and in
whatever files they are found. -/
theorem severity_eq_of_reason_eq {c : CommentCheck} (hv : v ∈ c.violations files)
    (hw : w ∈ c.violations files') (h : v.reason = w.reason) : v.severity = w.severity := by
  obtain ⟨r, -, f, -, rfl⟩ := mem_violations.1 hv
  obtain ⟨s, -, g, -, rfl⟩ := mem_violations.1 hw
  have hkind : f.identifier = g.identifier := identifier_eq_of_reason_eq rfl h
  exact congrArg c.severities.resolve hkind

end CommentCheck

namespace CrossReference

/-- Violations of comparisons with one link give one reason exactly when they are of one finding. -/
theorem reason_eq_iff {x x' : CrossReference} {a b : Rule.Finding} {l m : Location}
    (hlink : x.helpLink = x'.helpLink) :
    (x.violation a l).reason = (x'.violation b m).reason ↔ a = b := by
  change Rule.withHelp x.helpLink a.reason = Rule.withHelp x'.helpLink b.reason ↔ a = b
  rw [← hlink]
  constructor
  · exact fun h => Rule.Finding.reason_injective (Rule.withHelp_inj h)
  · rintro rfl
    rfl

/-- **The cross reference weighs by the reason**: violations with one reason have one severity,
whenever and in whatever files they are found. -/
theorem severity_eq_of_reason_eq {x : CrossReference} (hv : v ∈ x.violations files)
    (hw : w ∈ x.violations files') (h : v.reason = w.reason) : v.severity = w.severity := by
  obtain ⟨a, l, rfl⟩ := exists_finding hv
  obtain ⟨b, m, rfl⟩ := exists_finding hw
  obtain rfl : a = b := (reason_eq_iff rfl).1 h
  rfl

end CrossReference

end CatalogLint
