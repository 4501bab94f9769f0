/-
# What the two profiles share

The legacy profile leaves checks out, but not the reading in front of them: all four members are read
before either profile asks anything.

* So the legacy verdict depends on the description and the placeholders, and on whether the two members
  that it does not check can be read at all (`legacy_validate_eq_iff`).  It is meant not to look at
  these two; a screenshot that is no text shows that it does (`legacy_reads_unchecked`).
* The full profile asks what the legacy one asks, in the same order, with other questions before and
  behind (`check_full`).  `shared` drops the answers to those behind, and the legacy verdict is what is
  left of the full one (`legacy_of_full`).  Where the full profile stops at a member that is not
  allowed, the record has to be looked at without such members.
-/
import CatalogLint.Proofs.Comment.Parts
import Mathlib

namespace CatalogLint.Comment

open Json

variable {members members' : Table Value} {c d : Comment} {r r' : Record}

/-! ## 1. Reading -/

/-- A part of a comment depends on the one member that it is read from. -/
theorem member?_congr {α : Type} {read : Value → Option α} {key : String}
    (h : Table.get? members key = Table.get? members' key) :
    member? read members key = member? read members' key := by
  rw [member?, member?, h]

/-- The parts of a comment depend on the allowed members. -/
theorem ofMembers?_congr (h : ∀ key ∈ allowedKeys, Table.get? members key = Table.get? members' key) :
    ofMembers? members = ofMembers? members' := by
  have hmember {α : Type} (read : Value → Option α) (key : String) (hkey : key ∈ allowedKeys) :
      member? read members key = member? read members' key := member?_congr (h key hkey)
  rw [ofMembers?, ofMembers?, hmember text? "description" (by decide),
    hmember texts? "placeholders" (by decide), hmember text? "img" (by decide),
    hmember length? "max_character_count" (by decide)]

/-- Description and placeholders can be read: they are left out, or have the expected shape. -/
structure Checkable (members : Table Value) : Prop where
  description : ∃ a, Holds (fun v s => v = .string s) (Table.get? members "description") a
  placeholders : ∃ a, Holds (fun v (names : List String) => v = .array (names.map .string))
    (Table.get? members "placeholders") a

/-- Screenshot and length can be read: they are left out, or have the expected shape. -/
structure Passable (members : Table Value) : Prop where
  screenshot : ∃ a, Holds (fun v s => v = .string s) (Table.get? members "img") a
  greatestLength : ∃ a, Holds (fun v (n : Int) => ∃ x : Number, v = .number x ∧
    x.rational? = some (n : ℚ)) (Table.get? members "max_character_count") a

/-- The same description and the same placeholders, whatever else there is. -/
structure Alike (members members' : Table Value) : Prop where
  description : Table.get? members "description" = Table.get? members' "description"
  placeholders : Table.get? members "placeholders" = Table.get? members' "placeholders"

theorem Alike.checkable_iff (h : Alike members members') : Checkable members ↔ Checkable members' := by
  constructor
  · rintro ⟨hdescription, hplaceholders⟩
    exact ⟨h.description ▸ hdescription, h.placeholders ▸ hplaceholders⟩
  · rintro ⟨hdescription, hplaceholders⟩
    exact ⟨h.description ▸ hdescription, h.placeholders ▸ hplaceholders⟩

/-- A comment is read when all of its members can be. -/
theorem exists_ofMembers?_iff {text : Option String} (hmembers : members? text = some members) :
    (∃ c, ofMembers? members = some c) ↔ Checkable members ∧ Passable members := by
  simp only [ofMembers?_eq_some_iff (fits_of_members? hmembers)]
  constructor
  · rintro ⟨c, d, hd, -⟩
    exact ⟨⟨⟨_, hd.description⟩, _, hd.placeholders⟩, ⟨_, hd.screenshot⟩, _, hd.greatestLength⟩
  · rintro ⟨⟨⟨description, hd⟩, placeholders, hp⟩, ⟨screenshot, hs⟩, length, hl⟩
    exact ⟨_, ⟨description, placeholders, screenshot, length⟩, ⟨hd, hp, hs, hl⟩, rfl⟩

/-- What is read of a comment's description and placeholders. -/
theorem member?_of_ofMembers? (h : ofMembers? members = some c) :
    member? text? members "description" = some c.description ∧
      member? texts? members "placeholders" = some c.placeholders := by
  simp only [ofMembers?, Option.bind_eq_bind, Option.bind_eq_some_iff, Option.pure_def,
    Option.some_inj] at h
  obtain ⟨description, hd, placeholders, hp, -, -, -, -, rfl⟩ := h
  exact ⟨hd, hp⟩

theorem Alike.parts_eq (h : Alike members members') (hc : ofMembers? members = some c)
    (hd : ofMembers? members' = some d) :
    c.description = d.description ∧ c.placeholders = d.placeholders := by
  obtain ⟨hdescription, hplaceholders⟩ := member?_of_ofMembers? hc
  obtain ⟨hdescription', hplaceholders'⟩ := member?_of_ofMembers? hd
  rw [member?_congr h.description, hdescription'] at hdescription
  rw [member?_congr h.placeholders, hplaceholders'] at hplaceholders
  exact ⟨(Option.some_inj.1 hdescription).symm, (Option.some_inj.1 hplaceholders).symm⟩

namespace Validator

variable {vocabulary : List String} {fault : Fault}

theorem validate_of_members (v : Validator) (hmembers : members? r.comment = some members)
    (hc : ofMembers? members = some c) : v.validate r = v.check members c r := by
  rw [validate, hmembers]
  dsimp only
  rw [hc]

theorem validate_of_misshapen (v : Validator) (hmembers : members? r.comment = some members)
    (hc : ofMembers? members = none) : v.validate r = some .invalidJson := by
  rw [validate, hmembers]
  dsimp only
  rw [hc]

/-! ## 2. The legacy profile -/

/-- What both profiles ask. -/
def checkShared (vocabulary : List String) (c : Comment) (r : Record) : Option Fault :=
  (checkDescription c).orElse fun _ => checkPlaceholders vocabulary c r

theorem check_legacy :
    check { vocabulary, profile := .legacy } members c r = checkShared vocabulary c r := rfl

theorem checkShared_congr (hdescription : c.description = d.description)
    (hplaceholders : c.placeholders = d.placeholders) (hcount : r.placeholderCount = r'.placeholderCount) :
    checkShared vocabulary c r = checkShared vocabulary d r' := by
  simp only [checkShared, checkDescription, checkPlaceholders, hdescription, hplaceholders, hcount]

/-- The faults that both profiles ask for. -/
inductive IsShared : Fault → Prop
  | missingDescription : IsShared .missingDescription
  | emptyDescription : IsShared .emptyDescription
  | unknownPlaceholders (names : List String) : IsShared (.unknownPlaceholders names)
  | placeholderCount : IsShared .placeholderCount

theorem isShared_of_checkShared (h : checkShared vocabulary c r = some fault) : IsShared fault := by
  rw [checkShared, Option.orElse_eq_or, Option.or_eq_some_iff] at h
  rcases h with h | ⟨-, h⟩
  · rw [checkDescription] at h
    split at h
    · cases h
      exact .missingDescription
    · split at h <;> cases h
      exact .emptyDescription
  · rw [checkPlaceholders] at h
    split at h
    · cases h
      exact .unknownPlaceholders _
    · split at h <;> cases h
      exact .placeholderCount

theorem checkShared_ne_invalidJson : checkShared vocabulary c r ≠ some .invalidJson := fun h =>
  nomatch isShared_of_checkShared h

/-- The legacy profile does not tell a comment that it cannot read from one that is no object, and gives
this verdict on no other. -/
theorem legacy_validate_eq_invalidJson_iff (hmembers : members? r.comment = some members) :
    legacy.validate r = some .invalidJson ↔ ¬ (Checkable members ∧ Passable members) := by
  rw [← exists_ofMembers?_iff hmembers]
  cases hc : ofMembers? members with
  | none => simp [legacy.validate_of_misshapen hmembers hc]
  | some c =>
    rw [legacy.validate_of_members hmembers hc, legacy, check_legacy]
    simp [checkShared_ne_invalidJson]

/-- **What the legacy verdict depends on**, besides description, placeholders and their number in the
string: whether screenshot and length can be read.  Even that does not matter when the description or
the placeholders cannot be read themselves, and other members never do. -/
theorem legacy_validate_eq_iff (hmembers : members? r.comment = some members)
    (hmembers' : members? r'.comment = some members') (h : Alike members members')
    (hcount : r.placeholderCount = r'.placeholderCount) :
    legacy.validate r = legacy.validate r' ↔
      (Checkable members → (Passable members ↔ Passable members')) := by
  have hunread := legacy_validate_eq_invalidJson_iff hmembers
  have hunread' := legacy_validate_eq_invalidJson_iff hmembers'
  rw [← h.checkable_iff] at hunread'
  constructor
  · intro heq hcheckable
    rw [heq, hunread', not_iff_not] at hunread
    simpa [hcheckable] using hunread.symm
  · intro hpassable
    by_cases hread : Checkable members ∧ Passable members
    · have hread' : Checkable members' ∧ Passable members' :=
        ⟨h.checkable_iff.1 hread.1, (hpassable hread.1).1 hread.2⟩
      obtain ⟨c, hc⟩ := (exists_ofMembers?_iff hmembers).2 hread
      obtain ⟨d, hd⟩ := (exists_ofMembers?_iff hmembers').2 hread'
      obtain ⟨hdescription, hplaceholders⟩ := h.parts_eq hc hd
      rw [legacy.validate_of_members hmembers hc, legacy.validate_of_members hmembers' hd, legacy,
        check_legacy, check_legacy, checkShared_congr hdescription hplaceholders hcount]
    · have hread' : ¬ (Checkable members ∧ Passable members') := fun hread' =>
        hread ⟨hread'.1, (hpassable hread'.1).2 hread'.2⟩
      rw [hunread.2 hread, hunread'.2 hread']

/-- A comment gets the same verdict with an owner and a screenshot, whatever its address. -/
theorem legacy_validate_eq_iff_owner :
    ∃ members members',
      members? (some "\x7b\"description\":\"d\"\x7d") = some members ∧
      members? (some "\x7b\"owner\":true,\"img\":\"\",\"description\":\"d\"\x7d") = some members' ∧
      Alike members members' ∧ Passable members ∧ Passable members' ∧
      legacy.validate { key := "k", comment := some "\x7b\"description\":\"d\"\x7d" } =
        legacy.validate
          { key := "k"
            comment := some "\x7b\"owner\":true,\"img\":\"\",\"description\":\"d\"\x7d" } := by
  let r : Record := { key := "k", comment := some "\x7b\"description\":\"d\"\x7d" }
  let r' : Record :=
    { key := "k", comment := some "\x7b\"owner\":true,\"img\":\"\",\"description\":\"d\"\x7d" }
  have hnode : Node.read? "\x7b\"description\":\"d\"\x7d" =
      some (.object [(some "description", .string (some "d"))]) := by
    cbv
  have hnode' : Node.read? "\x7b\"owner\":true,\"img\":\"\",\"description\":\"d\"\x7d" =
      some (.object [(some "owner", .boolean true), (some "img", .string (some "")),
        (some "description", .string (some "d"))]) := by
    cbv
  have hmembers : members? r.comment = some [("description", .string "d")] :=
    members?_of_read? hnode rfl
  have hmembers' : members? r'.comment =
      some [("description", .string "d"), ("img", .string ""), ("owner", .boolean true)] :=
    (members?_of_read? hnode' rfl).trans (by cbv)
  have halike : Alike [("description", .string "d")]
      [("description", .string "d"), ("img", .string ""), ("owner", .boolean true)] := ⟨rfl, rfl⟩
  have hpassable : Passable [("description", .string "d")] := ⟨⟨none, .absent⟩, none, .absent⟩
  have hpassable' : Passable [("description", .string "d"), ("img", .string ""),
      ("owner", .boolean true)] := ⟨⟨some "", .given rfl⟩, none, .absent⟩
  exact ⟨_, _, hmembers, hmembers', halike, hpassable, hpassable',
    (legacy_validate_eq_iff hmembers hmembers' halike rfl).2 fun _ => iff_of_true hpassable hpassable'⟩

/-- **A screenshot that is no text changes the legacy verdict**, although it is not checked. -/
theorem legacy_reads_unchecked :
    ∃ members members',
      members? (some "\x7b\"description\":\"d\"\x7d") = some members ∧
      members? (some "\x7b\"description\":\"d\",\"img\":true\x7d") = some members' ∧
      Alike members members' ∧
      legacy.validate { key := "k", comment := some "\x7b\"description\":\"d\"\x7d" } = none ∧
      legacy.validate { key := "k", comment := some "\x7b\"description\":\"d\",\"img\":true\x7d" } =
        some .invalidJson := by
  have hnode : Node.read? "\x7b\"description\":\"d\"\x7d" =
      some (.object [(some "description", .string (some "d"))]) := by
    cbv
  have hnode' : Node.read? "\x7b\"description\":\"d\",\"img\":true\x7d" =
      some (.object [(some "description", .string (some "d")), (some "img", .boolean true)]) := by
    cbv
  have hmembers' : members? (some "\x7b\"description\":\"d\",\"img\":true\x7d") =
      some [("description", .string "d"), ("img", .boolean true)] :=
    (members?_of_read? hnode' rfl).trans (by cbv)
  refine ⟨[("description", .string "d")], _, members?_of_read? hnode rfl, hmembers', ⟨rfl, rfl⟩, ?_, ?_⟩
  · decide +kernel
  · decide +kernel

/-! ## 3. The full profile -/

/-- What the full profile asks behind what both ask. -/
def checkRest (c : Comment) (r : Record) : Option Fault :=
  (checkScreenshot c).orElse fun _ => checkLength c r

theorem check_full :
    check { vocabulary } members c r =
      (checkKeys members).orElse fun _ => (checkShared vocabulary c r).orElse fun _ => checkRest c r := by
  rw [check, checkShared, checkRest]
  cases checkKeys members with
  | some fault => rfl
  | none => cases checkDescription c <;> rfl

/-- What a legacy verdict keeps of a full one: all but the faults that the legacy profile does not ask
for. -/
def shared : Option Fault → Option Fault
  | some .missingScreenshot => none
  | some .invalidScreenshot => none
  | some .tooLong => none
  | verdict => verdict

@[simp] theorem shared_none : shared none = none := rfl

@[simp] theorem shared_invalidJson : shared (some .invalidJson) = some .invalidJson := rfl

theorem IsShared.shared_eq (h : IsShared fault) : shared (some fault) = some fault := by
  cases h <;> rfl

theorem shared_checkRest : shared (checkRest c r) = none := by
  rw [checkRest, checkScreenshot, checkLength]
  split
  · rfl
  · split
    · split
      · rfl
      · dsimp only [Option.orElse]
        split <;> rfl
    · rfl

/-- No member is left that is not allowed. -/
def OnlyAllowed (members : Table Value) : Prop := ∀ m ∈ members, m.1 ∈ allowedKeys

theorem checkKeys_eq_none_iff : checkKeys members = none ↔ OnlyAllowed members := by
  simp [checkKeys, OnlyAllowed]

/-- **One check inside the other**: if all members are allowed, the legacy check finds what is left of
the full one. -/
theorem shared_check (h : OnlyAllowed members) :
    shared (check { vocabulary } members c r) = checkShared vocabulary c r := by
  rw [check_full, checkKeys_eq_none_iff.2 h, Option.orElse_none]
  cases hshared : checkShared vocabulary c r with
  | none => rw [Option.orElse_none, shared_checkRest]
  | some fault => rw [Option.orElse_some, (isShared_of_checkShared hshared).shared_eq]

/-- The full check stops at a member that is not allowed, and only there. -/
theorem exists_check_eq_unknownKey_iff :
    (∃ key, check { vocabulary } members c r = some (.unknownKey key)) ↔ ¬ OnlyAllowed members := by
  constructor
  · rintro ⟨key, hkey⟩ hallowed
    have hshared : shared (some (.unknownKey key)) = checkShared vocabulary c r :=
      hkey ▸ shared_check hallowed
    exact nomatch isShared_of_checkShared hshared.symm
  · intro hunknown
    obtain ⟨fault, hfault⟩ := Option.ne_none_iff_exists'.1 (checkKeys_eq_none_iff.not.2 hunknown)
    obtain ⟨m, -, rfl⟩ := Option.map_eq_some_iff.1 hfault
    exact ⟨m.1, by rw [check_full, hfault, Option.orElse_some]⟩

/-- A record that the full profile stops at for a member is read by both. -/
theorem exists_members_of_unknownKey {key : String}
    (h : validate { vocabulary } r = some (.unknownKey key)) :
    ∃ members c, members? r.comment = some members ∧ ofMembers? members = some c := by
  rw [validate] at h
  split at h
  · cases h
  · next members hmembers =>
    split at h
    · cases h
    · next c hc => exact ⟨members, c, hmembers, hc⟩

/-- **One profile inside the other**, unless the full one stops at a member. -/
theorem validate_legacy_eq_shared
    (h : ∀ key, validate { vocabulary } r ≠ some (.unknownKey key)) :
    validate { vocabulary, profile := .legacy } r = shared (validate { vocabulary } r) := by
  cases hmembers : members? r.comment with
  | none => simp only [validate, hmembers, shared_invalidJson]
  | some members =>
    cases hc : ofMembers? members with
    | none =>
      rw [validate_of_misshapen _ hmembers hc, validate_of_misshapen _ hmembers hc,
        shared_invalidJson]
    | some c =>
      rw [validate_of_members _ hmembers hc] at h ⊢
      rw [validate_of_members _ hmembers hc, check_legacy]
      have hallowed : OnlyAllowed members := by
        by_contra hunknown
        obtain ⟨key, hkey⟩ := exists_check_eq_unknownKey_iff.2 hunknown
        exact h key hkey
      exact (shared_check hallowed).symm

/-- The members that are allowed. -/
def allowedOf (members : Table Value) : Table Value := members.filter fun m => allowedKeys.contains m.1

theorem onlyAllowed_allowedOf (members : Table Value) : OnlyAllowed (allowedOf members) := fun m hm => by
  simpa using (List.mem_filter.1 hm).2

/-- Leaving out members that are not allowed does not change what is read. -/
theorem ofMembers?_allowedOf (members : Table Value) :
    ofMembers? (allowedOf members) = ofMembers? members :=
  ofMembers?_congr fun key hkey => by
    rw [allowedOf, Table.get?_filter (allowedKeys.contains ·), if_pos (by simpa using hkey)]

/-- The same record with a comment that has lost the members that are not allowed. -/
def Stripped (r r' : Record) : Prop :=
  ∃ members text, members? r.comment = some members ∧ r' = { r with comment := some text } ∧
    members? (some text) = some (allowedOf members)

/-- Every record whose comment is an object can be stripped. -/
theorem exists_stripped (h : members? r.comment = some members) : ∃ r', Stripped r r' := by
  obtain ⟨text, htext, hread⟩ := members?_eq_some_iff.1 h
  obtain ⟨text', htext'⟩ := Value.exists_read?_filter hread (allowedKeys.contains ·)
  exact ⟨_, members, text', h, rfl, members?_eq_some_iff.2 ⟨text', rfl, htext'⟩⟩

/-- **The full profile on a stripped record** does not stop at a member, and finds what the legacy profile
finds on the record. -/
theorem Stripped.validate_legacy_eq (h : Stripped r r') (hmembers : members? r.comment = some members)
    (hc : ofMembers? members = some c) :
    (∀ key, validate { vocabulary } r' ≠ some (.unknownKey key)) ∧
      validate { vocabulary, profile := .legacy } r = shared (validate { vocabulary } r') := by
  obtain ⟨members', text, hmembers', rfl, htext⟩ := h
  obtain rfl : members = members' := Option.some_inj.1 (hmembers.symm.trans hmembers')
  have hc' : ofMembers? (allowedOf members) = some c := (ofMembers?_allowedOf members).trans hc
  have hallowed : OnlyAllowed (allowedOf members) := onlyAllowed_allowedOf members
  rw [validate_of_members _ hmembers hc, validate_of_members _ htext hc']
  refine ⟨fun key hkey => ?_, ?_⟩
  · exact exists_check_eq_unknownKey_iff.1 ⟨key, hkey⟩ hallowed
  · rw [shared_check hallowed, check_legacy]
    exact checkShared_congr rfl rfl rfl

/-- **From the full profile to the legacy one.**  The legacy verdict is what is left of the full verdict
with the same vocabulary.  If the full profile stops at a member that is not allowed, it is what is left
of the full verdict on the record without such members, which can always be had.  So no record with a
legacy fault is without a full one. -/
theorem legacy_of_full (r : Record) :
    ((∀ key, validate { vocabulary := shortPlaceholders } r ≠ some (.unknownKey key)) →
        legacy.validate r = shared (validate { vocabulary := shortPlaceholders } r)) ∧
      (∀ key, validate { vocabulary := shortPlaceholders } r = some (.unknownKey key) →
        legacy.validate r ≠ some .invalidJson ∧ (∃ r', Stripped r r') ∧
          ∀ r', Stripped r r' →
            (∀ key', validate { vocabulary := shortPlaceholders } r' ≠ some (.unknownKey key')) ∧
              legacy.validate r = shared (validate { vocabulary := shortPlaceholders } r')) ∧
      (legacy.validate r ≠ none → validate { vocabulary := shortPlaceholders } r ≠ none) := by
  refine ⟨validate_legacy_eq_shared, fun key hkey => ?_, fun hlegacy hfull => hlegacy ?_⟩
  · obtain ⟨members, c, hmembers, hc⟩ := exists_members_of_unknownKey hkey
    refine ⟨?_, exists_stripped hmembers, fun r' hr' => hr'.validate_legacy_eq hmembers hc⟩
    exact (legacy_validate_eq_invalidJson_iff hmembers).not.2
      (not_not.2 ((exists_ofMembers?_iff hmembers).1 ⟨c, hc⟩))
  · have hknown : ∀ key, validate { vocabulary := shortPlaceholders } r ≠ some (.unknownKey key) := by
      simp [hfull]
    rw [legacy, validate_legacy_eq_shared hknown, hfull, shared_none]

example :
    let r : Record := { key := "k", comment := some "\x7b\"owner\":true,\"description\":\"\"\x7d" }
    validate { vocabulary := shortPlaceholders } r = some (.unknownKey "owner") ∧
      legacy.validate r = some .emptyDescription := by
  decide +kernel

end Validator

end CatalogLint.Comment
