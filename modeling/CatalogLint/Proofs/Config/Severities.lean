/-
# Where a severity comes from

The severity of a kind is looked for in four places, one behind the other: among the overrides, in the
table of the rule's options, in its option `severity`, and in the default that is given.

* What stands in each place is said without the reader: `Toml.Value.Names` is a string that names a
  severity, `Toml.Value.Sets` a table that sets one for a kind, `SeverityMap.LastSet` an override that
  is not overridden.  A value that is none of these is passed over.
* `SeverityMap.RuleTier` and `SeverityMap.KindTier` are the severities of a rule and of a kind, with one
  constructor for each place, which says that the places before it are empty.
* Overrides are set one after the other, and the last one of a kind counts (`resolve_withOverrides`).
  Those of different kinds can be set in any order (`withOverrides_swap`).
* `SeverityMap.resolve_tiers` puts this together: what is resolved is what the places say.
-/
import CatalogLint.Proofs.Config.Sanitised
import CatalogLint.Proofs.Text.Trim

namespace CatalogLint

/-! ## 1. Tables -/

namespace Table

variable {α : Type} {t : Table α} {key : String} {a : α}

/-- A key has the value of its first entry. -/
theorem get?_eq_some_iff :
    get? t key = some a ↔
      ∃ front back, t = front ++ (key, a) :: back ∧ ∀ e ∈ front, e.1 ≠ key := by
  rw [get?, Option.map_eq_some_iff]
  constructor
  · rintro ⟨e, he, rfl⟩
    obtain ⟨hkey, front, back, rfl, hfront⟩ := List.find?_eq_some_iff_append.1 he
    obtain rfl := beq_iff_eq.1 hkey
    exact ⟨front, back, rfl, fun e' he' => by simpa using hfront e' he'⟩
  · rintro ⟨front, back, rfl, hfront⟩
    refine ⟨(key, a), List.find?_eq_some_iff_append.2 ⟨beq_self_eq_true key, front, back, rfl,
      fun e he => ?_⟩, rfl⟩
    simpa using hfront e he

/-- A key that comes before the first one is put in front. -/
theorem insert_of_lt_head (h : ∀ e ∈ t.head?, key < e.1) (a : α) :
    insert key a t = (key, a) :: t := by
  cases t with
  | nil => rfl
  | cons e t =>
    have hlt := h e rfl
    have hne : key ≠ e.1 := fun heq => String.lt_irrefl e.1 (heq ▸ hlt)
    rw [insert, if_neg hne, if_pos hlt]

theorem lt_head_insert {key' : String} (h : key < key') (ht : ∀ e ∈ t.head?, key < e.1) (a : α) :
    ∀ e ∈ (insert key' a t).head?, key < e.1 := by
  cases t with
  | nil => rintro e ⟨⟩; exact h
  | cons e t =>
    unfold insert
    split
    · rintro e ⟨⟩; exact h
    · split
      · rintro e ⟨⟩; exact h
      · exact ht

/-- Two entries whose keys ascend are put in their places in any order. -/
theorem insert_comm_of_lt {key' : String} (h : key < key') (a a' : α) (t : Table α) :
    insert key a (insert key' a' t) = insert key' a' (insert key a t) := by
  have hne : key' ≠ key := fun heq => String.lt_irrefl key' (heq ▸ h)
  have hnlt : ¬key' < key := String.lt_asymm h
  induction t with
  | nil => simp [insert, h, hne, hne.symm, hnlt]
  | cons e t ih =>
    by_cases hlt : key < e.1
    · have hhead : ∀ e' ∈ (e :: t).head?, key < e'.1 := by rintro e' ⟨⟩; exact hlt
      rw [insert_of_lt_head (lt_head_insert h hhead a'), insert_of_lt_head hhead]
      simp [insert, hne, hnlt]
    · by_cases heq : key = e.1
      · subst heq
        simp [insert, hne, hnlt]
      · -- neither of the two is put in front
        have hbehind : e.1 < key := by
          rcases Std.le_total (a := e.1) (b := key) with hle | hle
          · exact Std.lt_of_le_of_ne hle fun he => heq he.symm
          · exact absurd (Std.lt_of_le_of_ne hle heq) hlt
        have hbehind' : e.1 < key' := String.lt_trans hbehind h
        have heq' : key' ≠ e.1 := fun he => String.lt_irrefl e.1 (he ▸ hbehind')
        simp [insert, heq, hlt, heq', String.lt_asymm hbehind', ih]

/-- Entries of different keys are put in their places in any order. -/
theorem insert_comm {key' : String} (h : key ≠ key') (a a' : α) (t : Table α) :
    insert key a (insert key' a' t) = insert key' a' (insert key a t) := by
  rcases Std.le_total (a := key) (b := key') with hle | hle
  · exact insert_comm_of_lt (Std.lt_of_le_of_ne hle h) a a' t
  · exact (insert_comm_of_lt (Std.lt_of_le_of_ne hle h.symm) a' a t).symm

end Table

/-- The block with the value of one option. -/
def RuleBlock.withOption (b : RuleBlock) (key : String) (v : Toml.Value) : RuleBlock :=
  ⟨Table.insert key v b.options⟩

theorem RuleBlock.option?_withOption_self (b : RuleBlock) (key : String) (v : Toml.Value) :
    (b.withOption key v).option? key = some v :=
  Table.get?_insert_self b.options key v

theorem RuleBlock.option?_withOption_of_ne {k key : String} (h : k ≠ key) (b : RuleBlock)
    (v : Toml.Value) : (b.withOption key v).option? k = b.option? k :=
  Table.get?_insert_of_ne h b.options v

/-! ## 2. Values -/

namespace Toml.Value

variable {v : Value} {s : Severity} {kind : String}

/-- The value is a string that names the severity, in any case of its ASCII letters and with white space
around the name. -/
def Names (v : Value) (s : Severity) : Prop := ∃ text, v = string text ∧ Text.Spells s.name text

/-- The value is a table, and of its entries for the kind that name a severity, the first names this
one. -/
def Sets (v : Value) (kind : String) (s : Severity) : Prop :=
  ∃ front value back, v = table (front ++ (kind, value) :: back) ∧ value.Names s ∧
    ∀ e ∈ front, e.1 = kind → ∀ t, ¬e.2.Names t

theorem severity?_eq_some_iff : v.severity? = some s ↔ v.Names s := by
  have hname : ∀ c ∈ s.name.toList, Text.isBlank c = false := by
    have hall : (s.name.toList.all fun c => !Text.isBlank c) = true := by cases s <;> decide
    simpa using hall
  have hparse (text : String) : (Severity.parse text).toOption = some s ↔ Text.Spells s.name text := by
    rw [← Text.spells_iff hname, ← Severity.parse_eq_ok_iff]
    cases Severity.parse text <;> simp [Except.toOption]
  constructor
  · intro h
    obtain ⟨text, htext, hs⟩ := Option.bind_eq_some_iff.1 h
    cases v with
    | string text' => exact ⟨text, by rw [Option.some_inj.1 htext], (hparse text).1 hs⟩
    | _ => cases htext
  · rintro ⟨text, rfl, hs⟩
    exact (hparse text).2 hs

theorem severity?_eq_none_iff : v.severity? = none ↔ ∀ s, ¬v.Names s := by
  rw [Option.eq_none_iff_forall_ne_some]
  exact forall_congr' fun s => not_congr severity?_eq_some_iff

/-- What an entry of a table sets for a kind. -/
def entrySeverity? (kind : String) (e : String × Value) : Option Severity :=
  if e.1 = kind then e.2.severity? else none

theorem entrySeverity?_eq_some_iff {e : String × Value} :
    entrySeverity? kind e = some s ↔ e.1 = kind ∧ e.2.Names s := by
  rw [entrySeverity?, ← severity?_eq_some_iff]
  split <;> simp [*]

theorem entrySeverity?_eq_none_iff {e : String × Value} :
    entrySeverity? kind e = none ↔ (e.1 = kind → ∀ t, ¬e.2.Names t) := by
  rw [entrySeverity?, ← severity?_eq_none_iff]
  split <;> simp [*]

/-- A table sets what its first entry for the kind sets that sets anything. -/
theorem severityFor?_table (kind : String) (entries : Table Value) :
    severityFor? kind (table entries) = entries.findSome? (entrySeverity? kind) := by
  rw [severityFor?]
  induction entries with
  | nil => rfl
  | cons e entries ih =>
    rw [get?_severities_cons, ih, List.findSome?_cons, ← entrySeverity?]
    cases entrySeverity? kind e <;> rfl

theorem severityFor?_eq_some_iff : severityFor? kind v = some s ↔ v.Sets kind s := by
  constructor
  · intro h
    cases v with
    | table entries =>
      rw [severityFor?_table] at h
      obtain ⟨front, ⟨key, value⟩, back, rfl, he, hfront⟩ := List.findSome?_eq_some_iff.1 h
      obtain ⟨rfl, hvalue⟩ := entrySeverity?_eq_some_iff.1 he
      exact ⟨front, value, back, rfl, hvalue, fun e he =>
        entrySeverity?_eq_none_iff.1 (hfront e he)⟩
    | _ => cases h
  · rintro ⟨front, value, back, rfl, hvalue, hfront⟩
    rw [severityFor?_table]
    exact List.findSome?_eq_some_iff.2 ⟨front, (kind, value), back, rfl,
      entrySeverity?_eq_some_iff.2 ⟨rfl, hvalue⟩, fun e he =>
        entrySeverity?_eq_none_iff.2 (hfront e he)⟩

/-- In a table in which no key comes twice there is one entry to look at. -/
theorem sets_table_iff {entries : Table Value} (h : (entries.map Prod.fst).Nodup) :
    (table entries).Sets kind s ↔ ∃ value, (kind, value) ∈ entries ∧ value.Names s := by
  constructor
  · rintro ⟨front, value, back, hentries, hvalue, -⟩
    cases hentries
    exact ⟨value, List.mem_append_right _ List.mem_cons_self, hvalue⟩
  · rintro ⟨value, hmem, hvalue⟩
    obtain ⟨front, back, rfl⟩ := List.append_of_mem hmem
    refine ⟨front, value, back, rfl, hvalue, fun e he hkey => ?_⟩
    rw [List.map_append, List.map_cons, List.nodup_append] at h
    exact absurd hkey (h.2.2 e.1 (List.mem_map_of_mem he) kind List.mem_cons_self)

/-- What a table sets for a kind depends on its entries for that kind only. -/
theorem severityFor?_table_filter (kind : String) (entries : Table Value) :
    severityFor? kind (table entries) =
      (entries.filter fun e => e.1 = kind).findSome? fun e => e.2.severity? := by
  rw [severityFor?_table]
  induction entries with
  | nil => rfl
  | cons e entries ih =>
    rw [List.findSome?_cons, ih, entrySeverity?, List.filter_cons]
    by_cases hkey : e.1 = kind
    · rw [if_pos hkey, if_pos (decide_eq_true hkey), List.findSome?_cons]
    · rw [if_neg hkey, if_neg (by simpa using hkey)]

end Toml.Value

/-! ## 3. Overrides -/

namespace SeverityMap

variable {m : SeverityMap} {overrides : List (String × Severity)} {kind : String} {s : Severity}

/-- Severities of kinds, set one after the other. -/
def withOverrides (m : SeverityMap) (overrides : List (String × Severity)) : SeverityMap :=
  overrides.foldl (fun m e => m.withOverride e.1 e.2) m

/-- The severity is set for the kind, and none is set for it behind that. -/
def LastSet (overrides : List (String × Severity)) (kind : String) (s : Severity) : Prop :=
  ∃ front back, overrides = front ++ (kind, s) :: back ∧ ∀ e ∈ back, e.1 ≠ kind

theorem lastSet_iff : LastSet overrides kind s ↔ Table.get? overrides.reverse kind = some s := by
  rw [Table.get?_eq_some_iff]
  constructor
  · rintro ⟨front, back, rfl, hback⟩
    exact ⟨back.reverse, front.reverse, by simp, fun e he => hback e (List.mem_reverse.1 he)⟩
  · rintro ⟨front, back, h, hfront⟩
    refine ⟨back.reverse, front.reverse, ?_, fun e he => hfront e (List.mem_reverse.1 he)⟩
    rw [List.reverse_eq_iff.1 h]
    simp

theorem get?_reverse_eq_none_iff :
    Table.get? overrides.reverse kind = none ↔ ∀ e ∈ overrides, e.1 ≠ kind := by
  rw [Table.get?_eq_none_iff]
  simp only [List.mem_reverse]

/-- One override changes the severity of its kind. -/
theorem resolve_withOverride (m : SeverityMap) (key : String) (s : Severity) (kind : String) :
    (m.withOverride key s).resolve kind = if key = kind then s else m.resolve kind := by
  rw [resolve, withOverride]
  split
  · next hkey => rw [hkey, Table.get?_insert_self, Option.getD_some]
  · next hkey => rw [Table.get?_insert_of_ne (Ne.symm hkey), resolve]

/-- **The last override of a kind counts.** -/
theorem resolve_withOverrides (m : SeverityMap) (overrides : List (String × Severity))
    (kind : String) :
    (m.withOverrides overrides).resolve kind =
      (Table.get? overrides.reverse kind).getD (m.resolve kind) := by
  induction overrides using List.reverseRecOn with
  | nil => rfl
  | append_singleton overrides e ih =>
    rw [withOverrides, List.foldl_concat, resolve_withOverride, List.reverse_concat, Table.get?_cons]
    split
    · rfl
    · exact ih

theorem default_withOverrides (m : SeverityMap) (overrides : List (String × Severity)) :
    (m.withOverrides overrides).default = m.default := by
  induction overrides generalizing m with
  | nil => rfl
  | cons e overrides ih => exact ih (m.withOverride e.1 e.2)

theorem withOverride_comm {other : String} (h : kind ≠ other) (m : SeverityMap) (s t : Severity) :
    (m.withOverride kind s).withOverride other t = (m.withOverride other t).withOverride kind s :=
  congrArg (SeverityMap.mk m.default) (Table.insert_comm h.symm t s m.overrides)

/-- **Overrides of different kinds commute**, wherever they stand. -/
theorem withOverrides_swap {other : String} (h : kind ≠ other) (m : SeverityMap) (s t : Severity)
    (front back : List (String × Severity)) :
    m.withOverrides (front ++ (kind, s) :: (other, t) :: back) =
      m.withOverrides (front ++ (other, t) :: (kind, s) :: back) := by
  simp only [withOverrides, List.foldl_append, List.foldl_cons]
  rw [withOverride_comm h]

/-! ## 4. Tiers -/

variable {block : Option RuleBlock} {given : Severity}

/-- The severities of a rule: from its options, with a default that is given, and then overridden. -/
def configured (block : Option RuleBlock) (given : Severity)
    (overrides : List (String × Severity)) : SeverityMap :=
  (ofBlock block given).value.withOverrides overrides

/-- There is a block, and its option `severity` names the severity. -/
def SetsRule (block : Option RuleBlock) (s : Severity) : Prop :=
  ∃ b v, block = some b ∧ b.option? "severity" = some v ∧ v.Names s

/-- There is a block, and its option `severity_map` sets the severity for the kind. -/
def SetsKind (block : Option RuleBlock) (kind : String) (s : Severity) : Prop :=
  ∃ b v, block = some b ∧ b.option? "severity_map" = some v ∧ v.Sets kind s

/-- The severity of a rule. -/
inductive RuleTier (block : Option RuleBlock) (given : Severity) : Severity → Prop
  /-- The block names one. -/
  | option {s : Severity} (h : SetsRule block s) : RuleTier block given s
  /-- It names none. -/
  | given (h : ∀ t, ¬SetsRule block t) : RuleTier block given given

/-- The severity of a kind. -/
inductive KindTier (block : Option RuleBlock) (given : Severity)
    (overrides : List (String × Severity)) (kind : String) : Severity → Prop
  /-- The kind is overridden. -/
  | override {s : Severity} (h : LastSet overrides kind s) : KindTier block given overrides kind s
  /-- It is not, and the block has an entry for it. -/
  | entry {s : Severity} (hoverrides : ∀ e ∈ overrides, e.1 ≠ kind) (h : SetsKind block kind s) :
    KindTier block given overrides kind s
  /-- It is not, and the block has none. -/
  | rule {s : Severity} (hoverrides : ∀ e ∈ overrides, e.1 ≠ kind)
    (hentry : ∀ t, ¬SetsKind block kind t) (h : RuleTier block given s) :
    KindTier block given overrides kind s

/-- What the option `severity` of a block names. -/
def ruleSeverity? (block : Option RuleBlock) : Option Severity :=
  (block.bind fun b => b.option? "severity").bind Toml.Value.severity?

/-- What the option `severity_map` of a block sets for a kind. -/
def kindSeverity? (block : Option RuleBlock) (kind : String) : Option Severity :=
  (block.bind fun b => b.option? "severity_map").bind (Toml.Value.severityFor? kind)

theorem bind_option?_eq_some_iff {key : String} {read : Toml.Value → Option Severity} :
    (block.bind fun b => b.option? key).bind read = some s ↔
      ∃ b v, block = some b ∧ b.option? key = some v ∧ read v = some s := by
  constructor
  · intro h
    obtain ⟨v, hv, hs⟩ := Option.bind_eq_some_iff.1 h
    obtain ⟨b, hb, hkey⟩ := Option.bind_eq_some_iff.1 hv
    exact ⟨b, v, hb, hkey, hs⟩
  · rintro ⟨b, v, rfl, hkey, hs⟩
    rw [Option.bind_some, hkey, Option.bind_some, hs]

theorem ruleSeverity?_eq_some_iff : ruleSeverity? block = some s ↔ SetsRule block s := by
  simp only [ruleSeverity?, SetsRule, bind_option?_eq_some_iff, Toml.Value.severity?_eq_some_iff]

theorem ruleSeverity?_eq_none_iff : ruleSeverity? block = none ↔ ∀ t, ¬SetsRule block t := by
  rw [Option.eq_none_iff_forall_ne_some]
  exact forall_congr' fun t => not_congr ruleSeverity?_eq_some_iff

theorem kindSeverity?_eq_some_iff : kindSeverity? block kind = some s ↔ SetsKind block kind s := by
  simp only [kindSeverity?, SetsKind, bind_option?_eq_some_iff,
    Toml.Value.severityFor?_eq_some_iff]

theorem kindSeverity?_eq_none_iff :
    kindSeverity? block kind = none ↔ ∀ t, ¬SetsKind block kind t := by
  rw [Option.eq_none_iff_forall_ne_some]
  exact forall_congr' fun t => not_congr kindSeverity?_eq_some_iff

theorem default_configured (block : Option RuleBlock) (given : Severity)
    (overrides : List (String × Severity)) :
    (configured block given overrides).default = (ruleSeverity? block).getD given := by
  rw [configured, default_withOverrides, default_ofBlock, ruleSeverity?]

/-- The places, one behind the other. -/
theorem resolve_configured (block : Option RuleBlock) (given : Severity)
    (overrides : List (String × Severity)) (kind : String) :
    (configured block given overrides).resolve kind =
      (Table.get? overrides.reverse kind).getD
        ((kindSeverity? block kind).getD ((ruleSeverity? block).getD given)) := by
  rw [configured, resolve_withOverrides, resolve_ofBlock, default_ofBlock, kindSeverity?,
    ruleSeverity?]

theorem RuleTier.default_eq (h : RuleTier block given s) (overrides : List (String × Severity)) :
    (configured block given overrides).default = s := by
  rw [default_configured]
  cases h with
  | option h => rw [ruleSeverity?_eq_some_iff.2 h, Option.getD_some]
  | given h => rw [ruleSeverity?_eq_none_iff.2 h, Option.getD_none]

theorem ruleTier_default (block : Option RuleBlock) (given : Severity)
    (overrides : List (String × Severity)) :
    RuleTier block given (configured block given overrides).default := by
  rw [default_configured]
  cases hrule : ruleSeverity? block with
  | some s => exact .option (ruleSeverity?_eq_some_iff.1 hrule)
  | none => exact .given (ruleSeverity?_eq_none_iff.1 hrule)

theorem KindTier.resolve_eq (h : KindTier block given overrides kind s) :
    (configured block given overrides).resolve kind = s := by
  rw [resolve_configured]
  cases h with
  | override h => rw [lastSet_iff.1 h, Option.getD_some]
  | entry hoverrides h =>
    rw [get?_reverse_eq_none_iff.2 hoverrides, Option.getD_none, kindSeverity?_eq_some_iff.2 h,
      Option.getD_some]
  | rule hoverrides hentry h =>
    rw [get?_reverse_eq_none_iff.2 hoverrides, Option.getD_none,
      kindSeverity?_eq_none_iff.2 hentry, Option.getD_none, ← default_configured block given overrides,
      h.default_eq overrides]

theorem kindTier_resolve (block : Option RuleBlock) (given : Severity)
    (overrides : List (String × Severity)) (kind : String) :
    KindTier block given overrides kind ((configured block given overrides).resolve kind) := by
  rw [resolve_configured]
  cases hover : Table.get? overrides.reverse kind with
  | some s => exact .override (lastSet_iff.2 hover)
  | none =>
    have hoverrides := get?_reverse_eq_none_iff.1 hover
    cases hentry : kindSeverity? block kind with
    | some s => exact .entry hoverrides (kindSeverity?_eq_some_iff.1 hentry)
    | none =>
      refine .rule hoverrides (kindSeverity?_eq_none_iff.1 hentry) ?_
      have hdefault := ruleTier_default block given overrides
      rwa [default_configured] at hdefault

/-- In a table in which no key comes twice, what is set for a kind is what its entry names. -/
theorem setsKind_iff {b : RuleBlock} {entries : Table Toml.Value}
    (hoption : b.option? "severity_map" = some (.table entries))
    (hnodup : (entries.map Prod.fst).Nodup) :
    SetsKind (some b) kind s ↔ ∃ value, (kind, value) ∈ entries ∧ value.Names s := by
  rw [← Toml.Value.sets_table_iff hnodup]
  constructor
  · rintro ⟨b', v, hb, hv, hsets⟩
    cases hb
    cases hoption.symm.trans hv
    exact hsets
  · exact fun hsets => ⟨b, _, rfl, hoption, hsets⟩

/-- The severity of a kind depends on the entries of a table for that kind only. -/
theorem resolve_configured_table (b : RuleBlock) (given : Severity)
    (overrides : List (String × Severity)) {entries entries' : Table Toml.Value}
    (h : (entries.filter fun e => e.1 = kind) = entries'.filter fun e => e.1 = kind) :
    (configured (some (b.withOption "severity_map" (.table entries))) given overrides).resolve kind =
      (configured (some (b.withOption "severity_map" (.table entries'))) given overrides).resolve
        kind := by
  have hkind : kindSeverity? (some (b.withOption "severity_map" (.table entries))) kind =
      kindSeverity? (some (b.withOption "severity_map" (.table entries'))) kind := by
    simp only [kindSeverity?, Option.bind_some, RuleBlock.option?_withOption_self,
      Toml.Value.severityFor?_table_filter, h]
  have hrule : ruleSeverity? (some (b.withOption "severity_map" (.table entries))) =
      ruleSeverity? (some (b.withOption "severity_map" (.table entries'))) := by
    have hne : "severity" ≠ "severity_map" := by decide
    simp only [ruleSeverity?, Option.bind_some, RuleBlock.option?_withOption_of_ne hne]
  rw [resolve_configured, resolve_configured, hkind, hrule]

/-- **A severity comes from the first of its tiers.**  (i) A kind has the severity of its last override;
else the one that the table of the block names for it; else that of the rule.  (ii) The severity of the
rule is what its option names, or else what is given, however many overrides there are.  (iii) Overrides
of different kinds that stand side by side can be exchanged.  (iv) In a table in which no key comes
twice, what is set for a kind is what its entry names.  (v) Whatever the table holds for other kinds,
and however malformed it is, changes nothing for a kind. -/
theorem resolve_tiers (block : Option RuleBlock) (given : Severity)
    (overrides : List (String × Severity)) :
    (∀ kind s, (configured block given overrides).resolve kind = s ↔
        KindTier block given overrides kind s) ∧
      (∀ s, (configured block given overrides).default = s ↔ RuleTier block given s) ∧
      (∀ front back kind other s t, kind ≠ other →
        overrides = front ++ (kind, s) :: (other, t) :: back →
        configured block given overrides =
          configured block given (front ++ (other, t) :: (kind, s) :: back)) ∧
      (∀ b entries, block = some b → b.option? "severity_map" = some (.table entries) →
        (entries.map Prod.fst).Nodup → ∀ kind s, SetsKind block kind s ↔
          ∃ value, (kind, value) ∈ entries ∧ value.Names s) ∧
      ∀ (b : RuleBlock) (kind : String) (entries entries' : Table Toml.Value),
        ((entries.filter fun e => e.1 = kind) = entries'.filter fun e => e.1 = kind) →
        (configured (some (b.withOption "severity_map" (.table entries))) given overrides).resolve
            kind =
          (configured (some (b.withOption "severity_map" (.table entries'))) given
            overrides).resolve kind := by
  refine ⟨fun kind s => ⟨?_, KindTier.resolve_eq⟩, fun s => ⟨?_, fun h => h.default_eq overrides⟩,
    ?_, ?_, fun b kind entries entries' => resolve_configured_table b given overrides⟩
  · rintro rfl
    exact kindTier_resolve block given overrides kind
  · rintro rfl
    exact ruleTier_default block given overrides
  · rintro front back kind other s t hne rfl
    exact withOverrides_swap hne _ s t front back
  · rintro b entries rfl hoption hnodup kind s
    exact setsKind_iff hoption hnodup

/-- A name that is unknown and an entry that is no string are passed over: the kind of the first gets
the severity of the rule, and the kind between the two what its own entry names. -/
theorem resolve_tiers_malformed :
    let entries : Table Toml.Value := [("invalidJSON", .string "loud"),
      ("missingDescription", .string " None\n"), ("tooLong", .integer 3)]
    let b : RuleBlock := ⟨[("severity", .string "ERROR"), ("severity_map", .table entries)]⟩
    let overrides : List (String × Severity) :=
      [("unknownKey", .none), ("tooLong", .none), ("unknownKey", .warning)]
    "unknownKey" ≠ "tooLong" ∧
      configured (some b) .warning overrides = configured (some b) .warning
        [("tooLong", .none), ("unknownKey", .none), ("unknownKey", .warning)] ∧
      (entries.map Prod.fst).Nodup ∧ SetsKind (some b) "missingDescription" .none ∧
      (configured (some b) .warning overrides).resolve "missingDescription" = .none ∧
      KindTier (some b) .warning overrides "invalidJSON" .error ∧
      (configured (some (b.withOption "severity_map" (.table entries))) .warning overrides).resolve
          "missingDescription" =
        (configured (some (b.withOption "severity_map"
          (.table [("missingDescription", .string " None\n")]))) .warning overrides).resolve
            "missingDescription" := by
  intro entries b overrides
  obtain ⟨htier, -, hswap, hsets, hother⟩ := resolve_tiers (some b) .warning overrides
  have hne : "unknownKey" ≠ "tooLong" := by decide
  have hnodup : (entries.map Prod.fst).Nodup := by decide
  have hspells : Text.Spells Severity.none.name " None\n" :=
    ⟨[' '], "None".toList, ['\n'], by decide, List.forall_mem_singleton.2 (by decide),
      List.forall_mem_singleton.2 (by decide), by decide⟩
  have hentry : SetsKind (some b) "missingDescription" .none :=
    (hsets b entries rfl rfl hnodup _ _).2
      ⟨.string " None\n", List.mem_cons_of_mem _ List.mem_cons_self, _, rfl, hspells⟩
  have hoverrides : ∀ e ∈ overrides, e.1 ≠ "missingDescription" := by decide
  refine ⟨hne, hswap [] _ _ _ _ _ hne rfl, hnodup, hentry, (htier _ _).2 (.entry hoverrides hentry),
    (htier _ _).1 (by decide), hother b _ _ _ (by rfl)⟩

end SeverityMap

end CatalogLint
