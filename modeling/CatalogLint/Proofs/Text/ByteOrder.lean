/-
# Texts are ordered like their bytes

Texts are compared character by character, and characters by their codes.  A text on disk is a run of
bytes in UTF-8, and bytes are compared one by one.  Both orders are the same (`bytes_le_iff`): the
first byte of a character grows with the number of its bytes, and among characters of one length the
bytes hold the code from its highest bits down (`utf8EncodeChar_append_lt`).
-/

namespace CatalogLint.Text

/-- The bytes of a text in UTF-8. -/
def bytes (s : String) : List UInt8 := s.toUTF8.data.toList

theorem bytes_eq (s : String) : bytes s = s.toList.flatMap String.utf8EncodeChar := by
  have hs : s.toUTF8 = s.toList.utf8Encode := by
    rw [← String.toByteArray_ofList, String.ofList_toList, String.toUTF8_eq_toByteArray]
  rw [bytes, hs, List.utf8Encode]
  simp

/-- The digits of a code in base sixty-four, from which its bytes are made. -/
theorem exists_digits (n : Nat) : ∃ a b c d, b < 64 ∧ c < 64 ∧ d < 64 ∧
    n = 262144 * a + 4096 * b + 64 * c + d ∧
      n / 262144 = a ∧ n / 4096 % 64 = b ∧ n / 64 % 64 = c ∧ n % 64 = d :=
  ⟨n / 262144, n / 4096 % 64, n / 64 % 64, n % 64, Nat.mod_lt _ (by decide),
    Nat.mod_lt _ (by decide), Nat.mod_lt _ (by decide), by omega, rfl, rfl, rfl, rfl⟩

/-- **One character.**  The bytes of a smaller character stand before those of a greater one, whatever
follows them. -/
theorem utf8EncodeChar_append_lt {c d : Char} (h : c < d) (x y : List UInt8) :
    String.utf8EncodeChar c ++ x < String.utf8EncodeChar d ++ y := by
  have hlt : c.val.toNat < d.val.toNat := h
  have hmax : d.val.toNat < 0x110000 := by
    rcases d.valid with hd | hd
    · exact Nat.lt_trans hd (by decide)
    · exact hd.2
  have hsixteen : ∀ v : Nat, v / 4096 % 16 = v / 4096 % 64 % 16 := by omega
  have hthirty : ∀ v : Nat, v / 64 % 32 = v / 64 % 64 % 32 := by omega
  simp only [String.utf8EncodeChar, hsixteen, hthirty]
  generalize c.val.toNat = m at hlt
  generalize d.val.toNat = n at hlt hmax
  obtain ⟨a₁, b₁, c₁, d₁, hb₁, hc₁, hd₁, hm, ha', hb', hc', hd'⟩ := exists_digits m
  rw [ha', hb', hc', hd']
  clear ha' hb' hc' hd'
  obtain ⟨a₂, b₂, c₂, d₂, hb₂, hc₂, hd₂, hn, ha', hb', hc', hd'⟩ := exists_digits n
  rw [ha', hb', hc', hd']
  clear ha' hb' hc' hd' hsixteen hthirty
  -- the lengths of both characters decide which bytes are compared
  repeat' split
  all_goals
    simp only [List.cons_append, List.nil_append, List.cons_lt_cons_iff, UInt8.lt_iff_toNat_lt,
      ← UInt8.toNat_inj, UInt8.toNat_ofNat']
    omega

theorem utf8_lt_of_lt {cs ds : List Char} (h : cs < ds) :
    cs.flatMap String.utf8EncodeChar < ds.flatMap String.utf8EncodeChar := by
  induction cs generalizing ds with
  | nil =>
    cases ds with
    | nil => exact absurd h (List.lt_irrefl [])
    | cons d ds =>
      obtain ⟨b, bs, hb⟩ := List.exists_cons_of_ne_nil (String.utf8EncodeChar_ne_nil (c := d))
      rw [List.flatMap_cons, hb]
      exact List.nil_lt_cons b _
  | cons c cs ih =>
    cases ds with
    | nil => exact absurd h (List.not_lt_nil _)
    | cons d ds =>
      rw [List.flatMap_cons, List.flatMap_cons]
      rcases List.cons_lt_cons_iff.1 h with hcd | ⟨rfl, hlt⟩
      · exact utf8EncodeChar_append_lt hcd _ _
      · exact List.append_left_lt (ih hlt)

theorem bytes_lt_of_lt {a b : String} (h : a < b) : bytes a < bytes b := by
  rw [bytes_eq, bytes_eq]
  exact utf8_lt_of_lt (String.lt_iff.1 h)

/-- **The order of texts is the order of their bytes.** -/
theorem bytes_le_iff {a b : String} : bytes a ≤ bytes b ↔ a ≤ b := by
  constructor
  · intro h
    rcases Std.le_total (a := a) (b := b) with hab | hba
    · exact hab
    · by_cases he : a = b
      · exact he ▸ Std.le_refl a
      · have hlt := bytes_lt_of_lt (Std.lt_of_le_of_ne hba fun hb => he hb.symm)
        exact absurd hlt (List.not_lt.2 h)
  · intro h
    by_cases he : a = b
    · exact he ▸ List.le_refl _
    · exact List.le_of_lt (bytes_lt_of_lt (Std.lt_of_le_of_ne h he))

end CatalogLint.Text
