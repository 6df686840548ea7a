/-! Texts are ordered by their code points. In UTF-8 that is the order of their bytes. -/

namespace WalletCurrencies.Proofs.ByteOrder

/-- The bytes of a text in UTF-8. -/
def bytes (text : String) : List UInt8 := text.toUTF8.data.toList

theorem bytes_eq (text : String) : bytes text = text.toList.flatMap String.utf8EncodeChar := by
  unfold bytes
  rw [String.toUTF8_eq_toByteArray, ← String.utf8Encode_toList]
  exact List.toList_data_toByteArray

theorem bytes_inj {first second : String} : bytes first = bytes second ↔ first = second := by
  unfold bytes
  rw [Array.toList_inj, ← ByteArray.ext_iff, String.toUTF8_eq_toByteArray, String.toUTF8_eq_toByteArray,
    String.toByteArray_inj]

/-- The first byte decides, and the others only where the first ones agree. -/
private theorem cons_lt {first second : Nat} {rest other : List UInt8} (bounded : second < 256)
    (le : first ≤ second) (tail : first = second → rest < other) :
    UInt8.ofNat first :: rest < UInt8.ofNat second :: other := by
  apply List.cons_lt_cons_iff.mpr
  by_cases same : first = second
  · subst same
    exact Or.inr ⟨rfl, tail rfl⟩
  · left
    rw [UInt8.lt_iff_toNat_lt, UInt8.toNat_ofNat', UInt8.toNat_ofNat']
    omega

/-- Longer encodings start with greater bytes, and encodings of one length are compared like
numbers, digit by digit in base 64. -/
theorem encoded_lt {c d : Char} (smaller : c < d) (rest other : List UInt8) :
    String.utf8EncodeChar c ++ rest < String.utf8EncodeChar d ++ other := by
  have below : c.val.toNat < d.val.toNat := smaller
  have bounded : d.val.toNat < 0x110000 := by
    have valid : d.val.toNat < 0xD800 ∨ 0xDFFF < d.val.toNat ∧ d.val.toNat < 0x110000 := d.valid
    omega
  unfold String.utf8EncodeChar
  generalize c.val.toNat = low at below
  generalize d.val.toNat = high at below bounded
  simp only
  split
  · split
    · exact cons_lt (by omega) (by omega) (by omega)
    · split
      · exact cons_lt (by omega) (by omega) (by omega)
      · split <;> exact cons_lt (by omega) (by omega) (by omega)
  · rw [if_neg (by omega : ¬ high ≤ 0x7f)]
    split
    · split
      · refine cons_lt (by omega) (by omega) fun _ => ?_
        exact cons_lt (by omega) (by omega) (by omega)
      · split <;> exact cons_lt (by omega) (by omega) (by omega)
    · rw [if_neg (by omega : ¬ high ≤ 0x7ff)]
      split
      · split
        · refine cons_lt (by omega) (by omega) fun _ => ?_
          refine cons_lt (by omega) (by omega) fun _ => ?_
          exact cons_lt (by omega) (by omega) (by omega)
        · exact cons_lt (by omega) (by omega) (by omega)
      · rw [if_neg (by omega : ¬ high ≤ 0xffff)]
        refine cons_lt (by omega) (by omega) fun _ => ?_
        refine cons_lt (by omega) (by omega) fun _ => ?_
        refine cons_lt (by omega) (by omega) fun _ => ?_
        exact cons_lt (by omega) (by omega) (by omega)

private theorem encodedList_lt {first second : List Char} (smaller : first < second) :
    first.flatMap String.utf8EncodeChar < second.flatMap String.utf8EncodeChar := by
  induction first generalizing second with
  | nil =>
    cases second with
    | nil => exact absurd smaller (List.lt_irrefl [])
    | cons d rest =>
      rw [List.flatMap_nil, List.flatMap_cons]
      cases encoded : String.utf8EncodeChar d with
      | nil =>
        have positive := d.utf8Size_pos
        rw [← String.length_utf8EncodeChar, encoded] at positive
        exact absurd positive (Nat.lt_irrefl 0)
      | cons byte bytes => exact List.nil_lt_cons _ _
  | cons c rest ih =>
    cases second with
    | nil => exact absurd smaller (List.not_lt_nil _)
    | cons d other =>
      simp only [List.flatMap_cons]
      rcases List.cons_lt_cons_iff.mp smaller with lower | ⟨rfl, later⟩
      · exact encoded_lt lower _ _
      · exact List.append_left_lt (ih later)

private theorem bytes_lt_of_lt {first second : String} (smaller : first < second) : bytes first < bytes second := by
  rw [bytes_eq, bytes_eq]
  exact encodedList_lt smaller

theorem bytes_lt_iff (first second : String) : bytes first < bytes second ↔ first < second := by
  refine ⟨fun smaller => ?_, bytes_lt_of_lt⟩
  by_cases same : first = second
  · subst same
    exact absurd smaller (List.lt_irrefl _)
  · apply Classical.byContradiction
    intro notLess
    have greater : second < first := Std.lt_of_le_of_ne (String.not_lt.mp notLess) (Ne.symm same)
    exact List.lt_asymm smaller (bytes_lt_of_lt greater)

end WalletCurrencies.Proofs.ByteOrder
