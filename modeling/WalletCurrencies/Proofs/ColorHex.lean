import WalletCurrencies.Proofs.HexDigits
import WalletCurrencies.Proofs.Trimming

/-! Colors survive their spelling in hexadecimal digits: what is written has no blanks at its ends,
one number sign in front, and two digits for every byte. -/

namespace WalletCurrencies

namespace Color

theorem spellsBytes_byteHex (color : Color) :
    Text.SpellsBytes (byteHex color.red ++ byteHex color.green ++ byteHex color.blue) color.components :=
  .pair (Text.spellsByte_halves _) (.pair (Text.spellsByte_halves _) (.pair (Text.spellsByte_halves _) .nil))

/-- Number signs are passed over, however many there are. -/
theorem hexPart_of_trim_eq {text : String} {digits : List Char} {signs : Nat}
    (plain : ∀ c ∈ digits, Text.isBlank c = false ∧ c ≠ '#')
    (trimmed : Text.trim text.toList = List.replicate signs '#' ++ digits) : hexPart text = digits := by
  rw [hexPart, trimmed,
    List.dropWhile_append_of_pos fun c member => beq_iff_eq.mpr (List.eq_of_mem_replicate member)]
  cases digits with
  | nil => rfl
  | cons c rest =>
    rw [List.dropWhile_cons_of_neg]
    simpa using (plain c List.mem_cons_self).2

/-- Neither number signs nor digits are blanks. -/
theorem trim_signed {before digits after : List Char} (signs : Nat)
    (plain : ∀ c ∈ digits, Text.isBlank c = false ∧ c ≠ '#') (left : ∀ c ∈ before, Text.isBlank c = true)
    (right : ∀ c ∈ after, Text.isBlank c = true) :
    Text.trim (before ++ (List.replicate signs '#' ++ digits) ++ after) = List.replicate signs '#' ++ digits := by
  refine (Text.Trimmed.between left ?_ right).trim_eq
  intro c member
  rcases List.mem_append.mp member with sign | digit
  · rw [List.eq_of_mem_replicate sign]
    decide
  · exact (plain c digit).1

theorem hexPart_toHex (color : Color) :
    hexPart color.toHex = byteHex color.red ++ byteHex color.green ++ byteHex color.blue := by
  have plain := (spellsBytes_byteHex color).plain
  have trimmed := trim_signed 1 plain (List.forall_mem_nil _) (List.forall_mem_nil _)
  rw [List.nil_append, List.append_nil] at trimmed
  refine hexPart_of_trim_eq plain (Eq.trans ?_ trimmed)
  rw [toHex, String.toList_ofList]
  rfl

theorem ofHex_toHex (color : Color) : ofHex color.toHex = .ok color := by
  rw [ofHex, hexPart_toHex, ofHexDigits?_eq_some_iff.mpr (spellsBytes_byteHex color)]

end Color

/-- Two colors make a palette, and no other number of them does. -/
theorem Palette.ofHexes_eq_ok_iff {hexes : List String} {palette : Palette} :
    ofHexes hexes = .ok palette ↔
      ∃ first second, hexes = [first, second] ∧
        Color.ofHex first = .ok palette.primary ∧ Color.ofHex second = .ok palette.secondary := by
  constructor
  · intro read
    unfold ofHexes at read
    split at read
    next first second =>
      cases primary : Color.ofHex first with
      | error failure =>
        rw [primary] at read
        cases read
      | ok left =>
        cases secondary : Color.ofHex second with
        | error failure =>
          rw [primary, secondary] at read
          cases read
        | ok right =>
          rw [primary, secondary] at read
          cases read
          exact ⟨first, second, rfl, primary, secondary⟩
    next => cases read
  · intro holds
    obtain ⟨first, second, rfl, primary, secondary⟩ := holds
    simp only [ofHexes, primary, secondary]
    rfl

theorem Palette.ofHexes_toHexes (palette : Palette) : ofHexes palette.toHexes = .ok palette := by
  simp only [toHexes, ofHexes, Color.ofHex_toHex]
  rfl

end WalletCurrencies
