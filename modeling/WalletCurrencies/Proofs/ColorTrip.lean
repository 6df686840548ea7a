import Mathlib.Data.List.DropRight
import WalletCurrencies.Proofs.AsciiCase
import WalletCurrencies.Proofs.ColorGrammar

/-! Colors and their texts. A color is read back from the text it is written as, and a color that was
read is written with the digits that were read, in small letters: texts of one color differ in the case of
their digits and in what stands around them. Two colors in a row are read as a palette, and no other list is. -/

namespace WalletCurrencies

namespace Text

variable {text : String} {digits : List Char} {bytes : List UInt8}

/-- The six characters at the end of a text without its blanks, or all of them where there are fewer. -/
def LastSix (text : String) (digits : List Char) : Prop := ∃ core, Trimmed text.toList core ∧ core.rtake 6 = digits

theorem lastSix_iff : LastSix text digits ↔ (trim text.toList).rtake 6 = digits := by
  constructor
  · intro ends
    obtain ⟨core, trimmed, same⟩ := ends
    rw [trimmed.trim_eq, same]
  · exact fun same => ⟨_, trimmed_trim _, same⟩

theorem IsHexDigit.toLower {c : Char} {value : Nat} (digit : IsHexDigit c value) : c.toLower = hexDigit value := by
  have lowered : ∀ alphabet ∈ hexAlphabets, ∀ value < 16,
      alphabet[value]?.map Char.toLower = some (hexDigit value) := by decide
  have bounded := digit.lt
  obtain ⟨alphabet, member, found⟩ := digit
  simpa only [found, Option.map_some, Option.some.injEq] using lowered alphabet member value bounded

/-- A byte has one spelling in small letters. -/
theorem SpellsByte.byteHex_eq {high low : Char} {byte : UInt8} (spelled : SpellsByte high low byte) :
    Color.byteHex byte = [high.toLower, low.toLower] := by
  obtain ⟨left, right, first, second, value⟩ := spelled
  have bounded := second.lt
  have upperHalf : byte.toNat / 16 = left := by omega
  have lowerHalf : byte.toNat % 16 = right := by omega
  rw [Color.byteHex, upperHalf, lowerHalf, first.toLower, second.toLower]

theorem SpellsBytes.map_toLower (spelled : SpellsBytes digits bytes) :
    digits.map Char.toLower = bytes.flatMap Color.byteHex := by
  induction spelled with
  | nil => rfl
  | pair spelled _ ih =>
    rw [List.flatMap_cons, spelled.byteHex_eq, ← ih]
    rfl

theorem SpellsBytes.length_eq (spelled : SpellsBytes digits bytes) : digits.length = 2 * bytes.length := by
  induction spelled with
  | nil => rfl
  | pair _ _ ih =>
    simp only [List.length_cons, ih]
    omega

end Text

namespace Color

open Text

variable {text : String} {digits : List Char} {color : Color}

/-- The digits that are read end the text, whatever number signs and blanks there are. -/
theorem lastSix_of_ofHex (read : ofHex text = .ok color) :
    ∃ digits, LastSix text digits ∧ SpellsBytes digits color.components := by
  obtain ⟨signs, spelling⟩ := ofHex_eq_ok_iff.mp read
  obtain ⟨digits, spelled, trimmed⟩ := spelling.trim_eq
  have six : digits.length = 6 := spelled.length_eq
  refine ⟨digits, lastSix_iff.mpr ?_, spelled⟩
  rw [trimmed, List.rtake, List.length_append, six, Nat.add_sub_cancel, List.drop_left]

theorem toHex_of_spellsBytes (spelled : SpellsBytes digits color.components) :
    color.toHex = String.ofList ('#' :: digits.map Char.toLower) := by
  rw [spelled.map_toLower]
  rfl

theorem toHex_inj {color other : Color} : color.toHex = other.toHex ↔ color = other := by
  constructor
  · intro same
    have read := ofHex_toHex color
    rw [same, ofHex_toHex] at read
    exact (Except.ok.inj read).symm
  · exact congrArg toHex

theorem toHex_of_ofHex (read : ofHex text = .ok color) :
    ∃ digits, LastSix text digits ∧ color.toHex = String.ofList ('#' :: digits.map Char.toLower) := by
  obtain ⟨digits, ending, spelled⟩ := lastSix_of_ofHex read
  exact ⟨digits, ending, toHex_of_spellsBytes spelled⟩

theorem eq_iff_sameLetter {first second : String} {left right : Color} (readFirst : ofHex first = .ok left)
    (readSecond : ofHex second = .ok right) :
    ∃ digits others, LastSix first digits ∧ LastSix second others ∧
      (left = right ↔ List.Forall₂ SameLetter digits others) := by
  obtain ⟨digits, ending, written⟩ := toHex_of_ofHex readFirst
  obtain ⟨others, otherEnding, otherWritten⟩ := toHex_of_ofHex readSecond
  refine ⟨digits, others, ending, otherEnding, ?_⟩
  rw [← toHex_inj, written, otherWritten, String.ofList_inj, List.cons_inj_right, map_toLower_eq_iff]

end Color

namespace Palette

/-- The colors of a palette are those of its texts, in their order. -/
theorem ofHexes_eq_ok_iff_map {hexes : List String} {palette : Palette} : ofHexes hexes = .ok palette ↔
    hexes.map Color.ofHex = [.ok palette.primary, .ok palette.secondary] := by
  rw [ofHexes_eq_ok_iff]
  constructor
  · intro holds
    obtain ⟨first, second, rfl, primary, secondary⟩ := holds
    rw [List.map_cons, List.map_singleton, primary, secondary]
  · intro read
    obtain ⟨first, rest, rfl, primary, later⟩ := List.map_eq_cons_iff.mp read
    obtain ⟨second, others, rfl, secondary, ended⟩ := List.map_eq_cons_iff.mp later
    cases List.map_eq_nil_iff.mp ended
    exact ⟨first, second, rfl, primary, secondary⟩

theorem exists_ofHexes_iff {hexes : List String} : (∃ palette, ofHexes hexes = .ok palette) ↔
    hexes.length = 2 ∧ ∀ hex ∈ hexes, ∃ color, Color.ofHex hex = .ok color := by
  constructor
  · intro reads
    obtain ⟨palette, read⟩ := reads
    obtain ⟨first, second, rfl, primary, secondary⟩ := ofHexes_eq_ok_iff.mp read
    simp only [List.forall_mem_cons]
    exact ⟨rfl, ⟨_, primary⟩, ⟨_, secondary⟩, List.forall_mem_nil _⟩
  · intro holds
    obtain ⟨two, colored⟩ := holds
    obtain ⟨first, second, rfl⟩ := List.length_eq_two.mp two
    simp only [List.forall_mem_cons] at colored
    obtain ⟨⟨left, primary⟩, ⟨right, secondary⟩, -⟩ := colored
    exact ⟨⟨left, right⟩, ofHexes_eq_ok_iff.mpr ⟨first, second, rfl, primary, secondary⟩⟩

end Palette

/-- Colors come back from their texts, and texts from their colors but for the case of the digits and for
what stands around them. -/
theorem hex_keepsColors :
    (∀ color : Color, Color.ofHex color.toHex = .ok color) ∧
    (∀ text color, Color.ofHex text = .ok color →
      ∃ digits, Text.LastSix text digits ∧ color.toHex = String.ofList ('#' :: digits.map Char.toLower)) ∧
    (∀ first second left right, Color.ofHex first = .ok left → Color.ofHex second = .ok right →
      ∃ digits others, Text.LastSix first digits ∧ Text.LastSix second others ∧
        (left = right ↔ List.Forall₂ Text.SameLetter digits others)) ∧
    (∀ hexes, (∃ palette, Palette.ofHexes hexes = .ok palette) ↔
      hexes.length = 2 ∧ ∀ hex ∈ hexes, ∃ color, Color.ofHex hex = .ok color) ∧
    (∀ hexes palette, Palette.ofHexes hexes = .ok palette ↔
      hexes.map Color.ofHex = [.ok palette.primary, .ok palette.secondary]) ∧
    ∀ palette : Palette, Palette.ofHexes palette.toHexes = .ok palette :=
  ⟨Color.ofHex_toHex, fun _ _ => Color.toHex_of_ofHex, fun _ _ _ _ => Color.eq_iff_sameLetter,
    fun _ => Palette.exists_ofHexes_iff, fun _ _ => Palette.ofHexes_eq_ok_iff_map, Palette.ofHexes_toHexes⟩

/-- Blanks, the number sign and the case of the digits make no other color. -/
theorem hex_keepsColors_respelled : ∃ color,
    Color.ofHex " #0A0b0C\n" = .ok color ∧ Color.ofHex "0a0B0c" = .ok color ∧
      ∃ digits others, Text.LastSix " #0A0b0C\n" digits ∧ Text.LastSix "0a0B0c" others ∧
        List.Forall₂ Text.SameLetter digits others := by
  have first : Color.ofHex " #0A0b0C\n" = .ok ⟨0x0a, 0x0b, 0x0c⟩ := by decide
  have second : Color.ofHex "0a0B0c" = .ok ⟨0x0a, 0x0b, 0x0c⟩ := by decide
  obtain ⟨digits, others, ending, otherEnding, same⟩ := hex_keepsColors.2.2.1 _ _ _ _ first second
  exact ⟨_, first, second, digits, others, ending, otherEnding, same.mp rfl⟩

end WalletCurrencies
