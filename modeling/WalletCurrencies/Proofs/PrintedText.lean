import WalletCurrencies.Json.Printer
import WalletCurrencies.Proofs.SpelledText

/-! A printed text is read back as it was: the escaped form of every character is one of its spellings. -/

namespace WalletCurrencies.Json

/-- Control characters without an escape of their own are the only ones that are escaped by their number. -/
theorem spellsUnit_control {unit : Nat} (control : unit < 0x20) :
    SpellsUnit ['0', '0', Text.hexDigit (unit / 16), Text.hexDigit (unit % 16)] unit := by
  have zero : Text.IsHexDigit '0' 0 := Text.isHexDigit_hexDigit (by decide)
  have spelled := SpellsUnit.digits zero zero (Text.isHexDigit_hexDigit (show unit / 16 < 16 by omega))
    (Text.isHexDigit_hexDigit (show unit % 16 < 16 by omega))
  have whole : 0 * 4096 + 0 * 256 + unit / 16 * 16 + unit % 16 = unit := by omega
  rwa [whole] at spelled

theorem spellsChar_escaped (c : Char) : SpellsChar (escapedChar c) c := by
  unfold escapedChar
  -- Seven characters have an escape of their own.
  iterate 7
    split
    next same =>
      subst same
      exact .short rfl
  split
  next control =>
    have notTrailing : Reader.isTrailingSurrogate c.toNat = false := by
      simp only [Reader.isTrailingSurrogate, Bool.and_eq_false_iff, decide_eq_false_iff_not]
      omega
    have notLeading : Reader.isLeadingSurrogate c.toNat = false := by
      simp only [Reader.isLeadingSurrogate, Bool.and_eq_false_iff, decide_eq_false_iff_not]
      omega
    have spelled := SpellsChar.unit (spellsUnit_control control) notTrailing notLeading
    rwa [Char.ofNat_toNat] at spelled
  next plain => exact .unescaped ⟨by assumption, by assumption, plain⟩

theorem spellsText_escaped (text : String) : SpellsText (text.toList.flatMap escapedChar) text := by
  unfold SpellsText
  induction text.toList with
  | nil => exact .nil
  | cons c rest ih =>
    rw [List.flatMap_cons]
    exact .cons (spellsChar_escaped c) ih

/-- The opening quote has been read already. -/
theorem Reader.textBody_escaped (text : String) (rest : List Char) :
    textBody (text.toList.flatMap escapedChar ++ '"' :: rest) = .ok (text, rest) :=
  textBody_eq_ok_iff.mpr ⟨_, spellsText_escaped text, rfl⟩

end WalletCurrencies.Json
