import WalletCurrencies.Proofs.ColorHex

/-! Which texts are read as colors, and as which. The grammar has six hexadecimal digits with blanks
around them and at most one number sign in front; what is read has as many number signs as there are.
On every text without a second one the reader and the grammar agree. -/

namespace WalletCurrencies

open Proofs

namespace Color

open Text

/-- The text is the digits of the color after this many number signs, among blanks. -/
inductive Spelling (text : String) (signs : Nat) (color : Color) : Prop where
  | among {before digits after : List Char} (spelled : SpellsBytes digits color.components)
      (placed : text.toList = before ++ (List.replicate signs '#' ++ digits) ++ after)
      (left : ∀ c ∈ before, isBlank c = true) (right : ∀ c ∈ after, isBlank c = true)

variable {text : String} {signs : Nat} {color : Color}

/-- Without its blanks, the text is the number signs and the digits. -/
theorem Spelling.trim_eq (spelling : Spelling text signs color) :
    ∃ digits, SpellsBytes digits color.components ∧ trim text.toList = List.replicate signs '#' ++ digits := by
  obtain ⟨spelled, placed, left, right⟩ := spelling
  refine ⟨_, spelled, ?_⟩
  rw [placed]
  exact trim_signed signs spelled.plain left right

theorem Spelling.of_trim_eq {digits : List Char} (spelled : SpellsBytes digits color.components)
    (trimmed : trim text.toList = List.replicate signs '#' ++ digits) : Spelling text signs color := by
  obtain ⟨before, after, placed, left, right⟩ := (trim_eq_iff.mp trimmed).cut
  exact .among spelled placed left right

theorem ofHex_eq_ok_iff_hexPart : ofHex text = .ok color ↔ SpellsBytes (hexPart text) color.components := by
  rw [← ofHexDigits?_eq_some_iff, ofHex]
  cases ofHexDigits? (hexPart text) <;> simp

/-- The signs before the digits are passed over, however many there are. -/
theorem ofHex_eq_ok_iff : ofHex text = .ok color ↔ ∃ signs, Spelling text signs color := by
  rw [ofHex_eq_ok_iff_hexPart]
  constructor
  · intro spelled
    have marked : trim text.toList = (trim text.toList).takeWhile (· == '#') ++ hexPart text :=
      List.takeWhile_append_dropWhile.symm
    have equal : ∀ c ∈ (trim text.toList).takeWhile (· == '#'), c = '#' :=
      fun c member => beq_iff_eq.mp (List.mem_takeWhile_imp (p := (· == '#')) member)
    rw [List.eq_replicate_iff.mpr ⟨rfl, equal⟩] at marked
    exact ⟨_, .of_trim_eq spelled marked⟩
  · intro holds
    obtain ⟨signs, spelling⟩ := holds
    obtain ⟨digits, spelled, trimmed⟩ := spelling.trim_eq
    rw [hexPart_of_trim_eq spelled.plain trimmed]
    exact spelled

theorem ofHex_eq_error_iff {failure : Failure} :
    ofHex text = .error failure ↔ failure = .invalidHexColor text ∧ ¬ ∃ color, ofHex text = .ok color := by
  rw [ofHex]
  cases ofHexDigits? (hexPart text) <;> simp [eq_comm]

theorem Spelling.signs_eq_length (spelling : Spelling text signs color) :
    signs = (trim text.toList).length - (hexPart text).length := by
  obtain ⟨digits, spelled, trimmed⟩ := spelling.trim_eq
  rw [hexPart_of_trim_eq spelled.plain trimmed, trimmed, List.length_append, List.length_replicate,
    Nat.add_sub_cancel]

theorem length_of_hexBytes? {bytes : List UInt8} (six : (ByteOrder.bytes (String.ofList (hexPart text))).length = 6)
    (read : hexBytes? (hexPart text) = some bytes) : bytes.length = 3 := by
  rw [(hexBytes?_eq_some_iff.mp read).length_bytes] at six
  omega

theorem ofHex_eq_ok_iff_hexBytes? : ofHex text = .ok color ↔
    (ByteOrder.bytes (String.ofList (hexPart text))).length = 6 ∧ hexBytes? (hexPart text) = some color.components := by
  rw [hexBytes?_eq_some_iff, ofHex_eq_ok_iff_hexPart]
  exact ⟨fun spelled => ⟨spelled.length_bytes, spelled⟩, And.right⟩

/-- What the grammar of colors asks of the reader. Six bytes of digits are three bytes, which are taken
by their places. -/
structure FollowsGrammar (text : String) : Prop where
  accepted : ∀ color, ofHex text = .ok color ↔ ∃ signs ≤ 1, Spelling text signs color
  refused : ∀ failure, ofHex text = .error failure ↔
    failure = .invalidHexColor text ∧ ¬ ∃ color, ∃ signs ≤ 1, Spelling text signs color
  decoded : ∀ color, ofHex text = .ok color ↔
    (ByteOrder.bytes (String.ofList (hexPart text))).length = 6 ∧ hexBytes? (hexPart text) = some color.components
  inside : ∀ bytes, (ByteOrder.bytes (String.ofList (hexPart text))).length = 6 →
    hexBytes? (hexPart text) = some bytes → bytes.length = 3

/-- The digits of a color with more than one number sign before them. -/
def Overmarked (text : String) : Prop := ∃ signs color, 1 < signs ∧ Spelling text signs color

theorem Overmarked.not_followsGrammar (overmarked : Overmarked text) : ¬ FollowsGrammar text := by
  obtain ⟨signs, color, many, spelling⟩ := overmarked
  intro follows
  obtain ⟨few, bounded, again⟩ := (follows.accepted color).mp (ofHex_eq_ok_iff.mpr ⟨signs, spelling⟩)
  rw [again.signs_eq_length, ← spelling.signs_eq_length] at bounded
  omega

theorem followsGrammar_of_not_overmarked (clean : ¬ Overmarked text) : FollowsGrammar text := by
  have accepted (color : Color) : ofHex text = .ok color ↔ ∃ signs ≤ 1, Spelling text signs color := by
    rw [ofHex_eq_ok_iff]
    constructor
    · intro holds
      obtain ⟨signs, spelling⟩ := holds
      exact ⟨signs, Nat.le_of_not_lt fun many => clean ⟨signs, color, many, spelling⟩, spelling⟩
    · intro holds
      obtain ⟨signs, -, spelling⟩ := holds
      exact ⟨signs, spelling⟩
  refine ⟨accepted, ?_, fun _ => ofHex_eq_ok_iff_hexBytes?, fun _ => length_of_hexBytes?⟩
  intro failure
  rw [ofHex_eq_error_iff]
  simp only [accepted]

/-- A second number sign is all that the reader takes beyond the grammar. -/
theorem ofHex_reads_spellings (text : String) :
    (∀ color, ofHex text = .ok color ↔ ∃ signs, Spelling text signs color) ∧
      (FollowsGrammar text ↔ ¬ Overmarked text) :=
  ⟨fun _ => ofHex_eq_ok_iff, fun follows overmarked => overmarked.not_followsGrammar follows,
    followsGrammar_of_not_overmarked⟩

/-- Two number signs are taken for one. -/
theorem not_followsGrammar_doubleSign :
    ofHex "##f29500" = .ok ⟨0xf2, 0x95, 0x00⟩ ∧ ¬ FollowsGrammar "##f29500" := by
  have spelled : SpellsBytes (hexPart "##f29500") (⟨0xf2, 0x95, 0x00⟩ : Color).components :=
    ofHex_eq_ok_iff_hexPart.mp (by decide)
  have spelling : Spelling "##f29500" 2 ⟨0xf2, 0x95, 0x00⟩ := .of_trim_eq spelled (by decide)
  have overmarked : Overmarked "##f29500" := ⟨2, _, by omega, spelling⟩
  exact ⟨ofHex_eq_ok_iff.mpr ⟨2, spelling⟩, overmarked.not_followsGrammar⟩

end Color

end WalletCurrencies
