import WalletCurrencies.Color
import WalletCurrencies.Proofs.ByteOrder

/-! Hexadecimal digits, told by their place among the sixteen, and the bytes that pairs of them spell.
The readers of digits, of bytes and of colors accept exactly these. -/

namespace WalletCurrencies

open Proofs

namespace Text

/-- The sixteen digits in small letters and in capitals, each at its value. -/
def hexAlphabets : List (List Char) := ["0123456789abcdef".toList, "0123456789ABCDEF".toList]

def IsHexDigit (c : Char) (value : Nat) : Prop := ∃ alphabet ∈ hexAlphabets, alphabet[value]? = some c

variable {c : Char} {value : Nat}

theorem IsHexDigit.lt (digit : IsHexDigit c value) : value < 16 := by
  have sized : ∀ alphabet ∈ hexAlphabets, alphabet.length = 16 := by decide
  obtain ⟨alphabet, member, found⟩ := digit
  rw [← sized alphabet member]
  exact (List.getElem?_eq_some_iff.mp found).1

/-- Neither a blank nor a number sign is a digit, and a digit takes one byte. -/
theorem IsHexDigit.plain (digit : IsHexDigit c value) : isBlank c = false ∧ c ≠ '#' ∧ c.utf8Size = 1 := by
  have plain : ∀ alphabet ∈ hexAlphabets,
      (alphabet.all fun c => decide (isBlank c = false ∧ c ≠ '#' ∧ c.utf8Size = 1)) = true := by decide
  obtain ⟨alphabet, member, found⟩ := digit
  have each := List.all_eq_true.mp (plain alphabet member)
  exact of_decide_eq_true (each c (List.mem_of_getElem? found))

theorem isHexDigit_hexDigit {value : Nat} (small : value < 16) : IsHexDigit (hexDigit value) value := by
  have written : ∀ value < 16, "0123456789abcdef".toList[value]? = some (hexDigit value) := by decide
  exact ⟨_, List.mem_cons_self, written value small⟩

theorem hexValue?_of_isHexDigit (digit : IsHexDigit c value) : hexValue? c = some value := by
  have values : ∀ alphabet ∈ hexAlphabets, ∀ value < 16, alphabet[value]?.bind hexValue? = some value := by decide
  have bounded := digit.lt
  obtain ⟨alphabet, member, found⟩ := digit
  simpa only [found, Option.bind_some] using values alphabet member value bounded

/-- A character of a span stands as far from the first of the alphabet's part as of the span's. -/
private theorem getElem?_of_span {alphabet : List Char} (first offset count : Nat)
    (part : ∀ value < count, alphabet[value + offset]? = some (Char.ofNat (first + value)))
    (least : first ≤ c.toNat) (greatest : c.toNat < first + count) :
    alphabet[c.toNat - first + offset]? = some c := by
  rw [part (c.toNat - first) (by omega), Nat.add_sub_cancel' least, Char.ofNat_toNat]

theorem isHexDigit_of_hexValue? (read : hexValue? c = some value) : IsHexDigit c value := by
  unfold hexValue? at read
  split at read
  next bounds =>
    cases read
    have least : 48 ≤ c.toNat := bounds.1
    have greatest : c.toNat ≤ 57 := bounds.2
    exact ⟨_, List.mem_cons_self, getElem?_of_span 48 0 10 (by decide) least (by omega)⟩
  next =>
    split at read
    next bounds =>
      cases read
      have least : 97 ≤ c.toNat := bounds.1
      have greatest : c.toNat ≤ 102 := bounds.2
      exact ⟨_, List.mem_cons_self, getElem?_of_span 97 10 6 (by decide) least (by omega)⟩
    next =>
      split at read
      next bounds =>
        cases read
        have least : 65 ≤ c.toNat := bounds.1
        have greatest : c.toNat ≤ 70 := bounds.2
        exact ⟨_, List.mem_cons_of_mem _ List.mem_cons_self, getElem?_of_span 65 10 6 (by decide) least (by omega)⟩
      next => cases read

theorem hexValue?_eq_some_iff : hexValue? c = some value ↔ IsHexDigit c value :=
  ⟨isHexDigit_of_hexValue?, hexValue?_of_isHexDigit⟩

/-- Two digits are a byte, the digit of its higher half first. -/
def SpellsByte (high low : Char) (byte : UInt8) : Prop :=
  ∃ left right, IsHexDigit high left ∧ IsHexDigit low right ∧ byte.toNat = 16 * left + right

theorem spellsByte_halves (byte : UInt8) :
    SpellsByte (hexDigit (byte.toNat / 16)) (hexDigit (byte.toNat % 16)) byte := by
  have bounded : byte.toNat < 256 := byte.toNat_lt
  exact ⟨_, _, isHexDigit_hexDigit (by omega), isHexDigit_hexDigit (by omega), by omega⟩

/-- Digits in pairs, one pair for every byte. -/
inductive SpellsBytes : List Char → List UInt8 → Prop where
  | nil : SpellsBytes [] []
  | pair {high low : Char} {byte : UInt8} {rest : List Char} {bytes : List UInt8}
      (spelled : SpellsByte high low byte) (later : SpellsBytes rest bytes) :
      SpellsBytes (high :: low :: rest) (byte :: bytes)

theorem SpellsBytes.plain {digits : List Char} {bytes : List UInt8} (spelled : SpellsBytes digits bytes) :
    ∀ c ∈ digits, isBlank c = false ∧ c ≠ '#' := by
  induction spelled with
  | nil => exact nofun
  | pair spelled _ ih =>
    obtain ⟨_, _, first, second, -⟩ := spelled
    obtain ⟨firstInked, firstOther, -⟩ := first.plain
    obtain ⟨secondInked, secondOther, -⟩ := second.plain
    simp only [List.forall_mem_cons]
    exact ⟨⟨firstInked, firstOther⟩, ⟨secondInked, secondOther⟩, ih⟩

/-- A digit is ASCII, so that every byte takes two bytes of text. -/
theorem SpellsBytes.length_bytes {digits : List Char} {bytes : List UInt8} (spelled : SpellsBytes digits bytes) :
    (ByteOrder.bytes (String.ofList digits)).length = 2 * bytes.length := by
  rw [ByteOrder.bytes_eq, String.toList_ofList]
  induction spelled with
  | nil => rfl
  | pair spelled _ ih =>
    obtain ⟨_, _, first, second, -⟩ := spelled
    simp only [List.flatMap_cons, List.length_append, String.length_utf8EncodeChar, first.plain.2.2,
      second.plain.2.2, ih, List.length_cons]
    omega

end Text

namespace Color

open Text

theorem hexByte?_eq_some_iff {high low : Char} {byte : UInt8} :
    hexByte? high low = some byte ↔ SpellsByte high low byte := by
  have whole {left right : Nat} (first : left < 16) (second : right < 16) :
      (left * 16 + right).toUInt8.toNat = 16 * left + right := by
    rw [Nat.toUInt8, UInt8.toNat_ofNat']
    omega
  simp only [hexByte?, Option.bind_eq_bind, Option.bind_eq_some_iff, hexValue?_eq_some_iff, Option.pure_def,
    Option.some.injEq, SpellsByte, ← exists_and_left]
  constructor
  · intro holds
    obtain ⟨left, right, first, second, same⟩ := holds
    exact ⟨left, right, first, second, same ▸ whole first.lt second.lt⟩
  · intro holds
    obtain ⟨left, right, first, second, same⟩ := holds
    exact ⟨left, right, first, second, UInt8.toNat_inj.mp ((whole first.lt second.lt).trans same.symm)⟩

/-- The bytes of digits that are taken in pairs. A character that is no digit, or a digit that is left
over, spoils all of them. -/
def hexBytes? : List Char → Option (List UInt8)
  | [] => some []
  | [_] => none
  | high :: low :: rest => do
    let byte ← hexByte? high low
    let bytes ← hexBytes? rest
    return byte :: bytes

theorem hexBytes?_eq_some_iff {digits : List Char} {bytes : List UInt8} :
    hexBytes? digits = some bytes ↔ SpellsBytes digits bytes := by
  constructor
  · intro read
    induction digits using hexBytes?.induct generalizing bytes with
    | case1 =>
      cases read
      exact .nil
    | case2 => cases read
    | case3 high low rest ih =>
      simp only [hexBytes?, Option.bind_eq_bind, Option.bind_eq_some_iff, hexByte?_eq_some_iff] at read
      obtain ⟨byte, spelled, others, later, same⟩ := read
      cases same
      exact .pair spelled (ih later)
  · intro spelled
    induction spelled with
    | nil => rfl
    | pair spelled _ ih =>
      simp only [hexBytes?, hexByte?_eq_some_iff.mpr spelled, ih]
      rfl

def components (color : Color) : List UInt8 := [color.red, color.green, color.blue]

theorem ofHexDigits?_eq_some_iff {digits : List Char} {color : Color} :
    ofHexDigits? digits = some color ↔ SpellsBytes digits color.components := by
  constructor
  · intro read
    unfold ofHexDigits? at read
    split at read
    next a b c d e f =>
      simp only [Option.bind_eq_bind, Option.bind_eq_some_iff, hexByte?_eq_some_iff] at read
      obtain ⟨red, first, green, second, blue, third, same⟩ := read
      cases same
      exact .pair first (.pair second (.pair third .nil))
    next => cases read
  · intro spelled
    obtain _ | ⟨red, _ | ⟨green, _ | ⟨blue, _ | _⟩⟩⟩ := spelled
    simp only [ofHexDigits?, hexByte?_eq_some_iff.mpr red, hexByte?_eq_some_iff.mpr green,
      hexByte?_eq_some_iff.mpr blue]
    rfl

end Color

end WalletCurrencies
