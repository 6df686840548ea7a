import Mathlib.Data.List.Forall2
import WalletCurrencies.Text.Ascii
import WalletCurrencies.Text.Case

/-! The case of the letters A to Z is lost in lower case, also beside a capital sigma: whether it
ends a word depends on the letters around it, but not on their case. -/

namespace WalletCurrencies.Text

/-- The code points of the letters A to Z. -/
def capitals : List Nat := List.range' 65 26

theorem toLower_of_not_mem_capitals {c : Char} (other : c.toNat ∉ capitals) : c.toLower = c := by
  unfold Char.toLower
  apply dif_neg
  intro between
  have greatest : c.toNat ≤ 90 := between.2
  exact other (List.mem_range'_1.mpr ⟨between.1, by omega⟩)

/-- What is blind to the case of the letters A to Z is not changed by `Char.toLower`. -/
theorem apply_toLower {α : Type} (f : Char → α)
    (blind : ∀ code ∈ capitals, f (Char.ofNat code).toLower = f (Char.ofNat code)) (c : Char) :
    f c.toLower = f c := by
  by_cases capital : c.toNat ∈ capitals
  · have letter := blind c.toNat capital
    rwa [Char.ofNat_toNat] at letter
  · rw [toLower_of_not_mem_capitals capital]

theorem lowerChar_toLower (c : Char) : lowerChar c.toLower = lowerChar c := apply_toLower lowerChar (by decide) c

theorem cased_toLower (c : Char) : within casedSpans c.toLower = within casedSpans c :=
  apply_toLower (within casedSpans) (by decide) c

private theorem caseIgnorableSpans_spare_letters : ∀ span ∈ caseIgnorableSpans,
    span.2 < 65 ∨ 90 < span.1 ∧ span.2 < 97 ∨ 122 < span.1 := by
  decide +kernel

private theorem capitals_lowered : ∀ code ∈ capitals, 65 ≤ (Char.ofNat code).toNat ∧
    (Char.ofNat code).toNat ≤ 90 ∧ (Char.ofNat code).toLower.toNat = (Char.ofNat code).toNat + 32 := by
  decide

theorem caseIgnorable_of_letter {c : Char}
    (letter : 65 ≤ c.toNat ∧ c.toNat ≤ 90 ∨ 97 ≤ c.toNat ∧ c.toNat ≤ 122) :
    within caseIgnorableSpans c = false := by
  apply List.any_eq_false.mpr
  intro span member
  have spared := caseIgnorableSpans_spare_letters span member
  rw [Bool.and_eq_true, decide_eq_true_iff, decide_eq_true_iff]
  omega

theorem caseIgnorable_toLower (c : Char) : within caseIgnorableSpans c.toLower = within caseIgnorableSpans c := by
  apply apply_toLower (within caseIgnorableSpans)
  intro code capital
  obtain ⟨least, greatest, lowered⟩ := capitals_lowered code capital
  rw [caseIgnorable_of_letter (Or.inr (by omega)), caseIgnorable_of_letter (Or.inl ⟨least, greatest⟩)]

theorem toLower_eq_sigma (c : Char) : (c.toLower = 'Σ') = (c = 'Σ') :=
  apply_toLower (· = 'Σ') (by decide) c

theorem meetsLetter_map_toLower (text : List Char) : meetsLetter (text.map Char.toLower) = meetsLetter text := by
  induction text with
  | nil => rfl
  | cons c rest ih =>
    simp only [meetsLetter, List.map_cons, List.dropWhile_cons, caseIgnorable_toLower]
    cases within caseIgnorableSpans c with
    | true => exact ih
    | false => exact cased_toLower c

theorem lowerAfter_map_toLower (before text : List Char) :
    lowerAfter (before.map Char.toLower) (text.map Char.toLower) = lowerAfter before text := by
  -- A sigma looks in both directions, so what has been read is respelled as well.
  induction text generalizing before with
  | nil => rfl
  | cons c rest ih =>
    have later := ih (c :: before)
    rw [List.map_cons] at later
    simp only [List.map_cons, lowerAfter, meetsLetter_map_toLower, lowerChar_toLower, toLower_eq_sigma, later]

theorem lowercase_eq_of_sameUpToAsciiCase {first second : String}
    (same : sameUpToAsciiCase first second = true) : lowercase first = lowercase second := by
  have spelled : first.toList.map Char.toLower = second.toList.map Char.toLower := beq_iff_eq.mp same
  unfold lowercase
  rw [← lowerAfter_map_toLower [] first.toList, spelled, List.map_nil, ← lowerAfter_map_toLower [] second.toList,
    List.map_nil]

/-- The same character, or a letter from A to Z in its two cases, which are 32 code points apart. -/
inductive SameLetter : Char → Char → Prop where
  | unchanged (c : Char) : SameLetter c c
  | lowered {c d : Char} (capital : c.toNat ∈ capitals) (small : d.toNat = c.toNat + 32) : SameLetter c d
  | raised {c d : Char} (capital : d.toNat ∈ capitals) (small : c.toNat = d.toNat + 32) : SameLetter c d

/-- The texts agree letter by letter, but for the case of the letters A to Z. -/
def SameLetters (first second : String) : Prop := List.Forall₂ SameLetter first.toList second.toList

theorem toNat_toLower_of_capital {c : Char} (capital : c.toNat ∈ capitals) : c.toLower.toNat = c.toNat + 32 := by
  have lowered := (capitals_lowered c.toNat capital).2.2
  rwa [Char.ofNat_toNat] at lowered

theorem toLower_of_small {c d : Char} (capital : c.toNat ∈ capitals) (small : d.toNat = c.toNat + 32) :
    c.toLower = d.toLower := by
  have least : 65 ≤ c.toNat := (List.mem_range'_1.mp capital).1
  have other : d.toNat ∉ capitals := by
    intro member
    have greatest : d.toNat < 65 + 26 := (List.mem_range'_1.mp member).2
    omega
  rw [toLower_of_not_mem_capitals other]
  exact Char.toNat_inj.mp ((toNat_toLower_of_capital capital).trans small.symm)

theorem toLower_eq_toLower_iff {c d : Char} : c.toLower = d.toLower ↔ SameLetter c d := by
  constructor
  · intro same
    have codes := congrArg Char.toNat same
    by_cases left : c.toNat ∈ capitals
    · rw [toNat_toLower_of_capital left] at codes
      by_cases right : d.toNat ∈ capitals
      · rw [toNat_toLower_of_capital right] at codes
        rw [Char.toNat_inj.mp (Nat.add_right_cancel codes)]
        exact .unchanged d
      · rw [toLower_of_not_mem_capitals right] at codes
        exact .lowered left codes.symm
    · rw [toLower_of_not_mem_capitals left] at codes
      by_cases right : d.toNat ∈ capitals
      · rw [toNat_toLower_of_capital right] at codes
        exact .raised right codes
      · rw [toLower_of_not_mem_capitals right] at codes
        rw [Char.toNat_inj.mp codes]
        exact .unchanged d
  · intro same
    cases same with
    | unchanged => rfl
    | lowered capital small => exact toLower_of_small capital small
    | raised capital small => exact (toLower_of_small capital small).symm

theorem map_toLower_eq_iff {first second : List Char} :
    first.map Char.toLower = second.map Char.toLower ↔ List.Forall₂ SameLetter first second := by
  rw [← List.forall₂_eq_eq_eq, List.forall₂_map_left_iff, List.forall₂_map_right_iff]
  simp only [toLower_eq_toLower_iff]

theorem sameUpToAsciiCase_iff {first second : String} :
    sameUpToAsciiCase first second = true ↔ SameLetters first second := by
  unfold sameUpToAsciiCase asciiLower SameLetters
  rw [beq_iff_eq, map_toLower_eq_iff]

theorem upperChar_toLower (c : Char) : upperChar c.toLower = upperChar c := apply_toLower upperChar (by decide) c

theorem uppercase_eq_of_sameLetters {first second : String} (same : SameLetters first second) :
    uppercase first = uppercase second := by
  have spelled := congrArg (List.flatMap upperChar) (map_toLower_eq_iff.mpr same)
  simp only [List.flatMap_map, upperChar_toLower] at spelled
  rw [uppercase, spelled, uppercase]

end WalletCurrencies.Text
