import WalletCurrencies.Json.Printer
import WalletCurrencies.Proofs.Punctuation

/-! A printed whole number is read back as it was, as long as it fits a signed or an unsigned word
of 64 bits and no character follows that would continue it. -/

namespace WalletCurrencies

theorem Text.digitValue?_digitChar {digit : Nat} (small : digit < 10) :
    digitValue? digit.digitChar = some digit := by
  decide +revert

namespace Json

/-- What fits an unsigned word, and downward a signed one. -/
def Exact (value : Int) : Prop := -(Nat.pow 2 63 : Int) ≤ value ∧ value < Nat.pow 2 64

theorem exact_byte (byte : UInt8) : Exact byte.toNat := by
  have small : byte.toNat < 256 := byte.toNat_lt
  have word : Nat.pow 2 64 = 18446744073709551616 := rfl
  constructor <;> omega

theorem wholeDigits_cons {value digit : Nat} (small : digit < 10) (fits : value * 10 + digit < Nat.pow 2 64)
    (rest : List Char) : wholeDigits value (digit.digitChar :: rest) = wholeDigits (value * 10 + digit) rest := by
  have room : fitsWord (value * 10 + digit) = true := decide_eq_true fits
  rw [wholeDigits, Text.digitValue?_digitChar small]
  simp only [room, if_true]

theorem wholeDigits_toDigits {value : Nat} (fits : value < Nat.pow 2 64) (rest : List Char) :
    wholeDigits 0 (Nat.toDigits 10 value ++ rest) = wholeDigits value rest := by
  -- For the digits before the last one, the last one belongs to the rest.
  induction value using Nat.strongRecOn generalizing rest with
  | ind value ih =>
    by_cases single : value < 10
    · rw [Nat.toDigits_of_lt_base single, List.singleton_append, wholeDigits_cons single (by omega),
        Nat.zero_mul, Nat.zero_add]
    · have last : value % 10 < 10 := Nat.mod_lt value (by omega)
      have whole : value / 10 * 10 + value % 10 = value := by omega
      rw [Nat.toDigits_of_base_le (by omega) (by omega), List.append_assoc, List.singleton_append,
        ih (value / 10) (by omega) (by omega), wholeDigits_cons last (by omega), whole]

theorem wholeDigits_stops {rest : List Char} (stops : Stops rest) (value : Nat) :
    wholeDigits value rest = (value, 0, rest) := by
  cases rest with
  | nil => rfl
  | cons c rest =>
    have noDigit : Text.digitValue? c = none := by simpa [startsWithDigit] using stops.not_digit
    rw [wholeDigits, noDigit]

/-- Zero is the only number printed with a zero in front. -/
theorem toDigits_eq_cons {value : Nat} (positive : 0 < value) :
    ∃ digit digits, digit < 10 ∧ digit ≠ 0 ∧ Nat.toDigits 10 value = digit.digitChar :: digits := by
  induction value using Nat.strongRecOn with
  | ind value ih =>
    by_cases single : value < 10
    · exact ⟨value, [], single, by omega, Nat.toDigits_of_lt_base single⟩
    · obtain ⟨digit, digits, small, nonzero, printed⟩ := ih (value / 10) (by omega) (by omega)
      refine ⟨digit, digits ++ [(value % 10).digitChar], small, nonzero, ?_⟩
      rw [Nat.toDigits_of_base_le (by omega) (by omega), printed, List.cons_append]

theorem toDigits_digit (value : Nat) :
    ∃ c chars, Nat.toDigits 10 value = c :: chars ∧ (Text.digitValue? c).isSome = true := by
  cases Nat.eq_zero_or_pos value with
  | inl zero =>
    subst zero
    exact ⟨'0', [], Nat.toDigits_zero 10, rfl⟩
  | inr positive =>
    obtain ⟨digit, digits, small, -, printed⟩ := toDigits_eq_cons positive
    exact ⟨digit.digitChar, digits, printed, by rw [Text.digitValue?_digitChar small]; rfl⟩

theorem Number.print_ofNat (digits : Nat) : (Number.whole (.ofNat digits)).print = Nat.toDigits 10 digits := by
  simp [Number.print, Decimal.whole]

theorem Number.print_negSucc (less : Nat) :
    (Number.whole (.negSucc less)).print = '-' :: Nat.toDigits 10 (less + 1) := by
  simp [Number.print, Decimal.whole]

/-- What the reader of values takes for the beginning of a number. -/
def StartsNumber (c : Char) : Prop := c = '-' ∨ (Text.digitValue? c).isSome = true

instance (c : Char) : Decidable (StartsNumber c) := inferInstanceAs (Decidable (_ ∨ _))

theorem StartsNumber.ne {c other : Char} (starts : StartsNumber c) (otherwise : ¬StartsNumber other) :
    c ≠ other := by
  intro same
  subst same
  exact otherwise starts

theorem StartsNumber.not_blank {c : Char} (starts : StartsNumber c) : isBlank c = false := by
  have space : c ≠ ' ' := starts.ne (by decide)
  have lineFeed : c ≠ '\n' := starts.ne (by decide)
  have tab : c ≠ '\t' := starts.ne (by decide)
  have carriageReturn : c ≠ '\r' := starts.ne (by decide)
  simp [isBlank, space, lineFeed, tab, carriageReturn]

theorem Number.print_starts (value : Int) :
    ∃ c chars, (Number.whole value).print = c :: chars ∧ StartsNumber c := by
  cases value with
  | ofNat digits =>
    obtain ⟨c, chars, spelled, isDigit⟩ := toDigits_digit digits
    exact ⟨c, chars, (print_ofNat digits).trans spelled, .inr isDigit⟩
  | negSucc less => exact ⟨'-', Nat.toDigits 10 (less + 1), print_negSucc less, .inl rfl⟩

namespace Reader

theorem afterWholeDigits_stops {rest : List Char} (stops : Stops rest) (negative : Bool) (digits : Nat) :
    afterWholeDigits negative digits 0 rest = .ok (Number.ofDigits negative digits, rest) := by
  cases rest with
  | nil => rfl
  | cons c rest =>
    obtain ⟨-, point, small, capital⟩ := stops c rfl
    simp [afterWholeDigits, point, small, capital]

theorem unsignedNumber_of_digit {c : Char} {rest : List Char} (notZero : c ≠ '0')
    (digit : startsWithDigit (c :: rest) = true) (negative : Bool) :
    unsignedNumber negative (c :: rest) = afterWholeDigits negative (wholeDigits 0 (c :: rest)).1
      (wholeDigits 0 (c :: rest)).2.1 (wholeDigits 0 (c :: rest)).2.2 := by
  unfold unsignedNumber
  split
  next impossible => cases impossible
  next same =>
    cases same
    exact absurd rfl notZero
  next => rw [if_pos digit]

theorem unsignedNumber_toDigits {value : Nat} (fits : value < Nat.pow 2 64) (negative : Bool) {rest : List Char}
    (stops : Stops rest) :
    unsignedNumber negative (Nat.toDigits 10 value ++ rest) = .ok (Number.ofDigits negative value, rest) := by
  cases Nat.eq_zero_or_pos value with
  | inl zero =>
    subst zero
    rw [Nat.toDigits_zero, List.singleton_append, unsignedNumber, stops.not_digit]
    exact afterWholeDigits_stops stops negative 0
  | inr positive =>
    have read := wholeDigits_toDigits fits rest
    rw [wholeDigits_stops stops] at read
    obtain ⟨digit, digits, small, nonzero, printed⟩ := toDigits_eq_cons positive
    have notZero : digit.digitChar ≠ '0' := mt Nat.digitChar_eq_zero.mp nonzero
    have first : startsWithDigit (Nat.toDigits 10 value ++ rest) = true := by
      rw [printed, List.cons_append, startsWithDigit, Text.digitValue?_digitChar small]
      rfl
    rw [printed, List.cons_append] at read first ⊢
    rw [unsignedNumber_of_digit notZero first, read]
    exact afterWholeDigits_stops stops negative value

theorem number_of_not_sign {c : Char} (notSign : c ≠ '-') (rest : List Char) :
    number (c :: rest) = unsignedNumber false (c :: rest) := by
  unfold number
  split
  next same =>
    cases same
    exact absurd rfl notSign
  next => rfl

theorem number_whole {value : Int} (exact : Exact value) {rest : List Char} (stops : Stops rest) :
    number ((Number.whole value).print ++ rest) = .ok (.whole value, rest) := by
  obtain ⟨above, below⟩ := exact
  cases value with
  | ofNat digits =>
    have read := unsignedNumber_toDigits (Int.ofNat_lt.mp below) false stops
    obtain ⟨c, chars, spelled, isDigit⟩ := toDigits_digit digits
    have notSign : c ≠ '-' := by
      intro same
      subst same
      cases isDigit
    rw [spelled] at read
    rw [Number.print_ofNat, spelled]
    exact (number_of_not_sign notSign _).trans read
  | negSucc less =>
    have least : Nat.pow 2 63 = 9223372036854775808 := rfl
    have word : Nat.pow 2 64 = 18446744073709551616 := rfl
    have small : less + 1 < Nat.pow 2 64 := by omega
    have inside : ¬(less + 1 = 0 ∨ Nat.pow 2 63 < less + 1) := by omega
    have negative : Number.ofDigits true (less + 1) = .whole (.negSucc less) := by
      unfold Number.ofDigits
      rw [Bool.not_true, if_neg Bool.false_ne_true, if_neg inside]
      rfl
    have read := unsignedNumber_toDigits small true stops
    rw [negative] at read
    rw [Number.print_negSucc]
    exact read

end Reader

end Json

end WalletCurrencies
