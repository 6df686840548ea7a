import WalletCurrencies.Json.Skip
import WalletCurrencies.Proofs.Punctuation

/-! The grammar of the numbers that are passed over. Passing over one takes as many characters as it can,
so a number is taken whole where something follows that no number goes on with. -/

namespace WalletCurrencies.Json

structure Digits (chars : List Char) : Prop where
  some : chars ≠ []
  all : ∀ c ∈ chars, (Text.digitValue? c).isSome = true

inductive WholePart : List Char → Prop where
  | zero : WholePart ['0']
  | digits {chars : List Char} (digits : Digits chars) (notZero : chars.head? ≠ some '0') : WholePart chars

inductive Fraction : List Char → Prop where
  | absent : Fraction []
  | point {chars : List Char} (digits : Digits chars) : Fraction ('.' :: chars)

inductive Exponent : List Char → Prop where
  | absent : Exponent []
  | marked {mark : Char} {sign chars : List Char} (isMark : mark = 'e' ∨ mark = 'E')
      (isSign : sign = [] ∨ sign = ['+'] ∨ sign = ['-']) (digits : Digits chars) : Exponent (mark :: (sign ++ chars))

inductive Unsigned : List Char → Prop where
  | parts {whole fraction exponent : List Char} (first : WholePart whole) (second : Fraction fraction)
      (third : Exponent exponent) : Unsigned (whole ++ (fraction ++ exponent))

theorem Exponent.not_digit {exponent rest : List Char} (spelled : Exponent exponent) (stops : Stops rest) :
    startsWithDigit (exponent ++ rest) = false := by
  cases spelled with
  | absent => exact stops.not_digit
  | marked isMark => obtain rfl | rfl := isMark <;> rfl

theorem Digits.exists_cons {chars : List Char} (digits : Digits chars) :
    ∃ c others, chars = c :: others ∧ (Text.digitValue? c).isSome = true := by
  obtain ⟨c, others, rfl⟩ := List.exists_cons_of_ne_nil digits.some
  exact ⟨c, others, rfl, digits.all c List.mem_cons_self⟩

theorem Digits.starts {chars : List Char} (digits : Digits chars) (rest : List Char) :
    startsWithDigit (chars ++ rest) = true := by
  obtain ⟨c, others, rfl, digit⟩ := digits.exists_cons
  exact digit

theorem Digits.drop {chars rest : List Char} (digits : Digits chars) (noDigit : startsWithDigit rest = false) :
    dropDigits (chars ++ rest) = rest := by
  rw [dropDigits, List.dropWhile_append_of_pos digits.all]
  cases rest with
  | nil => rfl
  | cons c others =>
    rw [List.dropWhile_cons_of_neg]
    exact Bool.eq_false_iff.mp noDigit

theorem exists_digits {text : List Char} (starts : startsWithDigit text = true) :
    ∃ chars, Digits chars ∧ text = chars ++ dropDigits text := by
  cases text with
  | nil => cases starts
  | cons c others =>
    refine ⟨(c :: others).takeWhile fun c => (Text.digitValue? c).isSome, ⟨?_, ?_⟩, ?_⟩
    · have digit : (Text.digitValue? c).isSome = true := starts
      simp [digit]
    · exact fun _ => List.mem_takeWhile_imp
    · exact List.takeWhile_append_dropWhile.symm

namespace Reader

variable {text rest : List Char}

private theorem exponent_of_skipExponent {mark : Char} (isMark : mark = 'e' ∨ mark = 'E')
    (read : skipExponent text = .ok ((), rest)) : ∃ chars, Exponent chars ∧ mark :: text = chars ++ rest := by
  -- Whatever the sign is, digits must follow it.
  have unsigned {sign others : List Char} (isSign : sign = [] ∨ sign = ['+'] ∨ sign = ['-'])
      (settled : (if startsWithDigit others then .ok ((), dropDigits others) else .error (.past .badNumber others) :
        Except Fault (Unit × List Char)) = .ok ((), rest)) :
      ∃ chars, Exponent chars ∧ mark :: (sign ++ others) = chars ++ rest := by
    split at settled
    next starts =>
      cases settled
      obtain ⟨chars, digits, same⟩ := exists_digits starts
      refine ⟨_, .marked isMark isSign digits, ?_⟩
      rw [List.cons_append, List.append_assoc, ← same]
    next => cases settled
  unfold skipExponent at read
  split at read
  next => exact unsigned (Or.inr (Or.inl rfl)) read
  next => exact unsigned (Or.inr (Or.inr rfl)) read
  next => exact unsigned (Or.inl rfl) read

private theorem skipExponent_append {sign chars : List Char} (isSign : sign = [] ∨ sign = ['+'] ∨ sign = ['-'])
    (digits : Digits chars) (noDigit : startsWithDigit rest = false) :
    skipExponent (sign ++ chars ++ rest) = .ok ((), rest) := by
  obtain rfl | rfl | rfl := isSign
  · obtain ⟨c, others, rfl, digit⟩ := digits.exists_cons
    have plus : c ≠ '+' := by
      rintro rfl
      cases digit
    have minus : c ≠ '-' := by
      rintro rfl
      cases digit
    have starts := digits.starts rest
    have taken := digits.drop noDigit
    simp only [List.nil_append, List.cons_append] at starts taken ⊢
    simp [skipExponent, plus, minus, starts, taken]
  · simp [skipExponent, digits.starts, digits.drop noDigit]
  · simp [skipExponent, digits.starts, digits.drop noDigit]

/-- What may stand after the digits of the whole part and the fraction. -/
private def skipScale : Reader Unit
  | 'e' :: rest => skipExponent rest
  | 'E' :: rest => skipExponent rest
  | rest => .ok ((), rest)

private theorem exponent_of_skipScale (read : skipScale text = .ok ((), rest)) :
    ∃ exponent, Exponent exponent ∧ text = exponent ++ rest := by
  unfold skipScale at read
  split at read
  next => exact exponent_of_skipExponent (Or.inl rfl) read
  next => exact exponent_of_skipExponent (Or.inr rfl) read
  next =>
    cases read
    exact ⟨[], .absent, rfl⟩

private theorem skipScale_append {exponent : List Char} (spelled : Exponent exponent) (stops : Stops rest) :
    skipScale (exponent ++ rest) = .ok ((), rest) := by
  cases spelled with
  | absent =>
    cases rest with
    | nil => rfl
    | cons c others =>
      obtain ⟨-, -, small, capital⟩ := stops c rfl
      simp [skipScale, small, capital]
  | marked isMark isSign digits =>
    have taken := skipExponent_append isSign digits stops.not_digit
    obtain rfl | rfl := isMark <;> exact taken

private theorem skipAfterWhole_point (text : List Char) :
    skipAfterWhole ('.' :: text) =
      if startsWithDigit text then skipScale (dropDigits text) else .error (.past .badNumber text) := rfl

private theorem skipAfterWhole_of_no_point (noPoint : ∀ others, text ≠ '.' :: others) :
    skipAfterWhole text = skipScale text := by
  cases text with
  | nil => rfl
  | cons c others =>
    have notPoint : c ≠ '.' := by
      rintro rfl
      exact noPoint _ rfl
    unfold skipAfterWhole skipScale
    split <;> simp_all

private theorem parts_of_skipAfterWhole (read : skipAfterWhole text = .ok ((), rest)) :
    ∃ fraction exponent, Fraction fraction ∧ Exponent exponent ∧ text = fraction ++ (exponent ++ rest) := by
  by_cases noPoint : ∀ others, text ≠ '.' :: others
  · rw [skipAfterWhole_of_no_point noPoint] at read
    obtain ⟨exponent, spelled, rfl⟩ := exponent_of_skipScale read
    exact ⟨[], exponent, .absent, spelled, rfl⟩
  · obtain ⟨others, rfl⟩ := not_forall_not.mp noPoint
    rw [skipAfterWhole_point] at read
    split at read
    next starts =>
      obtain ⟨chars, digits, same⟩ := exists_digits starts
      obtain ⟨exponent, spelled, left⟩ := exponent_of_skipScale read
      rw [same, left]
      exact ⟨'.' :: chars, exponent, .point digits, spelled, rfl⟩
    next => cases read

private theorem skipAfterWhole_append {fraction exponent : List Char} (first : Fraction fraction)
    (second : Exponent exponent) (stops : Stops rest) :
    skipAfterWhole (fraction ++ (exponent ++ rest)) = .ok ((), rest) := by
  have scale := skipScale_append second stops
  cases first with
  | absent =>
    rw [List.nil_append, skipAfterWhole_of_no_point, scale]
    -- An exponent begins with its mark, and what follows a number does not begin with a point.
    intro others same
    cases second with
    | absent => exact (stops '.' (by rw [← List.nil_append rest, same]; rfl)).2.1 rfl
    | marked isMark => obtain rfl | rfl := isMark <;> cases same
  | point digits =>
    rw [List.cons_append, skipAfterWhole_point, digits.drop (second.not_digit stops), scale,
      if_pos (digits.starts _)]

private theorem skipUnsigned_zero (text : List Char) :
    skipUnsigned ('0' :: text) =
      if startsWithDigit text then .error (.past .badNumber text) else skipAfterWhole text := rfl

private theorem skipUnsigned_of_not_zero (notZero : text.head? ≠ some '0') :
    skipUnsigned text =
      if startsWithDigit text then skipAfterWhole (dropDigits text) else .error (.past .badNumber text) := by
  unfold skipUnsigned
  split
  next => exact absurd rfl notZero
  next => rfl

theorem unsigned_of_skipUnsigned (read : skipUnsigned text = .ok ((), rest)) :
    ∃ chars, Unsigned chars ∧ text = chars ++ rest := by
  by_cases zero : text.head? = some '0'
  · obtain ⟨others, rfl⟩ := List.head?_eq_some_iff.mp zero
    rw [skipUnsigned_zero] at read
    split at read
    next => cases read
    next =>
      obtain ⟨fraction, exponent, second, third, rfl⟩ := parts_of_skipAfterWhole read
      exact ⟨_, .parts .zero second third, by simp⟩
  · rw [skipUnsigned_of_not_zero zero] at read
    split at read
    next starts =>
      obtain ⟨chars, digits, same⟩ := exists_digits starts
      obtain ⟨fraction, exponent, second, third, left⟩ := parts_of_skipAfterWhole read
      have notZero : chars.head? ≠ some '0' := by
        obtain ⟨c, others, rfl, -⟩ := digits.exists_cons
        rw [same] at zero
        exact zero
      rw [same, left]
      exact ⟨_, .parts (.digits digits notZero) second third, by simp⟩
    next => cases read

theorem skipUnsigned_append {chars : List Char} (spelled : Unsigned chars) (stops : Stops rest) :
    skipUnsigned (chars ++ rest) = .ok ((), rest) := by
  cases spelled with
  | @parts whole fraction exponent first second third =>
    have taken := skipAfterWhole_append second third stops
    have noDigit : startsWithDigit (fraction ++ (exponent ++ rest)) = false := by
      cases second with
      | point => rfl
      | absent => exact third.not_digit stops
    rw [List.append_assoc, List.append_assoc]
    cases first with
    | zero => rw [List.singleton_append, skipUnsigned_zero, noDigit, taken]; rfl
    | digits digits notZero =>
      rw [skipUnsigned_of_not_zero, if_pos (digits.starts _), digits.drop noDigit, taken]
      obtain ⟨c, others, rfl, -⟩ := digits.exists_cons
      exact notZero

end Reader

end WalletCurrencies.Json
