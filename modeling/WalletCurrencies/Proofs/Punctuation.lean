import Mathlib.Data.List.TakeWhile
import WalletCurrencies.Json.Number
import WalletCurrencies.Proofs.Rounds

/-! The marks between the values of a text: blanks, colons, and what leads to the next member of an
object. A reader accepts them exactly where they stand, with blanks before each. -/

namespace WalletCurrencies.Json

/-- Nothing but blanks. -/
def Blanks (text : List Char) : Prop := ∀ c ∈ text, isBlank c = true

theorem blanks_nil : Blanks [] := List.forall_mem_nil _

/-- The value before has come to its end: it would not go on with any of these characters. -/
def Ends (rest : List Char) : Prop :=
  ∀ c ∈ rest.head?, isBlank c = true ∨ c = ',' ∨ c = ']' ∨ c = '\x7d'

theorem ends_nil : Ends [] := by
  intro c impossible
  cases impossible

theorem ends_cons {c : Char} (ending : isBlank c = true ∨ c = ',' ∨ c = ']' ∨ c = '\x7d') (rest : List Char) :
    Ends (c :: rest) := by
  intro other first
  cases first
  exact ending

/-- Blanks may stand before the mark that ends a value. -/
theorem ends_append {blanks rest : List Char} (blank : Blanks blanks) (ends : Ends rest) :
    Ends (blanks ++ rest) := by
  cases blanks with
  | nil => exact ends
  | cons c others => exact ends_cons (Or.inl (blank c List.mem_cons_self)) _

/-- A number that comes before ends here: neither digits nor a point nor an exponent follow. -/
def Stops (rest : List Char) : Prop :=
  ∀ c ∈ rest.head?, (Text.digitValue? c).isSome = false ∧ c ≠ '.' ∧ c ≠ 'e' ∧ c ≠ 'E'

theorem Ends.stops {rest : List Char} (ends : Ends rest) : Stops rest := by
  intro c first
  obtain blank | rfl | rfl | rfl := ends c first
  · simp only [isBlank, Bool.or_eq_true, beq_iff_eq] at blank
    obtain ((rfl | rfl) | rfl) | rfl := blank <;> decide
  all_goals decide

theorem Stops.not_digit {rest : List Char} (stops : Stops rest) : startsWithDigit rest = false := by
  cases rest with
  | nil => rfl
  | cons c _ => exact (stops c rfl).1

/-- What stands before the next element or member, which is a comma for all but the first. -/
inductive Leads : Bool → List Char → Prop where
  | first {before : List Char} (blank : Blanks before) : Leads true before
  | later {before after : List Char} (left : Blanks before) (right : Blanks after) :
      Leads false (before ++ ',' :: after)

namespace Reader

variable {α : Type} {text rest blanks : List Char} {c : Char}

theorem skipBlanks_cons (notBlank : isBlank c = false) (rest : List Char) :
    skipBlanks (c :: rest) = c :: rest := by
  rw [skipBlanks, List.dropWhile_cons_of_neg]
  rw [notBlank]
  exact Bool.false_ne_true

theorem skipBlanks_append (blank : Blanks blanks) (rest : List Char) :
    skipBlanks (blanks ++ rest) = skipBlanks rest :=
  List.dropWhile_append_of_pos blank

theorem skipBlanks_eq_nil_iff : skipBlanks text = [] ↔ Blanks text := List.dropWhile_eq_nil_iff

theorem skipBlanks_between (blank : Blanks blanks) (notBlank : isBlank c = false) (rest : List Char) :
    skipBlanks (blanks ++ c :: rest) = c :: rest := by
  rw [skipBlanks_append blank, skipBlanks_cons notBlank]

theorem exists_blanks (text : List Char) : ∃ blanks, Blanks blanks ∧ text = blanks ++ skipBlanks text :=
  ⟨text.takeWhile isBlank, fun _ => List.mem_takeWhile_imp, List.takeWhile_append_dropWhile.symm⟩

theorem exists_blanks_of_skipBlanks (skipped : skipBlanks text = rest) :
    ∃ blanks, Blanks blanks ∧ text = blanks ++ rest :=
  skipped ▸ exists_blanks text

theorem keyword_eq_ok_iff {word : List Char} {value result : α} :
    keyword word value text = .ok (result, rest) ↔ result = value ∧ text = word ++ rest := by
  induction word generalizing text with
  | nil => simp [keyword, eq_comm]
  | cons expected word ih =>
    cases text with
    | nil => simp [keyword]
    | cons c others =>
      unfold keyword
      split
      next same => simp [ih, same]
      next differs => simp [differs]

theorem colon_eq_ok_iff :
    colon text = .ok ((), rest) ↔ ∃ blanks, Blanks blanks ∧ text = blanks ++ ':' :: rest := by
  constructor
  · intro read
    unfold colon at read
    split at read
    next => cases read
    next found =>
      cases read
      exact exists_blanks_of_skipBlanks found
    next => cases read
  · intro holds
    obtain ⟨blanks, blank, rfl⟩ := holds
    unfold colon
    rw [skipBlanks_between blank (by decide)]
    rfl

theorem nextMember_eq_true_iff {first : Bool} :
    nextMember first text = .ok (true, rest) ↔ ∃ lead, Leads first lead ∧ text = lead ++ '"' :: rest := by
  constructor
  · intro read
    unfold nextMember at read
    split at read
    next => cases read
    next => cases read
    next c after other found =>
      split at read
      next isFirst =>
        split at read
        next quote =>
          cases read
          subst quote isFirst
          obtain ⟨blanks, blank, rfl⟩ := exists_blanks_of_skipBlanks found
          exact ⟨blanks, .first blank, rfl⟩
        next => cases read
      next notFirst =>
        split at read
        next comma =>
          subst comma
          rw [Bool.not_eq_true] at notFirst
          subst notFirst
          obtain ⟨before, left, rfl⟩ := exists_blanks_of_skipBlanks found
          split at read
          next => cases read
          next quote =>
            cases read
            obtain ⟨blanks, right, rfl⟩ := exists_blanks_of_skipBlanks quote
            exact ⟨before ++ ',' :: blanks, .later left right, by simp⟩
          next => cases read
          next => cases read
        next => cases read
  · intro holds
    obtain ⟨lead, leads, rfl⟩ := holds
    unfold nextMember
    cases leads with
    | first blank => simp [skipBlanks_between blank (show isBlank '"' = false from rfl)]
    | later left right =>
      rw [List.append_assoc, List.cons_append, skipBlanks_between left (by decide)]
      simp [skipBlanks_between right (show isBlank '"' = false from rfl)]

theorem nextMember_eq_false_iff {first : Bool} :
    nextMember first text = .ok (false, rest) ↔ ∃ blanks, Blanks blanks ∧ text = blanks ++ '\x7d' :: rest := by
  constructor
  · intro read
    unfold nextMember at read
    split at read
    next => cases read
    next found =>
      cases read
      exact exists_blanks_of_skipBlanks found
    next =>
      repeat' split at read
      all_goals cases read
  · intro holds
    obtain ⟨blanks, blank, rfl⟩ := holds
    unfold nextMember
    rw [skipBlanks_between blank (by decide)]
    rfl

end Reader

end WalletCurrencies.Json
