import WalletCurrencies.Proofs.PrintedNumber
import WalletCurrencies.Proofs.SkippedNumber
import WalletCurrencies.Proofs.SpelledText

/-! The grammar of the values that are passed over, and that passing over a value takes exactly such a
value. The reader keeps a list of open brackets where the grammar nests, so what is still to be read is
explained bracket by bracket. -/

namespace WalletCurrencies.Json

namespace Bracket

def opening : Bracket → Char
  | .list => '['
  | .object => '\x7b'

def closing : Bracket → Char
  | .list => ']'
  | .object => '\x7d'

end Bracket

/-- Values without brackets. -/
inductive Scalar : List Char → Prop where
  | null : Scalar ['n', 'u', 'l', 'l']
  | yes : Scalar ['t', 'r', 'u', 'e']
  | no : Scalar ['f', 'a', 'l', 's', 'e']
  | negative {chars : List Char} (spelled : Unsigned chars) : Scalar ('-' :: chars)
  | number {chars : List Char} (spelled : Unsigned chars) : Scalar chars
  | text {body : List Char} (passed : PassedText body) : Scalar ('"' :: (body ++ ['"']))

/-- What stands before a value inside a bracket, which is nothing in a list. -/
inductive Key : Bracket → List Char → Prop where
  | list : Key .list []
  | object {body blanks : List Char} (passed : PassedText body) (blank : Blanks blanks) :
      Key .object ('"' :: (body ++ '"' :: (blanks ++ [':'])))

/-- A whole value, what a bracket holds from a value on, and what comes after a value there. The last two
end with the closing bracket. -/
inductive Part where
  | value
  | contents (bracket : Bracket)
  | rest (bracket : Bracket)

inductive Skipped : Part → List Char → Prop where
  | scalar {chars : List Char} (scalar : Scalar chars) : Skipped .value chars
  | empty {bracket : Bracket} {blanks : List Char} (blank : Blanks blanks) :
      Skipped .value (bracket.opening :: (blanks ++ [bracket.closing]))
  | filled {bracket : Bracket} {chars : List Char} (contents : Skipped (.contents bracket) chars) :
      Skipped .value (bracket.opening :: chars)
  | entry {bracket : Bracket} {before key between value rest : List Char} (left : Blanks before)
      (named : Key bracket key) (right : Blanks between) (first : Skipped .value value)
      (later : Skipped (.rest bracket) rest) :
      Skipped (.contents bracket) (before ++ (key ++ (between ++ (value ++ rest))))
  | close {bracket : Bracket} {blanks : List Char} (blank : Blanks blanks) :
      Skipped (.rest bracket) (blanks ++ [bracket.closing])
  | comma {bracket : Bracket} {blanks chars : List Char} (blank : Blanks blanks)
      (contents : Skipped (.contents bracket) chars) : Skipped (.rest bracket) (blanks ++ ',' :: chars)

/-- Neither a blank nor a closing bracket. -/
def Begins (c : Char) : Prop := isBlank c = false ∧ c ≠ ']' ∧ c ≠ '\x7d'

instance (c : Char) : Decidable (Begins c) := inferInstanceAs (Decidable (_ ∧ _ ∧ _))

theorem begins_of_digit {c : Char} (digit : (Text.digitValue? c).isSome = true) : Begins c := by
  have starts : StartsNumber c := Or.inr digit
  exact ⟨starts.not_blank, starts.ne (by decide), starts.ne (by decide)⟩

theorem Unsigned.head {chars : List Char} (spelled : Unsigned chars) :
    ∃ c others, chars = c :: others ∧ (Text.digitValue? c).isSome = true := by
  cases spelled with
  | parts first =>
    cases first with
    | zero => exact ⟨'0', _, rfl, rfl⟩
    | digits digits _ =>
      obtain ⟨c, others, rfl, digit⟩ := digits.exists_cons
      exact ⟨c, _, rfl, digit⟩

theorem Bracket.begins_opening (bracket : Bracket) : Begins bracket.opening := by cases bracket <;> decide

theorem Scalar.head {chars : List Char} (scalar : Scalar chars) : ∃ c others, chars = c :: others ∧ Begins c := by
  cases scalar with
  | number spelled =>
    obtain ⟨c, others, rfl, digit⟩ := spelled.head
    exact ⟨c, others, rfl, begins_of_digit digit⟩
  | null | yes | no | negative | text => exact ⟨_, _, rfl, by decide⟩

theorem Skipped.head {chars : List Char} (skipped : Skipped .value chars) :
    ∃ c others, chars = c :: others ∧ Begins c := by
  cases skipped with
  | scalar scalar => exact scalar.head
  | empty => exact ⟨_, _, rfl, Bracket.begins_opening _⟩
  | filled => exact ⟨_, _, rfl, Bracket.begins_opening _⟩

theorem Skipped.ends {bracket : Bracket} {chars : List Char} (skipped : Skipped (.rest bracket) chars)
    (rest : List Char) : Ends (chars ++ rest) := by
  cases skipped with
  | close blank =>
    rw [List.append_assoc]
    exact ends_append blank (by cases bracket <;> exact ends_cons (by decide) _)
  | comma blank contents =>
    rw [List.append_assoc]
    exact ends_append blank (ends_cons (by decide) _)

/-- What one round of passing over takes from the text. -/
inductive Steps : Reader.Skipping → List Char → Reader.Skipping → List Char → Prop where
  | scalar {opened : List Bracket} {before chars rest : List Char} (blank : Blanks before) (scalar : Scalar chars) :
      Steps (.due opened) (before ++ (chars ++ rest)) (.ended opened) rest
  | empty {opened : List Bracket} {bracket : Bracket} {before between rest : List Char} (left : Blanks before)
      (right : Blanks between) :
      Steps (.due opened) (before ++ bracket.opening :: (between ++ bracket.closing :: rest)) (.ended opened) rest
  | opened {opened : List Bracket} {bracket : Bracket} {before between key rest : List Char} (left : Blanks before)
      (right : Blanks between) (named : Key bracket key) :
      Steps (.due opened) (before ++ bracket.opening :: (between ++ (key ++ rest))) (.due (bracket :: opened)) rest
  | closed {opened : List Bracket} {bracket : Bracket} {before rest : List Char} (blank : Blanks before) :
      Steps (.ended (bracket :: opened)) (before ++ bracket.closing :: rest) (.ended opened) rest
  | comma {opened : List Bracket} {bracket : Bracket} {before between key rest : List Char} (left : Blanks before)
      (right : Blanks between) (named : Key bracket key) :
      Steps (.ended (bracket :: opened)) (before ++ ',' :: (between ++ (key ++ rest))) (.due (bracket :: opened)) rest

theorem Steps.shorter {state next : Reader.Skipping} {text rest : List Char} (step : Steps state text next rest) :
    rest.length < text.length := by
  cases step with
  | scalar _ scalar =>
    obtain ⟨c, others, rfl, -⟩ := scalar.head
    simp only [List.length_append, List.length_cons]
    omega
  | empty | opened | closed | comma =>
    simp only [List.length_append, List.length_cons]
    omega

namespace Reader

variable {text rest middle : List Char} {opened : List Bracket} {bracket : Bracket} {state next : Skipping}

theorem closes_eq_true_iff {c : Char} : closes bracket c = true ↔ c = bracket.closing := by
  cases bracket <;> simp [closes, Bracket.closing]

theorem key_of_skipKey (read : skipKey bracket text = .ok ((), rest)) :
    ∃ before key, Blanks before ∧ Key bracket key ∧ text = before ++ (key ++ rest) := by
  cases bracket with
  | list =>
    cases read
    exact ⟨[], [], blanks_nil, .list, rfl⟩
  | object =>
    rw [skipKey] at read
    split at read
    next => cases read
    next found =>
      obtain ⟨before, left, rfl⟩ := exists_blanks_of_skipBlanks found
      obtain ⟨⟨⟨⟩, middle⟩, named, settled⟩ := bind_eq_ok_iff.mp read
      obtain ⟨body, passed, rfl⟩ := skipTextBody_eq_ok_iff.mp named
      obtain ⟨blanks, right, rfl⟩ := colon_eq_ok_iff.mp settled
      exact ⟨before, _, left, .object passed right, by simp⟩
    next => cases read

theorem steps_of_skipOpened {before : List Char} (blank : Blanks before)
    (read : skipOpened bracket opened text = .ok (.again next, rest)) :
    Steps (.due opened) (before ++ bracket.opening :: text) next rest := by
  unfold skipOpened at read
  split at read
  next => cases read
  next found =>
    obtain ⟨between, right, rfl⟩ := exists_blanks_of_skipBlanks found
    split at read
    next closer =>
      cases read
      rw [closes_eq_true_iff.mp closer]
      exact .empty blank right
    next =>
      obtain ⟨⟨⟨⟩, middle⟩, named, settled⟩ := bind_eq_ok_iff.mp read
      obtain ⟨others, key, blanks, spelled, same⟩ := key_of_skipKey named
      cases settled
      rw [same, ← List.append_assoc between]
      exact .opened blank (List.forall_mem_append.mpr ⟨right, blanks⟩) spelled

private theorem steps_of_scalar {before others : List Char} {scalar : Reader Unit} (blank : Blanks before)
    (read : (do let ((), rest) ← scalar text; return (.again (.ended opened), rest)) =
      (.ok (.again next, rest) : Except Fault (Round Skipping Unit × List Char)))
    (spelled : ∀ rest, scalar text = .ok ((), rest) → ∃ chars, Scalar chars ∧ others = chars ++ rest) :
    Steps (.due opened) (before ++ others) next rest := by
  obtain ⟨⟨⟨⟩, middle⟩, taken, settled⟩ := bind_eq_ok_iff.mp read
  obtain ⟨chars, scalar, rfl⟩ := spelled middle taken
  cases settled
  exact .scalar blank scalar

private theorem scalar_of_keyword {word : List Char} {c : Char} (scalar : Scalar (c :: word)) (rest : List Char)
    (read : keyword word () text = .ok ((), rest)) : ∃ chars, Scalar chars ∧ c :: text = chars ++ rest := by
  obtain ⟨-, rfl⟩ := keyword_eq_ok_iff.mp read
  exact ⟨c :: word, scalar, rfl⟩

private theorem scalar_of_text (rest : List Char) (read : skipTextBody text = .ok ((), rest)) :
    ∃ chars, Scalar chars ∧ '"' :: text = chars ++ rest := by
  obtain ⟨body, passed, rfl⟩ := skipTextBody_eq_ok_iff.mp read
  exact ⟨_, .text passed, by simp⟩

private theorem scalar_of_negative (rest : List Char) (read : skipUnsigned text = .ok ((), rest)) :
    ∃ chars, Scalar chars ∧ '-' :: text = chars ++ rest := by
  obtain ⟨chars, spelled, rfl⟩ := unsigned_of_skipUnsigned read
  exact ⟨_, .negative spelled, rfl⟩

private theorem scalar_of_unsigned (rest : List Char) (read : skipUnsigned text = .ok ((), rest)) :
    ∃ chars, Scalar chars ∧ text = chars ++ rest := by
  obtain ⟨chars, spelled, same⟩ := unsigned_of_skipUnsigned read
  exact ⟨chars, .number spelled, same⟩

theorem steps_of_skipDue (read : skipDue opened text = .ok (.again next, rest)) :
    Steps (.due opened) text next rest := by
  obtain ⟨before, blank, same⟩ := exists_blanks text
  rw [same]
  unfold skipDue at read
  dsimp only at read
  generalize skipBlanks text = others at read ⊢
  split at read
  next => cases read
  next => exact steps_of_scalar blank read (scalar_of_keyword .null)
  next => exact steps_of_scalar blank read (scalar_of_keyword .yes)
  next => exact steps_of_scalar blank read (scalar_of_keyword .no)
  next => exact steps_of_scalar blank read scalar_of_negative
  next => exact steps_of_scalar blank read scalar_of_text
  next => exact steps_of_skipOpened blank read
  next => exact steps_of_skipOpened blank read
  next =>
    split at read
    next => exact steps_of_scalar blank read scalar_of_unsigned
    next => cases read

theorem steps_of_skipEnded (read : skipEnded opened text = .ok (.again next, rest)) :
    Steps (.ended opened) text next rest := by
  cases opened with
  | nil => cases read
  | cons bracket opened =>
    rw [skipEnded] at read
    split at read
    next => cases read
    next found =>
      obtain ⟨before, left, rfl⟩ := exists_blanks_of_skipBlanks found
      split at read
      next closer =>
        cases read
        rw [closes_eq_true_iff.mp closer]
        exact .closed left
      next =>
        split at read
        next comma =>
          subst comma
          obtain ⟨⟨⟨⟩, middle⟩, named, settled⟩ := bind_eq_ok_iff.mp read
          obtain ⟨between, key, right, spelled, rfl⟩ := key_of_skipKey named
          cases settled
          exact .comma left right spelled
        next => cases read

theorem steps_of_skipRound (read : skipRound state text = .ok (.again next, rest)) : Steps state text next rest := by
  cases state with
  | due => exact steps_of_skipDue read
  | ended => exact steps_of_skipEnded read

theorem skipOpened_ne_done : skipOpened bracket opened text ≠ .ok (.done (), rest) := by
  intro read
  unfold skipOpened at read
  split at read
  next => cases read
  next =>
    split at read
    next => cases read
    next =>
      obtain ⟨_, _, settled⟩ := bind_eq_ok_iff.mp read
      cases settled

private theorem scalar_ne_done {scalar : Reader Unit} :
    (do let ((), rest) ← scalar text; return (.again (.ended opened), rest)) ≠
      (.ok (.done (), rest) : Except Fault (Round Skipping Unit × List Char)) := by
  intro read
  obtain ⟨_, _, settled⟩ := bind_eq_ok_iff.mp read
  cases settled

/-- A value that is due must be there. -/
theorem skipDue_ne_done : skipDue opened text ≠ .ok (.done (), rest) := by
  intro read
  unfold skipDue at read
  dsimp only at read
  split at read
  next => cases read
  iterate 5
    next => exact scalar_ne_done read
  iterate 2
    next => exact skipOpened_ne_done read
  next =>
    split at read
    next => exact scalar_ne_done read
    next => cases read

theorem skipRound_done_iff : skipRound state text = .ok (.done (), rest) ↔ state = .ended [] ∧ text = rest := by
  constructor
  · intro read
    cases state with
    | due => exact absurd read skipDue_ne_done
    | ended opened =>
      cases opened with
      | nil =>
        cases read
        exact ⟨rfl, rfl⟩
      | cons bracket opened =>
        rw [skipRound, skipEnded] at read
        split at read
        next => cases read
        next =>
          split at read
          next => cases read
          next =>
            split at read
            next =>
              obtain ⟨_, _, settled⟩ := bind_eq_ok_iff.mp read
              cases settled
            next => cases read
  · rintro ⟨rfl, rfl⟩
    rfl

/-- The text closes every open bracket, the innermost first, and the rest comes after. -/
def Unwinds : List Bracket → List Char → List Char → Prop
  | [], text, rest => text = rest
  | bracket :: opened, text, rest => ∃ tail after, Skipped (.rest bracket) tail ∧ text = tail ++ after ∧
      Unwinds opened after rest

/-- What has still to be read from a state on. -/
def Explains : Skipping → List Char → List Char → Prop
  | .due opened, text, rest => ∃ blanks value after, Blanks blanks ∧ Skipped .value value ∧
      text = blanks ++ (value ++ after) ∧ Unwinds opened after rest
  | .ended opened, text, rest => Unwinds opened text rest

theorem explains_of_steps (step : Steps state text next middle) (later : Explains next middle rest) :
    Explains state text rest := by
  cases step with
  | scalar blank scalar => exact ⟨_, _, _, blank, .scalar scalar, rfl, later⟩
  | @empty _ bracket _ _ _ left right => exact ⟨_, _, _, left, @Skipped.empty bracket _ right, by simp, later⟩
  | opened left right named =>
    obtain ⟨blanks, value, after, blank, first, rfl, tail, others, second, rfl, unwinds⟩ := later
    exact ⟨_, _, others, left, .filled (.entry right named blank first second), by simp, unwinds⟩
  | closed blank => exact ⟨_, _, .close blank, by simp, later⟩
  | comma left right named =>
    obtain ⟨blanks, value, after, blank, first, rfl, tail, others, second, rfl, unwinds⟩ := later
    exact ⟨_, others, .comma left (.entry right named blank first second), by simp, unwinds⟩

private theorem explains_of_runs {result : Unit} (runs : Runs skipRound state text result rest) :
    Explains state text rest := by
  induction runs with
  | done settled =>
    obtain ⟨rfl, same⟩ := skipRound_done_iff.mp settled
    exact same
  | again read _ ih => exact explains_of_steps (steps_of_skipRound read) ih

/-- Whatever is passed over is a value of the grammar. -/
theorem skipped_of_skipValue (read : skipValue text = .ok ((), rest)) :
    ∃ blanks value, Blanks blanks ∧ Skipped .value value ∧ text = blanks ++ (value ++ rest) := by
  obtain ⟨blanks, value, _, blank, skipped, same, rfl⟩ := explains_of_runs (runs_of_repeated read)
  exact ⟨blanks, value, blank, skipped, same⟩

theorem skipDue_append {before : List Char} (blank : Blanks before) (text : List Char) :
    skipDue opened (before ++ text) = skipDue opened text := by
  unfold skipDue
  rw [skipBlanks_append blank]

theorem skipDue_scalar {chars : List Char} (scalar : Scalar chars) (stops : Stops rest) :
    skipDue opened (chars ++ rest) = .ok (.again (.ended opened), rest) := by
  cases scalar with
  | null | yes | no => rfl
  | negative spelled =>
    have taken := skipUnsigned_append spelled stops
    simp only [List.cons_append, skipDue, skipBlanks_cons (show isBlank '-' = false from rfl), taken]
    rfl
  | number spelled =>
    have taken := skipUnsigned_append spelled stops
    obtain ⟨c, others, rfl, digit⟩ := spelled.head
    rw [List.cons_append] at taken ⊢
    unfold skipDue
    rw [skipBlanks_cons (begins_of_digit digit).1]
    dsimp only
    split
    next same => cases same
    iterate 7
      next same =>
        cases same
        cases digit
    next =>
      rw [if_pos (show startsWithDigit (c :: (others ++ rest)) = true from digit), taken]
      rfl
  | @text body passed =>
    have taken : skipTextBody (body ++ '"' :: rest) = .ok ((), rest) := skipTextBody_eq_ok_iff.mpr ⟨body, passed, rfl⟩
    have quote : isBlank '"' = false := rfl
    simp only [List.cons_append, List.append_assoc, List.nil_append, skipDue, skipBlanks_cons quote, taken]
    rfl

theorem skipDue_bracket (bracket : Bracket) (opened : List Bracket) (text : List Char) :
    skipDue opened (bracket.opening :: text) = skipOpened bracket opened text := by
  cases bracket <;> rfl

theorem skipOpened_empty {between : List Char} (blank : Blanks between) :
    skipOpened bracket opened (between ++ bracket.closing :: rest) = .ok (.again (.ended opened), rest) := by
  have notBlank : isBlank bracket.closing = false := by cases bracket <;> rfl
  rw [skipOpened, skipBlanks_between blank notBlank]
  exact if_pos (closes_eq_true_iff.mpr rfl)

theorem closes_of_begins {c : Char} (begins : Begins c) (bracket : Bracket) : closes bracket c = false := by
  rw [Bool.eq_false_iff, Ne, closes_eq_true_iff]
  cases bracket with
  | list => exact begins.2.1
  | object => exact begins.2.2

theorem skipOpened_of_begins {c : Char} (begins : Begins c) (found : skipBlanks text = c :: middle)
    (named : skipKey bracket (c :: middle) = .ok ((), rest)) :
    skipOpened bracket opened text = .ok (.again (.due (bracket :: opened)), rest) := by
  rw [skipOpened, found]
  simp only [closes_of_begins begins, named]
  rfl

/-- In a list the blanks are left to the value. -/
theorem skipKey_append {before key : List Char} (blank : Blanks before) (named : Key bracket key) (rest : List Char) :
    ∃ blanks, Blanks blanks ∧ skipKey bracket (before ++ (key ++ rest)) = .ok ((), blanks ++ rest) := by
  cases named with
  | list => exact ⟨before, blank, rfl⟩
  | @object body blanks passed right =>
    refine ⟨[], blanks_nil, ?_⟩
    have taken : skipTextBody (body ++ '"' :: (blanks ++ ':' :: rest)) = .ok ((), blanks ++ ':' :: rest) :=
      skipTextBody_eq_ok_iff.mpr ⟨body, passed, rfl⟩
    have colon : colon (blanks ++ ':' :: rest) = .ok ((), rest) := colon_eq_ok_iff.mpr ⟨blanks, right, rfl⟩
    rw [List.cons_append, skipKey, skipBlanks_between blank (by decide)]
    simp only [List.append_assoc, List.cons_append, List.nil_append, taken]
    exact colon

theorem skipOpened_entry {before key between value : List Char} (left : Blanks before) (named : Key bracket key)
    (right : Blanks between) (first : Skipped .value value) (rest : List Char) :
    ∃ blanks, Blanks blanks ∧ skipOpened bracket opened (before ++ (key ++ (between ++ (value ++ rest)))) =
      .ok (.again (.due (bracket :: opened)), blanks ++ (value ++ rest)) := by
  cases named with
  | list =>
    obtain ⟨c, others, rfl, begins⟩ := first.head
    refine ⟨[], blanks_nil, skipOpened_of_begins begins ?_ rfl⟩
    rw [skipBlanks_append left, List.nil_append, List.cons_append, skipBlanks_between right begins.1]
    rfl
  | object passed blank =>
    obtain ⟨blanks, spared, taken⟩ := skipKey_append blanks_nil (.object passed blank) (between ++ (value ++ rest))
    have quote : Begins '"' := by decide
    refine ⟨blanks ++ between, List.forall_mem_append.mpr ⟨spared, right⟩, ?_⟩
    rw [List.append_assoc]
    exact skipOpened_of_begins quote (skipBlanks_between left quote.1 _) taken

theorem skipEnded_closed {before : List Char} (blank : Blanks before) :
    skipEnded (bracket :: opened) (before ++ bracket.closing :: rest) = .ok (.again (.ended opened), rest) := by
  have notBlank : isBlank bracket.closing = false := by cases bracket <;> rfl
  rw [skipEnded, skipBlanks_between blank notBlank]
  exact if_pos (closes_eq_true_iff.mpr rfl)

theorem skipEnded_comma {before : List Char} (blank : Blanks before) (named : skipKey bracket text = .ok ((), rest)) :
    skipEnded (bracket :: opened) (before ++ ',' :: text) = .ok (.again (.due (bracket :: opened)), rest) := by
  have goesOn : closes bracket ',' = false := by cases bracket <;> rfl
  rw [skipEnded, skipBlanks_between blank (by decide)]
  simp only [goesOn, named]
  rfl

theorem Loops.skip {final : List Char} (read : skipRound state text = .ok (.again next, rest))
    (left : Loops skipRound next rest () final) : Loops skipRound state text () final :=
  .again read (steps_of_skipRound read).shorter left

/-- A part of a value is read to its end wherever it stands, and the reading goes on as it would from there. -/
def Taken : Part → List Char → Prop
  | .value, chars => ∀ {opened before rest final}, Blanks before → Stops rest →
      Loops skipRound (.ended opened) rest () final → Loops skipRound (.due opened) (before ++ (chars ++ rest)) () final
  | .contents bracket, chars => ∀ {opened before rest final}, Blanks before →
      Loops skipRound (.ended opened) rest () final →
      Loops skipRound (.due opened) (before ++ bracket.opening :: (chars ++ rest)) () final ∧
        Loops skipRound (.ended (bracket :: opened)) (before ++ ',' :: (chars ++ rest)) () final
  | .rest bracket, chars => ∀ {opened rest final}, Loops skipRound (.ended opened) rest () final →
      Loops skipRound (.ended (bracket :: opened)) (chars ++ rest) () final

theorem taken_of_skipped {part : Part} {chars : List Char} (skipped : Skipped part chars) : Taken part chars := by
  induction skipped with
  | scalar scalar =>
    intro opened before rest final blank stops left
    exact .skip ((skipDue_append blank _).trans (skipDue_scalar scalar stops)) left
  | @empty bracket blanks spared =>
    intro opened before rest final blank stops left
    refine .skip ((skipDue_append blank _).trans ?_) left
    rw [List.cons_append, skipDue_bracket, List.append_assoc]
    exact skipOpened_empty spared
  | filled contents ih =>
    intro opened before rest final blank stops left
    exact (ih blank left).1
  | @entry bracket inside key between value tail first named second skipped later value_ih later_ih =>
    intro opened before rest final blank left
    -- The value is followed by a comma or by the closing bracket.
    have due {blanks : List Char} (spared : Blanks blanks) :
        Loops skipRound (.due (bracket :: opened)) (blanks ++ (value ++ (tail ++ rest))) () final :=
      value_ih spared (later.ends rest).stops (later_ih left)
    simp only [List.append_assoc]
    constructor
    · obtain ⟨blanks, spared, opens⟩ := skipOpened_entry first named second skipped (tail ++ rest)
      exact .skip ((skipDue_append blank _).trans ((skipDue_bracket bracket opened _).trans opens)) (due spared)
    · obtain ⟨blanks, spared, taken⟩ := skipKey_append first named (between ++ (value ++ (tail ++ rest)))
      rw [← List.append_assoc blanks] at taken
      exact .skip (skipEnded_comma blank taken) (due (List.forall_mem_append.mpr ⟨spared, second⟩))
  | close blank =>
    intro opened rest final left
    rw [List.append_assoc]
    exact .skip (skipEnded_closed blank) left
  | comma blank contents ih =>
    intro opened rest final left
    rw [List.append_assoc]
    exact (ih blank left).2

/-- A value of the grammar is passed over to its end, where no number goes on after it. -/
theorem skipValue_append {blanks value : List Char} (blank : Blanks blanks) (skipped : Skipped .value value)
    (stops : Stops rest) : skipValue (blanks ++ (value ++ rest)) = .ok ((), rest) :=
  repeated_of_loops (taken_of_skipped skipped blank stops (.done rfl))

end Reader

end WalletCurrencies.Json
