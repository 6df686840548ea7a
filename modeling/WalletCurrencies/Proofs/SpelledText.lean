import WalletCurrencies.Json.Skip
import WalletCurrencies.Proofs.HexDigits
import WalletCurrencies.Proofs.Rounds

/-! How texts are spelled inside a document, after the opening quote and before the closing one. What is
read as a text is spelled character by character, where one beyond the first plane takes two escaped
surrogates. What is passed over need not spell a text: there surrogates may stand alone. -/

namespace WalletCurrencies.Json

/-- Four digits and the number they stand for. -/
inductive SpellsUnit : List Char → Nat → Prop where
  | digits {a b c d : Char} {i j k l : Nat} (first : Text.IsHexDigit a i) (second : Text.IsHexDigit b j)
      (third : Text.IsHexDigit c k) (fourth : Text.IsHexDigit d l) :
      SpellsUnit [a, b, c, d] (i * 4096 + j * 256 + k * 16 + l)

/-- Characters that stand for themselves. -/
structure Unescaped (c : Char) : Prop where
  notQuote : c ≠ '"'
  notBackslash : c ≠ '\\'
  notControl : ¬ c.toNat < 0x20

/-- The character beyond the first plane that two surrogates stand for. -/
@[irreducible]
def joined (leading trailing : Nat) : Char :=
  Char.ofNat (0x10000 + (leading - 0xD800) * 0x400 + (trailing - 0xDC00))

inductive SpellsChar : List Char → Char → Prop where
  | unescaped {c : Char} (plain : Unescaped c) : SpellsChar [c] c
  | short {mark c : Char} (known : Reader.shortEscape? mark = some c) : SpellsChar ['\\', mark] c
  | unit {digits : List Char} {unit : Nat} (spelled : SpellsUnit digits unit)
      (notTrailing : Reader.isTrailingSurrogate unit = false) (notLeading : Reader.isLeadingSurrogate unit = false) :
      SpellsChar ('\\' :: 'u' :: digits) (Char.ofNat unit)
  | pair {digits others : List Char} {leading trailing : Nat} (first : SpellsUnit digits leading)
      (second : SpellsUnit others trailing) (isLeading : Reader.isLeadingSurrogate leading = true)
      (isTrailing : Reader.isTrailingSurrogate trailing = true) :
      SpellsChar ('\\' :: 'u' :: (digits ++ '\\' :: 'u' :: others)) (joined leading trailing)

inductive SpellsChars : List Char → List Char → Prop where
  | nil : SpellsChars [] []
  | cons {spelling rest text : List Char} {c : Char} (first : SpellsChar spelling c)
      (later : SpellsChars rest text) : SpellsChars (spelling ++ rest) (c :: text)

def SpellsText (body : List Char) (text : String) : Prop := SpellsChars body text.toList

/-- The parts of what is passed over between quotes. -/
inductive Passed : List Char → Prop where
  | unescaped {c : Char} (plain : Unescaped c) : Passed [c]
  | short {mark : Char} (known : (Reader.shortEscape? mark).isSome = true) : Passed ['\\', mark]
  | unit {digits : List Char} {unit : Nat} (spelled : SpellsUnit digits unit) : Passed ('\\' :: 'u' :: digits)

inductive PassedText : List Char → Prop where
  | nil : PassedText []
  | cons {part rest : List Char} (first : Passed part) (later : PassedText rest) : PassedText (part ++ rest)

theorem SpellsChar.length_pos {spelling : List Char} {c : Char} (spelled : SpellsChar spelling c) :
    0 < spelling.length := by
  cases spelled <;> exact Nat.succ_pos _

theorem Passed.length_pos {part : List Char} (passed : Passed part) : 0 < part.length := by
  cases passed <;> exact Nat.succ_pos _

theorem PassedText.append {body others : List Char} (left : PassedText body) (right : PassedText others) :
    PassedText (body ++ others) := by
  induction left with
  | nil => exact right
  | cons first _ ih =>
    rw [List.append_assoc]
    exact .cons first ih

theorem Passed.passedText {part : List Char} (passed : Passed part) : PassedText part := by
  rw [← List.append_nil part]
  exact .cons passed .nil

theorem SpellsChar.passedText {spelling : List Char} {c : Char} (spelled : SpellsChar spelling c) :
    PassedText spelling := by
  cases spelled with
  | unescaped plain => exact (Passed.unescaped plain).passedText
  | short known => exact (Passed.short (by rw [known]; rfl)).passedText
  | unit spelled _ _ => exact (Passed.unit spelled).passedText
  | pair first second _ _ => exact (Passed.unit first).passedText.append (Passed.unit second).passedText

private theorem SpellsChars.passedText {body text : List Char} (spelled : SpellsChars body text) :
    PassedText body := by
  induction spelled with
  | nil => exact .nil
  | cons first _ ih => exact first.passedText.append ih

/-- Whatever is read as a text may also be passed over. -/
theorem SpellsText.passedText {body : List Char} {text : String} (spelled : SpellsText body text) :
    PassedText body := SpellsChars.passedText spelled

namespace Reader

variable {text rest : List Char} {unit : Nat} {c : Char}

theorem fourHexDigits?_eq_some_iff :
    fourHexDigits? text = some (unit, rest) ↔ ∃ digits, SpellsUnit digits unit ∧ text = digits ++ rest := by
  constructor
  · intro read
    unfold fourHexDigits? at read
    split at read
    next =>
      simp only [Option.bind_eq_bind, Option.bind_eq_some_iff, Option.pure_def, Option.some_inj, Prod.mk.injEq,
        Text.hexValue?_eq_some_iff] at read
      obtain ⟨i, first, j, second, k, third, l, fourth, rfl, rfl⟩ := read
      exact ⟨_, .digits first second third fourth, rfl⟩
    next => cases read
  · intro holds
    obtain ⟨digits, spelled, rfl⟩ := holds
    cases spelled with
    | digits first second third fourth =>
      rw [← Text.hexValue?_eq_some_iff] at first second third fourth
      simp [fourHexDigits?, first, second, third, fourth]

theorem hexUnit_eq_ok_iff :
    hexUnit text = .ok (unit, rest) ↔ ∃ digits, SpellsUnit digits unit ∧ text = digits ++ rest := by
  rw [← fourHexDigits?_eq_some_iff, hexUnit]
  split
  next read => simp [read]
  next read =>
    rw [read]
    split <;> simp

theorem hexUnit_append {digits : List Char} (spelled : SpellsUnit digits unit) (rest : List Char) :
    hexUnit (digits ++ rest) = .ok (unit, rest) := hexUnit_eq_ok_iff.mpr ⟨digits, spelled, rfl⟩

private theorem trailingSurrogate_marked (leading : Nat) (text : List Char) :
    trailingSurrogate leading ('\\' :: 'u' :: text) = (hexUnit text >>= fun (trailing, rest) =>
      if isTrailingSurrogate trailing then .ok (joined leading trailing, rest)
      else .error (.here .loneSurrogate rest)) := by
  unfold joined
  rfl

theorem trailingSurrogate_eq_ok_iff {leading : Nat} :
    trailingSurrogate leading text = .ok (c, rest) ↔ ∃ digits trailing, SpellsUnit digits trailing ∧
      isTrailingSurrogate trailing = true ∧ c = joined leading trailing ∧
      text = '\\' :: 'u' :: (digits ++ rest) := by
  constructor
  · intro read
    have marked : ∃ others, text = '\\' :: 'u' :: others := by
      unfold trailingSurrogate at read
      split at read
      next => cases read
      next => cases read
      next => exact ⟨_, rfl⟩
      next => cases read
      next => cases read
    obtain ⟨others, rfl⟩ := marked
    rw [trailingSurrogate_marked] at read
    obtain ⟨⟨trailing, middle⟩, unit, settled⟩ := bind_eq_ok_iff.mp read
    obtain ⟨digits, spelled, rfl⟩ := hexUnit_eq_ok_iff.mp unit
    dsimp only at settled
    split at settled
    next isTrailing =>
      cases settled
      exact ⟨digits, trailing, spelled, isTrailing, rfl, rfl⟩
    next => cases settled
  · intro holds
    obtain ⟨digits, trailing, spelled, isTrailing, rfl, rfl⟩ := holds
    rw [trailingSurrogate_marked, hexUnit_append spelled]
    exact if_pos isTrailing

theorem unicodeEscape_eq_ok_iff :
    unicodeEscape text = .ok (c, rest) ↔
      ∃ spelling, SpellsChar ('\\' :: 'u' :: spelling) c ∧ text = spelling ++ rest := by
  constructor
  · intro read
    obtain ⟨⟨unit, middle⟩, first, settled⟩ := bind_eq_ok_iff.mp read
    obtain ⟨digits, spelled, rfl⟩ := hexUnit_eq_ok_iff.mp first
    dsimp only at settled
    split at settled
    next => cases settled
    next notTrailing =>
      split at settled
      next isLeading =>
        obtain ⟨others, trailing, second, isTrailing, rfl, rfl⟩ := trailingSurrogate_eq_ok_iff.mp settled
        exact ⟨_, .pair spelled second isLeading isTrailing, by simp⟩
      next notLeading =>
        cases settled
        exact ⟨_, .unit spelled (Bool.eq_false_iff.mpr notTrailing) (Bool.eq_false_iff.mpr notLeading), rfl⟩
  · intro holds
    obtain ⟨spelling, spelled, rfl⟩ := holds
    cases spelled with
    | short known => cases known
    | unit spelled notTrailing notLeading =>
      simp only [unicodeEscape, hexUnit_append spelled, bind, Except.bind, notTrailing, notLeading]
      rfl
    | @pair digits others leading trailing first second isLeading isTrailing =>
      have notTrailing : isTrailingSurrogate leading = false := by
        simp only [isLeadingSurrogate, isTrailingSurrogate, Bool.and_eq_true, decide_eq_true_eq] at isLeading ⊢
        simp only [Bool.and_eq_false_iff, decide_eq_false_iff_not]
        omega
      rw [List.append_assoc, List.cons_append, List.cons_append, unicodeEscape, hexUnit_append first]
      simp only [bind, Except.bind, notTrailing, isLeading]
      exact trailingSurrogate_eq_ok_iff.mpr ⟨others, trailing, second, isTrailing, rfl, rfl⟩

theorem escape_eq_ok_iff :
    escape text = .ok (c, rest) ↔ ∃ spelling, SpellsChar ('\\' :: spelling) c ∧ text = spelling ++ rest := by
  constructor
  · intro read
    unfold escape at read
    split at read
    next => cases read
    next =>
      obtain ⟨spelling, spelled, rfl⟩ := unicodeEscape_eq_ok_iff.mp read
      exact ⟨'u' :: spelling, spelled, rfl⟩
    next mark _ _ =>
      split at read
      next known =>
        cases read
        exact ⟨[mark], .short known, rfl⟩
      next => cases read
  · intro holds
    obtain ⟨spelling, spelled, rfl⟩ := holds
    cases spelled with
    | unescaped plain => exact absurd rfl plain.notBackslash
    | @short mark _ known =>
      have notUnit : mark ≠ 'u' := by
        rintro rfl
        cases known
      simp [escape, known]
    | unit spelled notTrailing notLeading =>
      exact unicodeEscape_eq_ok_iff.mpr ⟨_, .unit spelled notTrailing notLeading, rfl⟩
    | pair first second isLeading isTrailing =>
      exact unicodeEscape_eq_ok_iff.mpr ⟨_, .pair first second isLeading isTrailing, rfl⟩

theorem textRound_again_iff {collected next : List Char} :
    textRound collected text = .ok (.again next, rest) ↔
      ∃ spelling c, SpellsChar spelling c ∧ next = c :: collected ∧ text = spelling ++ rest := by
  constructor
  · intro read
    unfold textRound at read
    split at read
    next => cases read
    next => cases read
    next =>
      obtain ⟨⟨c, middle⟩, escaped, settled⟩ := bind_eq_ok_iff.mp read
      obtain ⟨spelling, spelled, rfl⟩ := escape_eq_ok_iff.mp escaped
      cases settled
      exact ⟨_, c, spelled, rfl, rfl⟩
    next c _ notQuote notBackslash =>
      split at read
      next => cases read
      next notControl =>
        cases read
        exact ⟨[c], c, .unescaped ⟨notQuote, notBackslash, notControl⟩, rfl, rfl⟩
  · intro holds
    obtain ⟨spelling, c, spelled, rfl, rfl⟩ := holds
    have escaped {others : List Char} (spelled : SpellsChar ('\\' :: others) c) :
        textRound collected ('\\' :: others ++ rest) = .ok (.again (c :: collected), rest) := by
      have read := escape_eq_ok_iff.mpr ⟨others, spelled, (rfl : others ++ rest = others ++ rest)⟩
      simp only [List.cons_append, textRound, read]
      rfl
    cases spelled with
    | unescaped plain => simp [textRound, plain.notQuote, plain.notBackslash, plain.notControl]
    | short known => exact escaped (.short known)
    | unit spelled notTrailing notLeading => exact escaped (.unit spelled notTrailing notLeading)
    | pair first second isLeading isTrailing => exact escaped (.pair first second isLeading isTrailing)

theorem textRound_done_iff {collected : List Char} {result : String} :
    textRound collected text = .ok (.done result, rest) ↔
      result = String.ofList collected.reverse ∧ text = '"' :: rest := by
  constructor
  · intro read
    unfold textRound at read
    split at read
    next => cases read
    next =>
      cases read
      exact ⟨rfl, rfl⟩
    next =>
      obtain ⟨_, _, settled⟩ := bind_eq_ok_iff.mp read
      cases settled
    next => split at read <;> cases read
  · intro holds
    obtain ⟨rfl, rfl⟩ := holds
    rfl

private theorem body_of_runs {collected : List Char} {result : String}
    (runs : Runs textRound collected text result rest) : ∃ body chars, SpellsChars body chars ∧
      result = String.ofList (collected.reverse ++ chars) ∧ text = body ++ '"' :: rest := by
  induction runs with
  | done settled =>
    obtain ⟨rfl, rfl⟩ := textRound_done_iff.mp settled
    exact ⟨[], [], .nil, by simp, rfl⟩
  | again read _ ih =>
    obtain ⟨spelling, c, spelled, rfl, rfl⟩ := textRound_again_iff.mp read
    obtain ⟨body, chars, others, rfl, rfl⟩ := ih
    exact ⟨spelling ++ body, c :: chars, .cons spelled others, by simp, by simp⟩

private theorem loops_of_body {body chars : List Char} (spelled : SpellsChars body chars)
    (collected rest : List Char) : Loops textRound collected (body ++ '"' :: rest)
      (String.ofList (collected.reverse ++ chars)) rest := by
  induction spelled generalizing collected with
  | nil => exact .done (textRound_done_iff.mpr ⟨by simp, rfl⟩)
  | @cons spelling others text c first later ih =>
    have read : textRound collected (spelling ++ others ++ '"' :: rest) =
        .ok (.again (c :: collected), others ++ '"' :: rest) :=
      textRound_again_iff.mpr ⟨spelling, c, first, rfl, List.append_assoc ..⟩
    refine .again read ?_ ?_
    · have := first.length_pos
      simp only [List.length_append]
      omega
    · simpa using ih (c :: collected)

/-- What is read after an opening quote is the spelling of a text, up to the next quote outside of it. -/
theorem textBody_eq_ok_iff {result : String} :
    textBody text = .ok (result, rest) ↔ ∃ body, SpellsText body result ∧ text = body ++ '"' :: rest := by
  constructor
  · intro read
    obtain ⟨body, chars, spelled, rfl, rfl⟩ := body_of_runs (runs_of_repeated read)
    exact ⟨body, by simpa [SpellsText] using spelled, rfl⟩
  · intro holds
    obtain ⟨body, spelled, rfl⟩ := holds
    have loops := loops_of_body spelled [] rest
    rw [List.reverse_nil, List.nil_append, String.ofList_toList] at loops
    exact repeated_of_loops loops

theorem skipEscape_eq_ok_iff :
    skipEscape text = .ok ((), rest) ↔ ∃ part, Passed ('\\' :: part) ∧ text = part ++ rest := by
  constructor
  · intro read
    unfold skipEscape at read
    split at read
    next => cases read
    next =>
      obtain ⟨⟨unit, middle⟩, first, settled⟩ := bind_eq_ok_iff.mp read
      obtain ⟨digits, spelled, rfl⟩ := hexUnit_eq_ok_iff.mp first
      cases settled
      exact ⟨'u' :: digits, .unit spelled, rfl⟩
    next mark _ _ =>
      split at read
      next known =>
        cases read
        exact ⟨[mark], .short known, rfl⟩
      next => cases read
  · intro holds
    obtain ⟨part, passed, rfl⟩ := holds
    cases passed with
    | unescaped plain => exact absurd rfl plain.notBackslash
    | @short mark known =>
      have notUnit : mark ≠ 'u' := by
        rintro rfl
        cases known
      simp [skipEscape, known]
    | unit spelled =>
      simp only [List.cons_append, skipEscape, hexUnit_append spelled]
      rfl

theorem skipTextRound_again_iff :
    skipTextRound () text = .ok (.again (), rest) ↔ ∃ part, Passed part ∧ text = part ++ rest := by
  constructor
  · intro read
    unfold skipTextRound at read
    split at read
    next => cases read
    next => cases read
    next =>
      obtain ⟨⟨_, middle⟩, escaped, settled⟩ := bind_eq_ok_iff.mp read
      obtain ⟨part, passed, rfl⟩ := skipEscape_eq_ok_iff.mp escaped
      cases settled
      exact ⟨_, passed, rfl⟩
    next c _ notQuote notBackslash =>
      split at read
      next => cases read
      next notControl =>
        cases read
        exact ⟨[c], .unescaped ⟨notQuote, notBackslash, notControl⟩, rfl⟩
  · intro holds
    obtain ⟨part, passed, rfl⟩ := holds
    have escaped {others : List Char} (passed : Passed ('\\' :: others)) :
        skipTextRound () ('\\' :: others ++ rest) = .ok (.again (), rest) := by
      have read := skipEscape_eq_ok_iff.mpr ⟨others, passed, (rfl : others ++ rest = others ++ rest)⟩
      simp only [List.cons_append, skipTextRound, read]
      rfl
    cases passed with
    | unescaped plain => simp [skipTextRound, plain.notQuote, plain.notBackslash, plain.notControl]
    | short known => exact escaped (.short known)
    | unit spelled => exact escaped (.unit spelled)

theorem skipTextRound_done_iff :
    skipTextRound () text = .ok (.done (), rest) ↔ text = '"' :: rest := by
  constructor
  · intro read
    unfold skipTextRound at read
    split at read
    next => cases read
    next =>
      cases read
      rfl
    next =>
      obtain ⟨_, _, settled⟩ := bind_eq_ok_iff.mp read
      cases settled
    next => split at read <;> cases read
  · rintro rfl
    rfl

private theorem passedText_of_runs {state result : Unit} (runs : Runs skipTextRound state text result rest) :
    ∃ body, PassedText body ∧ text = body ++ '"' :: rest := by
  induction runs with
  | done settled => exact ⟨[], .nil, skipTextRound_done_iff.mp settled⟩
  | again read _ ih =>
    obtain ⟨part, passed, rfl⟩ := skipTextRound_again_iff.mp read
    obtain ⟨body, others, rfl⟩ := ih
    exact ⟨part ++ body, .cons passed others, by simp⟩

private theorem loops_of_passedText {body : List Char} (passed : PassedText body) (rest : List Char) :
    Loops skipTextRound () (body ++ '"' :: rest) () rest := by
  induction passed with
  | nil => exact .done (skipTextRound_done_iff.mpr rfl)
  | @cons part others first later ih =>
    have read : skipTextRound () (part ++ others ++ '"' :: rest) = .ok (.again (), others ++ '"' :: rest) :=
      skipTextRound_again_iff.mpr ⟨part, first, List.append_assoc ..⟩
    refine .again read ?_ ih
    have := first.length_pos
    simp only [List.length_append]
    omega

theorem skipTextBody_eq_ok_iff :
    skipTextBody text = .ok ((), rest) ↔ ∃ body, PassedText body ∧ text = body ++ '"' :: rest := by
  constructor
  · intro read
    exact passedText_of_runs (runs_of_repeated read)
  · intro holds
    obtain ⟨body, passed, rfl⟩ := holds
    exact repeated_of_loops (loops_of_passedText passed rest)

end Reader

end WalletCurrencies.Json
