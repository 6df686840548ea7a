import WalletCurrencies.Currency.Payment
import WalletCurrencies.Proofs.LoadLog
import WalletCurrencies.Proofs.LowerMarks
import WalletCurrencies.Proofs.Units

/-! Kinds of tokens are read in any case. Lower case is taken over all of Unicode, but what it leads to
the letters of the two names are these letters alone, in their two cases: a character beyond ASCII
either stays beyond it or becomes the letter k, which neither name has. -/

namespace WalletCurrencies

namespace Text

/-- A character that is its own lower case, and that of no character beyond ASCII. -/
structure IsNameLetter (c : Char) : Prop where
  positive : 0 < c.toNat
  ascii : c.toNat < 128
  small : c.toLower = c
  notKelvin : c ≠ 'k'

instance (c : Char) : Decidable (IsNameLetter c) :=
  decidable_of_iff (0 < c.toNat ∧ c.toNat < 128 ∧ c.toLower = c ∧ c ≠ 'k')
    ⟨fun ⟨positive, ascii, small, notKelvin⟩ => ⟨positive, ascii, small, notKelvin⟩,
      fun ⟨positive, ascii, small, notKelvin⟩ => ⟨positive, ascii, small, notKelvin⟩⟩

/-- The Kelvin sign is the only one of its span, and its lower case the letter k. -/
private theorem lowerSpans_target : ∀ span ∈ lowerSpans,
    128 ≤ span.target ∨ span.first = span.last ∧ span.target = 'k'.toNat := by
  decide +kernel

private theorem lowerExpansions_foreign : ∀ entry ∈ lowerExpansions, ∃ code ∈ entry.2,
    128 ≤ (Char.ofNat code).toNat := by
  decide

theorem not_isNameLetter_of_foreign {c : Char} (foreign : 128 ≤ c.toNat) : ¬ IsNameLetter c := by
  intro letter
  exact absurd letter.ascii (Nat.not_lt.mpr foreign)

theorem not_isNameLetter_ofNat {code : Nat} (foreign : 128 ≤ code) : ¬ IsNameLetter (Char.ofNat code) := by
  intro letter
  have positive := letter.positive
  have ascii := letter.ascii
  have value := toNat_ofNat_eq_or code
  omega

theorem not_isNameLetter_image {span : CaseSpan} (listed : span ∈ lowerSpans) {c : Char}
    (held : span.holds c = true) : ¬ IsNameLetter (span.image c) := by
  unfold CaseSpan.image
  rcases lowerSpans_target span listed with foreign | ⟨single, kelvin⟩
  · exact not_isNameLetter_ofNat (Nat.le_add_right_of_le foreign)
  · simp only [CaseSpan.holds, Bool.and_eq_true, decide_eq_true_iff] at held
    obtain ⟨⟨least, greatest⟩, -⟩ := held
    have offset : c.toNat - span.first = 0 := by omega
    rw [offset, kelvin]
    exact fun letter => letter.notKelvin rfl

/-- The lower case of a character beyond ASCII shows that it is not a letter of a name. -/
theorem exists_mem_lowerChar {c : Char} (foreign : 128 ≤ c.toNat) : ∃ d ∈ lowerChar c, ¬ IsNameLetter d := by
  unfold lowerChar
  rw [if_neg (Nat.not_lt.mpr foreign), mapped]
  split
  next code image expanded =>
    obtain ⟨code, inside, beyond⟩ := lowerExpansions_foreign _ (List.mem_of_find?_eq_some expanded)
    exact ⟨Char.ofNat code, List.mem_map_of_mem inside, not_isNameLetter_of_foreign beyond⟩
  next =>
    split
    next span found =>
      have image := not_isNameLetter_image (List.mem_of_find?_eq_some found)
        (List.find?_eq_some_iff_append.mp found).1
      exact ⟨_, List.mem_singleton_self _, image⟩
    next => exact ⟨c, List.mem_singleton_self c, not_isNameLetter_of_foreign foreign⟩

variable {before rest text : List Char} {c : Char}

theorem lowerAfter_cons_ascii (ascii : c.toNat < 128) :
    lowerAfter before (c :: rest) = c.toLower :: lowerAfter (c :: before) rest := by
  have notSigma : c ≠ 'Σ' := by
    rintro rfl
    exact absurd ascii (by decide)
  rw [lowerAfter, if_neg notSigma, lowerChar, if_pos ascii]
  rfl

theorem lowerAfter_of_ascii (ascii : ∀ c ∈ text, c.toNat < 128) :
    lowerAfter before text = text.map Char.toLower := by
  induction text generalizing before with
  | nil => rfl
  | cons c rest ih =>
    rw [lowerAfter_cons_ascii (ascii c List.mem_cons_self), List.map_cons,
      ih fun d member => ascii d (List.mem_cons_of_mem c member)]

theorem exists_mem_lowerAfter (foreign : 128 ≤ c.toNat) :
    ∃ d ∈ lowerAfter before (c :: rest), ¬ IsNameLetter d := by
  unfold lowerAfter
  split
  next =>
    refine ⟨_, List.mem_cons_self, not_isNameLetter_of_foreign ?_⟩
    split <;> decide
  next =>
    obtain ⟨d, member, other⟩ := exists_mem_lowerChar foreign
    exact ⟨d, List.mem_append_left _ member, other⟩

/-- What lower case makes of a text is made of letters of names only if the text is ASCII. -/
theorem ascii_of_lowerAfter (letters : ∀ d ∈ lowerAfter before text, IsNameLetter d) :
    ∀ c ∈ text, c.toNat < 128 := by
  induction text generalizing before with
  | nil => simp
  | cons c rest ih =>
    have ascii : c.toNat < 128 := by
      by_contra beyond
      obtain ⟨d, member, other⟩ : ∃ d ∈ lowerAfter before (c :: rest), ¬ IsNameLetter d :=
        exists_mem_lowerAfter (Nat.not_lt.mp beyond)
      exact other (letters d member)
    rw [lowerAfter_cons_ascii ascii] at letters
    exact List.forall_mem_cons.mpr ⟨ascii, ih fun d member => letters d (List.mem_cons_of_mem _ member)⟩

theorem map_toLower_of_letters (letters : ∀ c ∈ text, IsNameLetter c) : text.map Char.toLower = text :=
  (List.map_congr_left fun c member => (letters c member).small).trans (List.map_id text)

/-- A name is the lower case of the texts that spell it, and of no others. -/
theorem lowercase_eq_iff_sameLetters {text word : String} (letters : ∀ c ∈ word.toList, IsNameLetter c) :
    lowercase text = word ↔ SameLetters text word := by
  have own : asciiLower word = word.toList := map_toLower_of_letters letters
  rw [← sameUpToAsciiCase_iff]
  constructor
  · intro same
    have lowered : lowerAfter [] text.toList = word.toList := by
      rw [← same, lowercase, String.toList_ofList]
    have ascii : ∀ c ∈ text.toList, c.toNat < 128 :=
      ascii_of_lowerAfter fun d member => letters d (lowered ▸ member)
    rw [lowerAfter_of_ascii ascii] at lowered
    rw [sameUpToAsciiCase, beq_iff_eq, own]
    exact lowered
  · intro same
    have ascii : ∀ c ∈ word.toList, c.toNat < 128 := fun c member => (letters c member).ascii
    have lowered : lowerAfter [] word.toList = word.toList := (lowerAfter_of_ascii ascii).trans own
    rw [lowercase_eq_of_sameUpToAsciiCase same, lowercase, lowered, String.ofList_toList]

/-- Without the letter k this would not be so: the Kelvin sign is not in ASCII. -/
example : lowercase "\u212a" = "k" ∧ sameUpToAsciiCase "\u212a" "k" = false := by
  decide

theorem SameLetters.ascii {text word : String} (same : SameLetters text word)
    (letters : ∀ c ∈ word.toList, IsNameLetter c) : ∀ c ∈ text.toList, c.toNat < 128 := by
  have lowered := (lowercase_eq_iff_sameLetters letters).mpr same
  rw [← lowered, lowercase, String.toList_ofList] at letters
  exact ascii_of_lowerAfter letters

end Text

namespace TokenKind

/-- The two kinds that are known, under their names. -/
def knownKinds : List (String × TokenKind) := [("native", .native), ("erc20", .erc20)]

theorem native_mem_knownKinds : ("native", .native) ∈ knownKinds :=
  List.mem_cons_self

theorem erc20_mem_knownKinds : ("erc20", .erc20) ∈ knownKinds :=
  List.mem_cons_of_mem _ List.mem_cons_self

theorem knownKinds_letters : ∀ known ∈ knownKinds, ∀ c ∈ known.1.toList, Text.IsNameLetter c := by
  have letters : (knownKinds.all fun known => known.1.toList.all fun c => decide (Text.IsNameLetter c)) = true := by
    decide
  intro known listed c member
  exact of_decide_eq_true (List.all_eq_true.mp (List.all_eq_true.mp letters known listed) c member)

theorem knownKinds_distinct :
    ∀ first ∈ knownKinds, ∀ second ∈ knownKinds, first.1 = second.1 ↔ first.2 = second.2 := by
  decide

theorem knownKinds_known : ∀ known ∈ knownKinds, known.2 ≠ .unknown := by
  decide

variable {text : String} {answer : TokenKind × List Event} {known other : String × TokenKind}

theorem lowercase_eq_iff_of_known (listed : known ∈ knownKinds) :
    Text.lowercase text = known.1 ↔ Text.SameLetters text known.1 :=
  Text.lowercase_eq_iff_sameLetters (knownKinds_letters known listed)

/-- No text spells the names of two kinds. -/
theorem name_eq_of_spelled (listed : known ∈ knownKinds) (otherListed : other ∈ knownKinds)
    (same : Text.SameLetters text known.1) (otherSame : Text.SameLetters text other.1) : known.1 = other.1 := by
  rw [← lowercase_eq_iff_of_known listed] at same
  rw [← lowercase_eq_iff_of_known otherListed] at otherSame
  exact same.symm.trans otherSame

/-- All that reading the text of a kind can come to. -/
inductive Reads (text : String) : TokenKind × List Event → Prop where
  | named (known : String × TokenKind) (listed : known ∈ knownKinds) (same : Text.SameLetters text known.1) :
      Reads text (known.2, [])
  | unknown (foreign : ∀ known ∈ knownKinds, ¬ Text.SameLetters text known.1) :
      Reads text (.unknown, [.unknownTokenKind text])

theorem reads (text : String) : Reads text (ofTextLogged text) := by
  simp only [ofTextLogged]
  split
  next same =>
    have spelled := (lowercase_eq_iff_of_known native_mem_knownKinds).mp same
    exact .named _ native_mem_knownKinds spelled
  next notNative =>
    split
    next same =>
      have spelled := (lowercase_eq_iff_of_known erc20_mem_knownKinds).mp same
      exact .named _ erc20_mem_knownKinds spelled
    next notErc20 =>
      apply Reads.unknown
      simp only [knownKinds, List.forall_mem_cons]
      exact ⟨mt (lowercase_eq_iff_of_known native_mem_knownKinds).mpr notNative,
        mt (lowercase_eq_iff_of_known erc20_mem_knownKinds).mpr notErc20, List.forall_mem_nil _⟩

theorem Reads.kind_iff (read : Reads text answer) (listed : known ∈ knownKinds) :
    answer.1 = known.2 ↔ Text.SameLetters text known.1 := by
  cases read with
  | named other otherListed same =>
    rw [← knownKinds_distinct other otherListed known listed]
    constructor
    · exact fun named => named ▸ same
    · exact name_eq_of_spelled otherListed listed same
  | unknown foreign => exact iff_of_false (knownKinds_known known listed).symm (foreign known listed)

theorem Reads.unknown_iff (read : Reads text answer) :
    answer.1 = .unknown ↔ ∀ known ∈ knownKinds, ¬ Text.SameLetters text known.1 := by
  cases read with
  | named known listed same =>
    exact iff_of_false (knownKinds_known known listed) fun foreign => foreign known listed same
  | unknown foreign => exact iff_of_true rfl foreign

theorem Reads.warned (read : Reads text answer) (unknown : answer.1 = .unknown) :
    answer.2 = [.unknownTokenKind text] := by
  cases read with
  | named known listed => exact absurd unknown (knownKinds_known known listed)
  | unknown => rfl

theorem Reads.silent (read : Reads text answer) (recognized : answer.1 ≠ .unknown) : answer.2 = [] := by
  cases read with
  | named => rfl
  | unknown => exact absurd rfl recognized

theorem ofText_eq_native_iff : ofText text = .native ↔ Text.SameLetters text "native" :=
  (reads text).kind_iff native_mem_knownKinds

theorem ofText_eq_erc20_iff : ofText text = .erc20 ↔ Text.SameLetters text "erc20" :=
  (reads text).kind_iff erc20_mem_knownKinds

theorem ofText_eq_unknown_iff : ofText text = .unknown ↔
    ¬ Text.SameLetters text "native" ∧ ¬ Text.SameLetters text "erc20" := by
  rw [ofText, (reads text).unknown_iff]
  simp [knownKinds]

theorem ofText_of_foreign (foreign : ∃ c ∈ text.toList, 128 ≤ c.toNat) : ofText text = .unknown := by
  obtain ⟨c, member, beyond⟩ := foreign
  apply (reads text).unknown_iff.mpr
  intro known listed same
  exact absurd (same.ascii (knownKinds_letters known listed) c member) (Nat.not_lt.mpr beyond)

/-- What is read from the text of a kind, and what that leaves in the log. -/
structure Recognizes (text : String) : Prop where
  native : ofText text = .native ↔ Text.SameLetters text "native"
  erc20 : ofText text = .erc20 ↔ Text.SameLetters text "erc20"
  unknown : ofText text = .unknown ↔ ¬ Text.SameLetters text "native" ∧ ¬ Text.SameLetters text "erc20"
  foreign : (∃ c ∈ text.toList, 128 ≤ c.toNat) → ofText text = .unknown
  warned : ofText text = .unknown → ∃ event, eventsOf text = [event] ∧ event = .unknownTokenKind text ∧
    event.Shows .warning "unknown token type"
  silent : ofText text ≠ .unknown → eventsOf text = []

theorem recognizes (text : String) : Recognizes text where
  native := ofText_eq_native_iff
  erc20 := ofText_eq_erc20_iff
  unknown := ofText_eq_unknown_iff
  foreign := ofText_of_foreign
  warned unknown := ⟨_, (reads text).warned unknown, rfl, ⟨rfl, rfl⟩⟩
  silent := (reads text).silent

end TokenKind

namespace Currency

variable {currency : Currency}

theorem tokenKind_eq_erc20_iff : currency.tokenKind = .erc20 ↔ Text.SameLetters currency.coin.kind "erc20" :=
  TokenKind.ofText_eq_erc20_iff

theorem supportTicker_of_erc20 (same : Text.SameLetters currency.coin.kind "erc20") :
    currency.supportTicker = "erc20" :=
  if_pos (tokenKind_eq_erc20_iff.mpr same)

theorem supportTicker_of_other (other : ¬ Text.SameLetters currency.coin.kind "erc20") :
    currency.supportTicker = Text.lowercase currency.code :=
  if_neg (mt tokenKind_eq_erc20_iff.mp other)

/-- Bitcoin, but for the raw text of its kind. -/
def bitcoinOfKind (kind : String) : Currency :=
  { bitcoinWith [] with coin := { bitcoinCoin with kind }, sameId := rfl }

/-- For no other text of the kind are all currencies filed under this ticker. -/
theorem forall_supportTicker_eq_erc20_iff (kind : String) :
    (∀ currency : Currency, currency.coin.kind = kind → currency.supportTicker = "erc20") ↔
      Text.SameLetters kind "erc20" := by
  constructor
  · intro filed
    by_contra other
    have ticker : (bitcoinOfKind kind).supportTicker = Text.lowercase (Text.uppercase "btc") :=
      supportTicker_of_other other
    rw [filed (bitcoinOfKind kind) rfl] at ticker
    exact absurd ticker (by decide)
  · intro same currency own
    exact supportTicker_of_erc20 (own ▸ same)

end Currency

/-- The two known kinds are those that spell their names, and a token of the second one is looked up under
its kind, every other currency under its ticker. -/
theorem tokenKinds_recognized :
    (∀ text, TokenKind.Recognizes text) ∧
    (∀ kind, (∀ currency : Currency, currency.coin.kind = kind → currency.supportTicker = "erc20") ↔
      Text.SameLetters kind "erc20") ∧
    ∀ currency : Currency,
      (Text.SameLetters currency.coin.kind "erc20" → currency.supportTicker = "erc20") ∧
        (¬ Text.SameLetters currency.coin.kind "erc20" → currency.supportTicker = Text.lowercase currency.code) :=
  ⟨TokenKind.recognizes, Currency.forall_supportTicker_eq_erc20_iff,
    fun _ => ⟨Currency.supportTicker_of_erc20, Currency.supportTicker_of_other⟩⟩

end WalletCurrencies
