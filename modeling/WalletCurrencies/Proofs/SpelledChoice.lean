import WalletCurrencies.Json.Variant
import WalletCurrencies.Proofs.ObjectText

/-! The values of fields that take a yes or no, or one of a few names, with the characters that spell them.
Their readers accept these spellings and no others. -/

namespace WalletCurrencies.Json

variable {δ α : Type}

/-- The reader takes the spellings of values, with blanks before them, and nothing else. -/
def Reader.Recognizes (reader : Reader α) (spells : List Char → α → Prop) : Prop :=
  ∀ {text value rest}, reader text = .ok (value, rest) ↔
    ∃ blanks chars, Blanks blanks ∧ spells chars value ∧ text = blanks ++ (chars ++ rest)

inductive SpellsBoolean : List Char → Bool → Prop where
  | yes : SpellsBoolean ['t', 'r', 'u', 'e'] true
  | no : SpellsBoolean ['f', 'a', 'l', 's', 'e'] false

/-- A name, as a text or as an object that gives null for it. -/
inductive SpellsName : List Char → String → Prop where
  | text {name : String} {body : List Char} (spelled : SpellsText body name) : SpellsName ('"' :: (body ++ ['"'])) name
  | object {name : String} {opening body before after closing : List Char} (first : Blanks opening)
      (spelled : SpellsText body name) (second : Blanks before) (third : Blanks after) (last : Blanks closing) :
      SpellsName ('\x7b' :: (opening ++ '"' :: (body ++ '"' ::
        (before ++ ':' :: (after ++ 'n' :: 'u' :: 'l' :: 'l' :: (closing ++ ['\x7d'])))))) name

theorem SpellsBoolean.skipped {chars : List Char} {value : Bool} (spelled : SpellsBoolean chars value) :
    Skipped .value chars := by
  cases spelled with
  | yes => exact .scalar .yes
  | no => exact .scalar .no

theorem SpellsName.skipped {chars : List Char} {name : String} (spelled : SpellsName chars name) :
    Skipped .value chars := by
  cases spelled with
  | text spelled => exact .scalar (.text spelled.passedText)
  | @object _ opening body before after closing first spelled second third last =>
    have close : Skipped (.rest .object) (closing ++ ['\x7d']) := .close last
    have entry := Skipped.entry first (.object spelled.passedText second) third (.scalar .null) close
    have filled := Skipped.filled entry
    simpa [Bracket.opening] using filled

namespace Reader

variable {text rest : List Char} {value : α} {name : String} {choices : List (String × α)}

theorem mismatched_ne_ok {expected : Expected} : mismatched expected text ≠ .ok (value, rest) := by
  have refused {β : Type} {scalar : Except Fault β} {fault : β → Fault} :
      (scalar >>= fun found => throw (fault found)) ≠ (.ok (value, rest) : Except Fault (α × List Char)) := by
    intro read
    obtain ⟨_, _, failed⟩ := bind_eq_ok_iff.mp read
    cases failed
  intro read
  unfold mismatched at read
  dsimp only at read
  split at read
  next => cases read
  iterate 4
    next => exact refused read
  iterate 2
    next => cases read
  next =>
    split at read
    next => exact refused read
    next => cases read

theorem boolean_recognizes : Recognizes boolean SpellsBoolean := by
  intro text value rest
  constructor
  · intro read
    unfold boolean at read
    split at read
    next found =>
      obtain ⟨blanks, blank, rfl⟩ := exists_blanks_of_skipBlanks found
      obtain ⟨rfl, rfl⟩ := keyword_eq_ok_iff.mp read
      exact ⟨blanks, _, blank, .yes, rfl⟩
    next found =>
      obtain ⟨blanks, blank, rfl⟩ := exists_blanks_of_skipBlanks found
      obtain ⟨rfl, rfl⟩ := keyword_eq_ok_iff.mp read
      exact ⟨blanks, _, blank, .no, rfl⟩
    next => exact absurd read mismatched_ne_ok
  · intro holds
    obtain ⟨blanks, chars, blank, spelled, rfl⟩ := holds
    unfold boolean
    cases spelled with
    | yes =>
      rw [List.cons_append, skipBlanks_between blank (by decide)]
      exact keyword_eq_ok_iff.mpr ⟨rfl, rfl⟩
    | no =>
      rw [List.cons_append, skipBlanks_between blank (by decide)]
      exact keyword_eq_ok_iff.mpr ⟨rfl, rfl⟩

theorem unit_eq_ok_iff : unit text = .ok ((), rest) ↔
    ∃ blanks, Blanks blanks ∧ text = blanks ++ 'n' :: 'u' :: 'l' :: 'l' :: rest := by
  constructor
  · intro read
    unfold unit at read
    split at read
    next found =>
      obtain ⟨blanks, blank, rfl⟩ := exists_blanks_of_skipBlanks found
      obtain ⟨-, rfl⟩ := keyword_eq_ok_iff.mp read
      exact ⟨blanks, blank, rfl⟩
    next => exact absurd read mismatched_ne_ok
  · intro holds
    obtain ⟨blanks, blank, rfl⟩ := holds
    unfold unit
    rw [skipBlanks_between blank (by decide)]
    exact keyword_eq_ok_iff.mpr ⟨rfl, rfl⟩

theorem chosen_eq_ok_iff :
    chosen choices name text = .ok (value, rest) ↔ Entries.find? name choices = some value ∧ text = rest := by
  unfold chosen
  cases Entries.find? name choices <;> simp

/-- A choice is spelled by the name of its variant. -/
theorem variant_recognizes (choices : List (String × α)) : Recognizes (variant choices)
    fun chars value => ∃ name, SpellsName chars name ∧ Entries.find? name choices = some value := by
  intro text value rest
  constructor
  · intro read
    unfold variant at read
    split at read
    next => cases read
    next found =>
      obtain ⟨blanks, blank, rfl⟩ := exists_blanks_of_skipBlanks found
      obtain ⟨⟨name, afterName⟩, named, settled⟩ := bind_eq_ok_iff.mp read
      obtain ⟨body, spelled, rfl⟩ := textBody_eq_ok_iff.mp named
      obtain ⟨known, rfl⟩ := chosen_eq_ok_iff.mp settled
      exact ⟨blanks, _, blank, ⟨name, .text spelled, known⟩, by simp⟩
    next found =>
      obtain ⟨blanks, blank, rfl⟩ := exists_blanks_of_skipBlanks found
      obtain ⟨⟨more, afterLead⟩, member, settled⟩ := bind_eq_ok_iff.mp read
      dsimp only at settled
      split at settled
      next isMore =>
        subst isMore
        obtain ⟨lead, leads, rfl⟩ := nextMember_eq_true_iff.mp member
        obtain ⟨⟨name, afterName⟩, named, known⟩ := bind_eq_ok_iff.mp settled
        obtain ⟨body, spelled, rfl⟩ := textBody_eq_ok_iff.mp named
        obtain ⟨⟨found, afterChoice⟩, picked, marked⟩ := bind_eq_ok_iff.mp known
        obtain ⟨known, rfl⟩ := chosen_eq_ok_iff.mp picked
        obtain ⟨⟨⟨⟩, afterColon⟩, colon, valued⟩ := bind_eq_ok_iff.mp marked
        obtain ⟨before, second, rfl⟩ := colon_eq_ok_iff.mp colon
        obtain ⟨⟨⟨⟩, afterNull⟩, null, closed⟩ := bind_eq_ok_iff.mp valued
        obtain ⟨after, third, rfl⟩ := unit_eq_ok_iff.mp null
        dsimp only at closed
        split at closed
        next => cases closed
        next brace =>
          obtain ⟨closing, last, rfl⟩ := exists_blanks_of_skipBlanks brace
          cases closed
          cases leads with
          | first first =>
            exact ⟨blanks, _, blank, ⟨name, .object first spelled second third last, known⟩, by simp⟩
        next => cases closed
      next => cases settled
    next => cases read
  · intro holds
    obtain ⟨blanks, chars, blank, ⟨name, spelled, known⟩, rfl⟩ := holds
    have chosen (rest : List Char) : chosen choices name rest = .ok (value, rest) :=
      chosen_eq_ok_iff.mpr ⟨known, rfl⟩
    unfold variant
    cases spelled with
    | @text _ body spelled =>
      have named : textBody (body ++ '"' :: rest) = .ok (name, rest) :=
        textBody_eq_ok_iff.mpr ⟨body, spelled, rfl⟩
      rw [List.cons_append, skipBlanks_between blank (by decide)]
      simp only [List.append_assoc, List.cons_append, List.nil_append, named, bind, Except.bind]
      exact chosen rest
    | @object _ opening body before after closing first spelled second third last =>
      have member (rest : List Char) : nextMember true (opening ++ '"' :: rest) = .ok (true, rest) :=
        nextMember_eq_true_iff.mpr ⟨opening, .first first, rfl⟩
      have named (rest : List Char) : textBody (body ++ '"' :: rest) = .ok (name, rest) :=
        textBody_eq_ok_iff.mpr ⟨body, spelled, rfl⟩
      have marked (rest : List Char) : colon (before ++ ':' :: rest) = .ok ((), rest) :=
        colon_eq_ok_iff.mpr ⟨before, second, rfl⟩
      have null (rest : List Char) : unit (after ++ 'n' :: 'u' :: 'l' :: 'l' :: rest) = .ok ((), rest) :=
        unit_eq_ok_iff.mpr ⟨after, third, rfl⟩
      rw [List.cons_append, skipBlanks_between blank (by decide)]
      simp only [List.append_assoc, List.cons_append, List.nil_append, member, named, chosen, marked, null, bind,
        Except.bind, if_true, skipBlanks_between last (show isBlank '\x7d' = false from rfl)]
      rfl

end Reader

section Storing

variable {β : Type} {name : String} {required : Bool} {reader : Reader β} {stored : δ → Option β} {store : δ → β → δ}
  {spells : List Char → β → Prop} {draft next : δ} {chars : List Char}

theorem storing_takes (recognizes : reader.Recognizes spells) {value : β} (spelled : spells chars value) :
    (Field.storing name required reader stored store).Takes draft chars (store draft value) := by
  intro blanks rest blank _
  have read : reader (blanks ++ (chars ++ rest)) = .ok (value, rest) :=
    recognizes.mpr ⟨blanks, chars, blank, spelled, rfl⟩
  exact bind_eq_ok_iff.mpr ⟨_, read, rfl⟩

theorem storing_sound (recognizes : reader.Recognizes spells)
    (skipped : ∀ {chars value}, spells chars value → Skipped .value chars) :
    (Field.storing name required reader stored store).Sound := by
  intro draft text next rest read
  obtain ⟨⟨value, after⟩, found, settled⟩ := bind_eq_ok_iff.mp read
  obtain ⟨blanks, chars, blank, spelled, rfl⟩ := recognizes.mp found
  cases settled
  exact ⟨blanks, chars, blank, skipped spelled, storing_takes recognizes spelled, rfl⟩

/-- The characters of a value that could be passed over are taken if they spell a value of the field. -/
theorem storing_takes_iff (recognizes : reader.Recognizes spells)
    (skipped : ∀ {chars value}, spells chars value → Skipped .value chars) (passable : Skipped .value chars) :
    (Field.storing name required reader stored store).Takes draft chars next ↔
      ∃ value, spells chars value ∧ next = store draft value := by
  constructor
  · intro takes
    obtain ⟨⟨value, after⟩, found, settled⟩ := bind_eq_ok_iff.mp (takes blanks_nil ends_nil)
    obtain ⟨blanks, spelling, blank, spelled, same⟩ := recognizes.mp found
    cases settled
    have stops : Stops [] := ends_nil.stops
    obtain ⟨rfl, -⟩ := (skipped spelled).unique blank blanks_nil passable stops stops same.symm
    exact ⟨value, spelled, rfl⟩
  · intro holds
    obtain ⟨value, spelled, rfl⟩ := holds
    exact storing_takes recognizes spelled

theorem fills_storing_iff {fields : List (Field δ)} {key : String} {members : List (String × List Char)} {result : δ}
    (known : fields.find? (·.name == key) = some (.storing name required reader stored store))
    (recognizes : reader.Recognizes spells) (skipped : ∀ {chars value}, spells chars value → Skipped .value chars)
    (passable : Skipped .value chars) : Fills fields draft ((key, chars) :: members) result ↔
      stored draft = none ∧ ∃ value, spells chars value ∧ Fills fields (store draft value) members result := by
  rw [fills_known_iff known, ← Option.isSome_eq_false_iff.trans Option.isNone_iff_eq_none]
  constructor
  · intro holds
    obtain ⟨fresh, next, takes, later⟩ := holds
    obtain ⟨value, spelled, rfl⟩ := (storing_takes_iff recognizes skipped passable).mp takes
    exact ⟨fresh, value, spelled, later⟩
  · intro holds
    obtain ⟨fresh, value, spelled, later⟩ := holds
    exact ⟨fresh, _, storing_takes recognizes spelled, later⟩

end Storing

end WalletCurrencies.Json
