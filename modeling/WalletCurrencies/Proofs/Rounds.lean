import WalletCurrencies.Json.Reader

/-! Repeated reading without its bound. A run in which every round but the last shortens the text
never meets the bound, so the rounds themselves are all that a later argument has to look at. What
has been read is always explained by such rounds. -/

namespace WalletCurrencies

theorem bind_eq_ok_iff {ε α β : Type} {result : Except ε α} {next : α → Except ε β} {value : β} :
    (result >>= next) = .ok value ↔ ∃ middle, result = .ok middle ∧ next middle = .ok value := by
  cases result <;> simp [bind, Except.bind]

namespace Json.Reader

variable {σ α : Type}

/-- The rounds of a reading that succeeds, from a state and a text to the result and the rest. -/
inductive Loops (round : σ → Reader (Round σ α)) : σ → List Char → α → List Char → Prop where
  | done {state text result rest} (settled : round state text = .ok (.done result, rest)) :
      Loops round state text result rest
  | again {state text next middle result rest} (read : round state text = .ok (.again next, middle))
      (shorter : middle.length < text.length) (left : Loops round next middle result rest) :
      Loops round state text result rest

private theorem rounds_of_loops {round : σ → Reader (Round σ α)} {state : σ} {text rest : List Char} {result : α}
    (loops : Loops round state text result rest) (bound : List Char) (enough : text.length ≤ bound.length) :
    rounds round bound state text = .ok (result, rest) := by
  induction loops generalizing bound with
  | done settled =>
    unfold rounds
    rw [settled]
  | again read shorter left ih =>
    unfold rounds
    rw [read]
    -- The text loses at least one character a round, the bound exactly one.
    cases bound with
    | nil => exact absurd (Nat.lt_of_lt_of_le shorter enough) (Nat.not_lt_zero _)
    | cons c fewer => exact ih fewer (Nat.le_of_lt_succ (Nat.lt_of_lt_of_le shorter enough))

theorem repeated_of_loops {round : σ → Reader (Round σ α)} {state : σ} {text rest : List Char} {result : α}
    (loops : Loops round state text result rest) : repeated round state text = .ok (result, rest) :=
  rounds_of_loops loops text (Nat.le_refl _)

/-- The rounds behind a result, however long they leave the text. -/
inductive Runs (round : σ → Reader (Round σ α)) : σ → List Char → α → List Char → Prop where
  | done {state text result rest} (settled : round state text = .ok (.done result, rest)) :
      Runs round state text result rest
  | again {state text next middle result rest} (read : round state text = .ok (.again next, middle))
      (left : Runs round next middle result rest) : Runs round state text result rest

private theorem runs_of_rounds {round : σ → Reader (Round σ α)} {bound : List Char} {state : σ}
    {text rest : List Char} {result : α} (read : rounds round bound state text = .ok (result, rest)) :
    Runs round state text result rest := by
  induction bound generalizing state text with
  | nil =>
    unfold rounds at read
    split at read
    next => cases read
    next settled =>
      cases read
      exact .done settled
    next => cases read
  | cons c fewer ih =>
    unfold rounds at read
    split at read
    next => cases read
    next settled =>
      cases read
      exact .done settled
    next again => exact .again again (ih read)

theorem runs_of_repeated {round : σ → Reader (Round σ α)} {state : σ} {text rest : List Char} {result : α}
    (read : repeated round state text = .ok (result, rest)) : Runs round state text result rest :=
  runs_of_rounds read

end Json.Reader

end WalletCurrencies
