/-! Sets of characters given by spans of code points. -/

namespace WalletCurrencies.Text

/-- Both ends of a span belong to it. -/
def within (spans : List (Nat × Nat)) (c : Char) : Bool :=
  spans.any fun span => span.1 ≤ c.toNat && c.toNat ≤ span.2

end WalletCurrencies.Text
