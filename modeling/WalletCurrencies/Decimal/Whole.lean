/-! Whole numbers in decimal. -/

namespace WalletCurrencies.Decimal

def whole (value : Int) : String :=
  String.ofList ((if value < 0 then ['-'] else []) ++ Nat.toDigits 10 value.natAbs)

end WalletCurrencies.Decimal
