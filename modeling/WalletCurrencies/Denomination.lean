import WalletCurrencies.Text.Case

/-! The denominations in which amounts of a currency are shown, such as satoshi and bitcoin. -/

namespace WalletCurrencies

/-- An amount of one is `10 ^ decimals` of the smallest denomination. -/
structure Denomination where
  name : String
  symbol : String
  decimals : UInt8
deriving DecidableEq

/-- Names that differ only in case name the same denomination. -/
def Denomination.key (denomination : Denomination) : String := Text.lowercase denomination.name

end WalletCurrencies
