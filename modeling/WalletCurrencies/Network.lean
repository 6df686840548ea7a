import WalletCurrencies.CurrencyId
import WalletCurrencies.Environment
import WalletCurrencies.Decimal.Whole
import WalletCurrencies.Text.Quoted

/-! The wallet's own handle of a blockchain network. Only the network can tell whether an address
is one of its own. -/

namespace WalletCurrencies

/-- A transaction is final after `confirmations`. -/
structure Network where
  id : NetworkId
  environment : Environment
  confirmations : UInt32
  accepts : String → Bool

namespace Network

def isMainnet (network : Network) : Bool := !network.environment.isTestnet

def environmentTag : Environment → String
  | .mainnet => "Mainnet"
  | .testnet => "Testnet"

/-- The form in which a network appears in diagnostics, without its address rule. -/
def describe (network : Network) : String :=
  "Network \x7b id: NetworkID(" ++ Text.quoted network.id.text ++ "), kind: "
    ++ environmentTag network.environment ++ ", confirmations_until_final: "
    ++ Decimal.whole network.confirmations.toNat ++ " \x7d"

end Network

end WalletCurrencies
