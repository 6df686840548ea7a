/-! The environment a wallet runs in: with real money on the main networks, or on test networks. -/

namespace WalletCurrencies

inductive Environment where
  | mainnet
  | testnet
deriving DecidableEq

namespace Environment

def name : Environment → String
  | .mainnet => "mainnet"
  | .testnet => "testnet"

def isTestnet (environment : Environment) : Bool := environment = .testnet

end Environment

end WalletCurrencies
