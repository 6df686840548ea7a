import WalletCurrencies.TestNetwork

/-! Currencies that come with the wallet. Each has an id in either environment. -/

namespace WalletCurrencies

inductive Bundled where
  | bitcoin
deriving DecidableEq

namespace Bundled

def all : List Bundled := [.bitcoin]

def code : Bundled → String
  | .bitcoin => "btc"

def chain : Bundled → String
  | .bitcoin => "bitcoin"

def id (bundled : Bundled) : Environment → CurrencyId
  | .mainnet => CurrencyId.join ⟨bundled.chain, CurrencyId.mainSegment, CurrencyId.nativeAddress⟩
  | .testnet =>
    CurrencyId.join ⟨bundled.chain, CurrencyId.testSegmentOf bundled.chain, CurrencyId.nativeAddress⟩

/-- Codes in any ASCII case are found. -/
def ofCode? (code : String) : Option Bundled :=
  all.find? fun bundled => Text.sameUpToAsciiCase bundled.code code

def ofId? (id : CurrencyId) (environment : Environment) : Option Bundled :=
  all.find? fun bundled => bundled.id environment = id

end Bundled

end WalletCurrencies
