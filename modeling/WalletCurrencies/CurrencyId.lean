import WalletCurrencies.Entries
import WalletCurrencies.Text.Cut

/-! Ids of currencies and networks. The id of a currency names its chain, the network of that
chain and an address on it, as in `bitcoin-mainnet:__native__`; an id that does not split into
these parts is still an id. -/

namespace WalletCurrencies

structure NetworkId where
  text : String
deriving DecidableEq

structure CurrencyId where
  text : String
deriving DecidableEq

namespace CurrencyId

/-- The address of a chain's own currency. -/
def nativeAddress : String := "__native__"

structure Parts where
  chain : String
  segment : String
  address : String
deriving DecidableEq

/-- The first colon ends the name of the network, whose last dash ends the name of the chain.
No part may be empty. -/
def split? (text : String) : Option Parts := do
  let (network, address) ← Text.cutAtFirst ':' text.toList
  let (chain, segment) ← Text.cutAtLast '-' network
  if chain.isEmpty || segment.isEmpty || address.isEmpty then none
  else some ⟨String.ofList chain, String.ofList segment, String.ofList address⟩

def join (parts : Parts) : CurrencyId :=
  ⟨parts.chain ++ "-" ++ parts.segment ++ ":" ++ parts.address⟩

def parts? (id : CurrencyId) : Option Parts := split? id.text

def networkId? (id : CurrencyId) : Option NetworkId :=
  id.parts?.map fun parts => ⟨parts.chain ++ "-" ++ parts.segment⟩

/-- The native address counts wherever it stands in the id. -/
def isNative (id : CurrencyId) : Bool := Text.occursIn nativeAddress.toList id.text.toList

/-- The distinct ids in ascending order. -/
def ascending (ids : List CurrencyId) : List CurrencyId :=
  (Entries.ofList (ids.map fun id => (id.text, id))).map (·.2)

end CurrencyId

end WalletCurrencies
