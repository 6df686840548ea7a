import WalletCurrencies.Bundled
import WalletCurrencies.Color
import WalletCurrencies.Unset

/-! A listing is what the remote currency list says about one currency: its names, its colors,
whether it is still supported, and the codes other services know it by. -/

namespace WalletCurrencies

structure Listing where
  id : CurrencyId
  code : String
  name : String
  isSupported : Bool
  palette : Palette
  contract : Option String
  decimals : UInt8
  /-- The ticker of the second price service, where it differs. -/
  alternateCode : Option String
  coinGeckoId : Option String
deriving DecidableEq

namespace Listing

/-- Listings are compared by id alone. -/
instance : BEq Listing where
  beq first second := decide (first.id = second.id)

def sameContent (first second : Listing) : Bool := decide (first = second)

/-- What a hash of a listing is taken of. -/
def hashed (listing : Listing) : List String := [listing.id.text]

/-- The token kind in the spelling the wallet uses. -/
def kindTag (listing : Listing) : String := if listing.id.isNative then "NATIVE" else "ERC20"

/-- Bundled currencies are preferred. -/
def isPreferred (listing : Listing) (environment : Environment) : Bool :=
  (Bundled.ofId? listing.id environment).isSome

structure Draft where
  id : Option CurrencyId
  code : Option String
  name : Option String
  isSupported : Option Bool
  palette : Option Palette
  contract : Option String
  decimals : Option UInt8
  alternateCode : Option String
  coinGeckoId : Option String

/-- The first field without content is reported; the optional ones may stay empty. -/
def Draft.complete (draft : Draft) : Except Unset Listing := do
  let id ← Unset.required "uid" draft.id
  let code ← Unset.required "code" draft.code
  let name ← Unset.required "name" draft.name
  let isSupported ← Unset.required "is_supported" draft.isSupported
  let palette ← Unset.required "colors" draft.palette
  let decimals ← Unset.required "decimals" draft.decimals
  return ⟨id, code, name, isSupported, palette, draft.contract, decimals, draft.alternateCode,
    draft.coinGeckoId⟩

end Listing

end WalletCurrencies
