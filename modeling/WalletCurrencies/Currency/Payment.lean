import WalletCurrencies.Currency.Basic
import WalletCurrencies.Uri

/-! Paying in a currency: delivery estimates, payment URIs, pay-ids and sample addresses. -/

namespace WalletCurrencies

/-- An address as a pay-id lookup answers it. -/
structure PayIdAddress where
  paymentNetwork : String
  environment : String
deriving DecidableEq

namespace Currency

/-- Fee levels are economy, regular and priority, from zero; other levels have no text. -/
def deliveryText (currency : Currency) (level : Nat) : String :=
  if 2 < level then ""
  else if currency.isBitcoinCompatible then
    "Estimated Delivery: " ++ match level with
      | 0 => "1-24 hours"
      | 1 => "10-60 minutes"
      | _ => "10-30 minutes"
  else "Processing time: This transaction is predicted to complete in 2-5 minutes."

def uriSchemes (currency : Currency) : List String := if currency.isBitcoin then ["bitcoin"] else []

def isValidAddress (currency : Currency) (address : String) : Bool := currency.network.accepts address

/-- The address stands in the URI as it was given. -/
def paymentUri? (currency : Currency) (address : String) : Option String :=
  match currency.uriSchemes with
  | [scheme] =>
    if currency.isValidAddress address && Uri.isReadable address then some (scheme ++ ":" ++ address)
    else none
  | _ => none

/-- The ticker under which support pages are filed. -/
def supportTicker (currency : Currency) : String :=
  if currency.tokenKind = .erc20 then "erc20" else Text.lowercase currency.code

def payId? (currency : Currency) : Option String :=
  if currency.isBitcoin then some Bundled.bitcoin.code else none

def ownsPayId (currency : Currency) (address : PayIdAddress) : Bool :=
  Text.sameUpToAsciiCase address.environment currency.network.environment.name &&
    match currency.payId? with
    | some code => Text.sameUpToAsciiCase address.paymentNetwork code
    | none => false

def sampleAddress? (currency : Currency) : Option String :=
  if !currency.isBitcoin then none
  else if currency.network.isMainnet then some "bc1qar0srrr7xfkvy5l643lydnw9re59gtzzwf5mdq"
  else some "tb1qw508d6qejxtdg4y5r3zarvary0c5xw7kxpjzsx"

end Currency

end WalletCurrencies
