import WalletCurrencies.Json.Printer
import WalletCurrencies.Listing.Decode

/-! Encoding of a listing back into a record of the currency list. -/

namespace WalletCurrencies.Listing

open Json

def alternateNames (listing : Listing) : List (String × Value) :=
  (listing.coinGeckoId.map fun name => (coinGeckoKey, .text name)).toList
    ++ (listing.alternateCode.map fun name => (cryptoCompareKey, .text name)).toList

/-- The members in the order in which they are written. -/
def members (listing : Listing) : List (String × Value) :=
  [("currency_id", .text listing.id.text),
    ("code", .text listing.code),
    ("is_supported", .bool listing.isSupported),
    ("colors", .list (listing.palette.toHexes.map .text)),
    ("name", .text listing.name),
    ("contract_address", listing.contract.elim .null .text),
    ("scale", .ofNat listing.decimals.toNat)]
    ++ if listing.alternateNames.isEmpty then [] else [("alternate_names", .object listing.alternateNames)]

/-- As a value, with the members in the order of their keys. -/
def toValue (listing : Listing) : Value := .object (Entries.ofList listing.members)

def toJson (listing : Listing) : String := (Value.object listing.members).toText

end WalletCurrencies.Listing
