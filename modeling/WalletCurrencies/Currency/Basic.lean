import WalletCurrencies.Catalog
import WalletCurrencies.Coin
import WalletCurrencies.Denomination
import WalletCurrencies.Network
import WalletCurrencies.TokenKind

/-! A currency joins the wallet's coin with its listing and its denominations. -/

namespace WalletCurrencies

/-- The coin and the listing speak of one currency. Denominations are kept by key. -/
structure Currency where
  coin : Coin
  network : Network
  listing : Listing
  baseUnit : Denomination
  defaultUnit : Denomination
  units : Index Denomination
  sameId : coin.id = listing.id

namespace Currency

/-- Of given denominations with one key the last is kept; the base and the default one are
added, in this order, where their keys are free. -/
def unitIndex (given : List Denomination) (baseUnit defaultUnit : Denomination) : Index Denomination :=
  let index := given.foldl (fun (index : Index Denomination) unit => index.put unit.key unit) ∅
  (index.putIfAbsent baseUnit.key baseUnit).putIfAbsent defaultUnit.key defaultUnit

def ofParts (coin : Coin) (network : Network) (listing : Listing) (units : List Denomination)
    (baseUnit defaultUnit : Denomination) : Except Failure Currency :=
  if sameId : coin.id = listing.id then
    .ok ⟨coin, network, listing, baseUnit, defaultUnit, unitIndex units baseUnit defaultUnit, sameId⟩
  else .error (.identityMismatch coin.id.text listing.id.text)

/-- The same without the reason why the parts do not fit. -/
def ofParts? (coin : Coin) (network : Network) (listing : Listing) (units : List Denomination)
    (baseUnit defaultUnit : Denomination) : Option Currency :=
  (ofParts coin network listing units baseUnit defaultUnit).toOption

def id (currency : Currency) : CurrencyId := currency.listing.id

/-- The ticker in upper case. It comes from the coin, not from the listing. -/
def code (currency : Currency) : String := Text.uppercase currency.coin.code

def tokenKind (currency : Currency) : TokenKind := .ofText currency.coin.kind

/-- The network, the units and the address rule do not take part in the comparison. -/
instance : BEq Currency where
  beq first second := decide (first.coin = second.coin) && first.listing.sameContent second.listing

/-- What a hash of a currency is taken of. -/
def hashed (currency : Currency) : List String :=
  [currency.coin.id.text, currency.coin.code, currency.coin.name, currency.coin.kind]
    ++ currency.listing.hashed

/-- Whether a payment request for another currency can be paid with this one. -/
def acceptsRequestFor (currency other : Currency) : Bool := currency == other

/-- The ticker for the second price service. -/
def secondTicker (currency : Currency) : String :=
  match currency.listing.alternateCode with
  | some code => Text.uppercase code
  | none => currency.code

def isBitcoin (currency : Currency) : Bool := currency.id = Bundled.bitcoin.id currency.network.environment

/-- Whether transactions take as long as those of bitcoin. -/
def isBitcoinCompatible (currency : Currency) : Bool := currency.isBitcoin

end Currency

/-- The currency of a coin that has a listing in the catalog. -/
def Catalog.resolve (catalog : Catalog) (coin : Coin) (network : Network) (units : List Denomination)
    (baseUnit defaultUnit : Denomination) : Except Failure Currency :=
  match catalog.find? coin.id with
  | some listing => Currency.ofParts coin network listing units baseUnit defaultUnit
  | none => .error (.missingListing coin.id.text)

end WalletCurrencies
