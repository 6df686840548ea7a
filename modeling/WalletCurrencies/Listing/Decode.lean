import WalletCurrencies.Event
import WalletCurrencies.Json.Document
import WalletCurrencies.Listing.Basic
import WalletCurrencies.Listing.Entry
import WalletCurrencies.PriceId
import WalletCurrencies.Settings

/-! Decoding of a listing. The settings decide which network its id is moved to and whether
unreadable colors refuse the record or are replaced by black. -/

namespace WalletCurrencies.Listing

open Json

/-- The alternate name under which the second price service's ticker is kept. -/
def cryptoCompareKey : String := "cryptocompare"

def coinGeckoKey : String := "coingecko"

def paletteOf : Option Value → Except Failure Palette
  | none => .error (.invalidColors "missing")
  | some (.list items) =>
    match items.mapM Value.text? with
    | some hexes => Palette.ofHexes hexes
    | none => .error (.invalidColors "not a string")
  | some _ => .error (.invalidColors "not a list")

def namedText? (member : String × Value) : Option (String × String) :=
  member.2.text?.map fun name => (member.1, name)

/-- One name that is no text makes all of them void. -/
def alternateNamesOf : Option Value → List (String × String)
  | some (.object members) => (members.mapM namedText?).getD []
  | _ => []

/-- Where the entry has no price lookup id, that of a well-known ticker is taken. -/
def ofEntry (entry : Entry) (id : CurrencyId) (palette : Palette) : Listing :=
  let names := alternateNamesOf entry.alternateNames
  { id, palette
    code := entry.code
    name := entry.name
    isSupported := entry.isSupported
    contract := entry.contractAddress
    decimals := entry.scale
    alternateCode := Entries.find? cryptoCompareKey names
    coinGeckoId := (Entries.find? coinGeckoKey names).or (PriceId.find? entry.code) }

/-- The listing of a record, with what decoding leaves in the log. -/
def decodeLogged (settings : Settings) (value : Value) : Except Failure (Listing × List Event) := do
  let entry ← (Entry.ofValue value).mapError fun mismatch => .undecodableRecord mismatch.message
  let id ← CurrencyId.inEnvironment entry.currencyId settings.environment
  match paletteOf entry.colors with
  | .ok palette => return (ofEntry entry id palette, [])
  | .error failure =>
    if settings.strict then throw (.invalidColors id.text)
    else return (ofEntry entry id .black, [.blackedOutColors id failure])

def decode (settings : Settings) (value : Value) : Except Failure Listing :=
  (decodeLogged settings value).map (·.1)

def ofJson (settings : Settings) (text : String) : Except Failure Listing := do
  let value ← (parse text).mapError fun problem => .undecodableRecord problem.message
  decode settings value

end WalletCurrencies.Listing
