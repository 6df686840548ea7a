import WalletCurrencies.Instant
import WalletCurrencies.Listing.Encode

/-! The catalog of one refresh of the currency list. A record that cannot be used is left out and
remembered with its position and the reason; it never costs the other records. -/

namespace WalletCurrencies

/-- A record that was left out of the catalog. -/
structure Rejection where
  index : Nat
  reason : String
deriving DecidableEq

def Rejection.failure (rejection : Rejection) : Failure :=
  .malformedRecord rejection.index rejection.reason

structure Catalog where
  listings : Index Listing
  rejected : List Rejection
  environment : Environment
  updated : Instant

namespace Catalog

open Json

/-- A catalog under construction, after `read` records. -/
structure Loading where
  read : Nat
  listings : Index Listing
  rejected : List Rejection
  events : List Event

namespace Loading

def start : Loading := ⟨0, ∅, [], []⟩

/-- Of records that decode to one id, the first is kept. -/
def verdict (settings : Settings) (listings : Index Listing) (record : Value) :
    Except Failure Listing × List Event :=
  match Listing.decodeLogged settings record with
  | .error failure => (.error failure, [])
  | .ok (listing, events) =>
    if listings.contains listing.id.text then (.error (.duplicateCurrency listing.id.text), events)
    else (.ok listing, events)

def step (settings : Settings) (loading : Loading) (record : Value) : Loading :=
  match verdict settings loading.listings record with
  | (.ok listing, events) =>
    { loading with
      read := loading.read + 1
      listings := loading.listings.put listing.id.text listing
      events := loading.events ++ events }
  | (.error failure, events) =>
    { loading with
      read := loading.read + 1
      rejected := loading.rejected ++ [⟨loading.read, failure.message⟩]
      events := loading.events ++ events ++ [.droppedRecord loading.read failure] }

end Loading

def ofRecordsLogged (settings : Settings) (now : Instant) (records : List Value) : Catalog × List Event :=
  let loading := records.foldl (Loading.step settings) Loading.start
  (⟨loading.listings, loading.rejected, settings.environment, now⟩,
    loading.events ++
      [.loadedCatalog loading.listings.size loading.rejected.length settings.environment])

def ofRecords (settings : Settings) (now : Instant) (records : List Value) : Catalog :=
  (ofRecordsLogged settings now records).1

/-- Only a document that is no list of records is refused as a whole. -/
def recordsOfJson (text : String) : Except Failure (List Value) :=
  match parse text with
  | .ok (.list records) => .ok records
  | .ok _ => .error (.malformedDocument "expected a list of currencies")
  | .error problem => .error (.malformedDocument problem.message)

/-- A document that is refused as a whole leaves nothing in the log. -/
def ofJsonLogged (settings : Settings) (now : Instant) (text : String) :
    Except Failure Catalog × List Event :=
  match recordsOfJson text with
  | .ok records =>
    let (catalog, events) := ofRecordsLogged settings now records
    (.ok catalog, events)
  | .error failure => (.error failure, [])

def ofJson (settings : Settings) (now : Instant) (text : String) : Except Failure Catalog :=
  (recordsOfJson text).map (ofRecords settings now)

def find? (catalog : Catalog) (id : CurrencyId) : Option Listing := catalog.listings.find? id.text

def contains (catalog : Catalog) (id : CurrencyId) : Bool := catalog.listings.contains id.text

def size (catalog : Catalog) : Nat := catalog.listings.size

/-- The listings in ascending order of their ids. -/
def toList (catalog : Catalog) : List Listing := catalog.listings.values

/-- The listings of bundled currencies. -/
def preferred (catalog : Catalog) : List Listing :=
  catalog.toList.filter (·.isPreferred catalog.environment)

def supersedes (catalog other : Catalog) : Bool := catalog.updated.isAfter other.updated

def toJson (catalog : Catalog) : String :=
  (Value.list (catalog.toList.map fun listing => .object listing.members)).toText

/-- The same listings in the same order, compared in every field. -/
def sameContent (first second : Catalog) : Bool := decide (first.toList = second.toList)

end Catalog

end WalletCurrencies
