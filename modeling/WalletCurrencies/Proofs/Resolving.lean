import WalletCurrencies.Proofs.FirstWins
import WalletCurrencies.Proofs.Units

/-! Joining a coin with its listing. A coin and a listing make a currency exactly if they have one
id, and since a catalog files every listing under its own id, it never offers a coin the listing of
another one. -/

namespace WalletCurrencies

namespace Currency

/-- Which coins and listings make a currency, and what is said of those that do not. -/
structure Joins (coin : Coin) (network : Network) (listing : Listing) (units : List Denomination)
    (baseUnit defaultUnit : Denomination) : Prop where
  accepted : (∃ currency, ofParts coin network listing units baseUnit defaultUnit = .ok currency) ↔
    coin.id = listing.id
  refused : coin.id ≠ listing.id → ofParts coin network listing units baseUnit defaultUnit
    = .error (.identityMismatch coin.id.text listing.id.text)

/-- Equal currencies, also in the denominations, which do not take part in the comparison. -/
structure Alike (first second : Currency) : Prop where
  equal : (first == second) = true
  units : first.units = second.units
  baseUnit : first.baseUnit = second.baseUnit
  defaultUnit : first.defaultUnit = second.defaultUnit

theorem alike_refl (currency : Currency) : Alike currency currency :=
  ⟨Bool.and_eq_true_iff.mpr ⟨decide_eq_true rfl, decide_eq_true rfl⟩, rfl, rfl, rfl⟩

variable {coin : Coin} {network : Network} {listing : Listing} {units : List Denomination}
  {baseUnit defaultUnit : Denomination} {currency : Currency}

theorem exists_ofParts_iff :
    (∃ currency, ofParts coin network listing units baseUnit defaultUnit = .ok currency) ↔
      coin.id = listing.id := by
  simp only [ofParts_eq_ok_iff]
  constructor
  · intro fits
    obtain ⟨_, same, -⟩ := fits
    exact same
  · intro same
    exact ⟨_, same, rfl⟩

theorem ofParts_of_differs (differs : coin.id ≠ listing.id) :
    ofParts coin network listing units baseUnit defaultUnit
      = .error (.identityMismatch coin.id.text listing.id.text) := by
  rw [ofParts, dif_neg differs]

theorem ofParts?_of_ok (joined : ofParts coin network listing units baseUnit defaultUnit = .ok currency) :
    ofParts? coin network listing units baseUnit defaultUnit = some currency := by
  rw [ofParts?, joined]
  rfl

theorem coin_listing_of_ok (joined : ofParts coin network listing units baseUnit defaultUnit = .ok currency) :
    currency.coin = coin ∧ currency.listing = listing := by
  obtain ⟨_, rfl⟩ := ofParts_eq_ok_iff.mp joined
  exact ⟨rfl, rfl⟩

end Currency

namespace Catalog

open Json

/-- Every listing is found under its own id. -/
def Filed (catalog : Catalog) : Prop := ∀ id listing, catalog.find? id = some listing → listing.id = id

theorem filed_ofRecords (settings : Settings) (now : Instant) (records : List Value) :
    (ofRecords settings now records).Filed :=
  fun _ _ => id_of_find? settings now records

/-- What a catalog makes of a coin. -/
structure Resolves (catalog : Catalog) (coin : Coin) (network : Network) (units : List Denomination)
    (baseUnit defaultUnit : Denomination) : Prop where
  accepted : (∃ currency, catalog.resolve coin network units baseUnit defaultUnit = .ok currency) ↔
    catalog.contains coin.id = true
  refused : catalog.contains coin.id = false →
    catalog.resolve coin network units baseUnit defaultUnit = .error (.missingListing coin.id.text)
  matched : ∀ own other,
    catalog.resolve coin network units baseUnit defaultUnit ≠ .error (.identityMismatch own other)
  id : ∀ currency, catalog.resolve coin network units baseUnit defaultUnit = .ok currency →
    currency.id = coin.id
  joined : ∀ currency, catalog.resolve coin network units baseUnit defaultUnit = .ok currency →
    ∃ listing joined, catalog.find? coin.id = some listing ∧ currency.listing.sameContent listing = true ∧
      Currency.ofParts coin network listing units baseUnit defaultUnit = .ok joined ∧
      Currency.ofParts? coin network listing units baseUnit defaultUnit = some joined ∧
      Currency.Alike currency joined

/-- The two things that can come of a coin. -/
inductive Resolution (catalog : Catalog) (coin : Coin) (network : Network) (units : List Denomination)
    (baseUnit defaultUnit : Denomination) : Except Failure Currency → Prop where
  | joined {listing currency} (held : catalog.find? coin.id = some listing)
      (built : Currency.ofParts coin network listing units baseUnit defaultUnit = .ok currency) :
      Resolution catalog coin network units baseUnit defaultUnit (.ok currency)
  | missing (absent : catalog.find? coin.id = none) :
      Resolution catalog coin network units baseUnit defaultUnit (.error (.missingListing coin.id.text))

variable {catalog : Catalog}

/-- The ids of a coin and of the listing that is found for it cannot differ. -/
theorem Filed.resolution (filed : catalog.Filed) (coin : Coin) (network : Network) (units : List Denomination)
    (baseUnit defaultUnit : Denomination) :
    Resolution catalog coin network units baseUnit defaultUnit
      (catalog.resolve coin network units baseUnit defaultUnit) := by
  unfold resolve
  cases held : catalog.find? coin.id with
  | none => exact .missing held
  | some listing =>
    have same : coin.id = listing.id := (filed coin.id listing held).symm
    have fits : ∃ currency, Currency.ofParts coin network listing units baseUnit defaultUnit = .ok currency :=
      Currency.exists_ofParts_iff.mpr same
    obtain ⟨currency, built⟩ := fits
    simp only [built]
    exact .joined held built

theorem Filed.resolves (filed : catalog.Filed) (coin : Coin) (network : Network) (units : List Denomination)
    (baseUnit defaultUnit : Denomination) : Resolves catalog coin network units baseUnit defaultUnit := by
  have resolution := filed.resolution coin network units baseUnit defaultUnit
  generalize outcome : catalog.resolve coin network units baseUnit defaultUnit = result at resolution
  cases resolution with
  | @joined listing currency held built =>
    have contained : catalog.contains coin.id = true := Option.isSome_of_eq_some held
    obtain ⟨ownCoin, ownListing⟩ := Currency.coin_listing_of_ok built
    exact {
      accepted := ⟨fun _ => contained, fun _ => ⟨currency, outcome⟩⟩
      refused := fun absent => absurd contained (ne_true_of_eq_false absent)
      matched := fun own other => by simp [outcome]
      id := fun other resolved => by
        cases outcome.symm.trans resolved
        rw [Currency.id, ownListing]
        exact filed coin.id listing held
      joined := fun other resolved => by
        cases outcome.symm.trans resolved
        exact ⟨listing, currency, held, decide_eq_true ownListing, built, Currency.ofParts?_of_ok built,
          Currency.alike_refl currency⟩ }
  | missing absent =>
    have lacking : catalog.contains coin.id = false := by
      change (catalog.find? coin.id).isSome = false
      rw [absent]
      rfl
    exact {
      accepted := by simp [outcome, lacking]
      refused := fun _ => outcome
      matched := fun own other => by simp [outcome]
      id := fun other resolved => nomatch outcome.symm.trans resolved
      joined := fun other resolved => nomatch outcome.symm.trans resolved }

/-- Coins are joined with the listing of their own id or not at all, while coins and listings that
are brought together in another way may differ, and are refused then. -/
theorem resolves_ofRecords :
    (∀ settings now records coin network units baseUnit defaultUnit,
      Resolves (ofRecords settings now records) coin network units baseUnit defaultUnit) ∧
    ∀ coin network listing units baseUnit defaultUnit,
      Currency.Joins coin network listing units baseUnit defaultUnit := by
  refine ⟨?_, ?_⟩
  · intro settings now records
    exact (filed_ofRecords settings now records).resolves
  · intro coin network listing units baseUnit defaultUnit
    exact ⟨Currency.exists_ofParts_iff, Currency.ofParts_of_differs⟩

end Catalog

end WalletCurrencies
