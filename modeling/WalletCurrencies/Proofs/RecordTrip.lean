import WalletCurrencies.Proofs.ListingRecord

/-! What becomes of a listing that is written and decoded again. It keeps every field but two: its id
is placed in the environment, and a price lookup id that it lacks is filled in. -/

namespace WalletCurrencies.Listing

open Json

variable {settings : Settings} {listing : Listing}

theorem parse_toJson (listing : Listing) : parse listing.toJson = .ok listing.toValue := by
  have fits : (Value.object listing.members).Fits depthLimit := listing.fits_members 125
  rw [toJson, parse_toText fits, readBack_members]

theorem ofJson_toJson (settings : Settings) (listing : Listing) :
    ofJson settings listing.toJson
      = (CurrencyId.inEnvironment listing.id.text settings.environment).map listing.filledIn := by
  rw [← decode_toValue_eq]
  simp only [ofJson, parse_toJson, Except.mapError, bind, Except.bind]

theorem ofJson_toJson_eq_ok_iff {again : Listing} :
    ofJson settings listing.toJson = .ok again ↔
      ∃ id, CurrencyId.inEnvironment listing.id.text settings.environment = .ok id ∧ again = listing.filledIn id := by
  rw [ofJson_toJson]
  cases CurrencyId.inEnvironment listing.id.text settings.environment with
  | error failure => simp [Except.map]
  | ok id => simp [Except.map, eq_comm]

/-- An id is the only thing that can be wrong with a listing's own text. -/
theorem exists_ofJson_toJson_iff :
    (∃ again, ofJson settings listing.toJson = .ok again) ↔
      settings.environment = .mainnet ∨ ∃ parts, listing.id.parts? = some parts := by
  have placed : (∃ again, ofJson settings listing.toJson = .ok again) ↔
      ∃ id, CurrencyId.inEnvironment listing.id.text settings.environment = .ok id := by
    simp only [ofJson_toJson_eq_ok_iff]
    exact ⟨fun ⟨_, id, placed, _⟩ => ⟨id, placed⟩, fun ⟨id, placed⟩ => ⟨_, id, placed, rfl⟩⟩
  rw [placed, CurrencyId.exists_inEnvironment_iff]
  cases settings.environment <;> simp [CurrencyId.parts?]

theorem malformedId_of_ofJson_toJson {failure : Failure}
    (refused : ofJson settings listing.toJson = .error failure) : failure = .malformedId listing.id.text := by
  rw [ofJson_toJson] at refused
  cases placed : CurrencyId.inEnvironment listing.id.text settings.environment with
  | error cause =>
    rw [placed] at refused
    cases refused
    exact (CurrencyId.inEnvironment_eq_error_iff.mp placed).2.2
  | ok id =>
    rw [placed] at refused
    cases refused

/-- Settled listings, and no others, come back as they were. -/
theorem comes_back_iff_settled :
    (∃ again, ofJson settings listing.toJson = .ok again ∧ listing.sameContent again = true) ↔
      Settled settings.environment listing := by
  constructor
  · intro holds
    obtain ⟨again, read, same⟩ := holds
    obtain ⟨id, placed, rfl⟩ := ofJson_toJson_eq_ok_iff.mp read
    obtain ⟨rfl, lookup⟩ := filledIn_eq_self_iff.mp (of_decide_eq_true same).symm
    exact ⟨placed, lookup⟩
  · intro settled
    have same := filledIn_eq_self_iff.mpr ⟨rfl, settled.coinGeckoId⟩
    exact ⟨_, ofJson_toJson_eq_ok_iff.mpr ⟨listing.id, settled.id, rfl⟩, decide_eq_true same.symm⟩

theorem settled_iff {environment : Environment} :
    Settled environment listing ↔
      CurrencyId.inEnvironment listing.id.text environment = .ok listing.id ∧
        (listing.coinGeckoId.isSome = true ∨ PriceId.find? listing.code = none) := by
  have known : (listing.coinGeckoId = none → PriceId.find? listing.code = none) ↔
      (listing.coinGeckoId.isSome = true ∨ PriceId.find? listing.code = none) := by
    cases listing.coinGeckoId <;> simp
  rw [← known]
  exact ⟨fun settled => ⟨settled.id, settled.coinGeckoId⟩, fun holds => ⟨holds.1, holds.2⟩⟩

/-- How a listing comes back from its own text. -/
structure Trip (settings : Settings) (listing : Listing) : Prop where
  text : parse listing.toJson = .ok listing.toValue
  accepted : (∃ again, ofJson settings listing.toJson = .ok again) ↔
    settings.environment = .mainnet ∨ ∃ parts, listing.id.parts? = some parts
  refused : ∀ failure, ofJson settings listing.toJson = .error failure → failure = .malformedId listing.id.text
  content : ∀ again, ofJson settings listing.toJson = .ok again →
    CurrencyId.inEnvironment listing.id.text settings.environment = .ok again.id ∧
      again.coinGeckoId = listing.coinGeckoId.or (PriceId.find? listing.code) ∧
      again = { listing with id := again.id, coinGeckoId := again.coinGeckoId }
  kept : (∃ again, ofJson settings listing.toJson = .ok again ∧ listing.sameContent again = true) ↔
    CurrencyId.inEnvironment listing.id.text settings.environment = .ok listing.id ∧
      (listing.coinGeckoId.isSome = true ∨ PriceId.find? listing.code = none)
  decoded : ∀ origin value, origin.environment = settings.environment → decode origin value = .ok listing →
    ∃ again, ofJson settings listing.toJson = .ok again ∧ listing.sameContent again = true

theorem toJson_trip (settings : Settings) (listing : Listing) : Trip settings listing where
  text := parse_toJson listing
  accepted := exists_ofJson_toJson_iff
  refused _ := malformedId_of_ofJson_toJson
  content again read := by
    obtain ⟨id, placed, rfl⟩ := ofJson_toJson_eq_ok_iff.mp read
    exact ⟨placed, rfl, rfl⟩
  kept := comes_back_iff_settled.trans settled_iff
  decoded origin value same decoded := by
    have settled := settled_of_decode decoded
    rw [same] at settled
    exact comes_back_iff_settled.mpr settled

end WalletCurrencies.Listing
