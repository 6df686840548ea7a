import WalletCurrencies.Currency.Payment
import WalletCurrencies.Proofs.CatalogIds
import WalletCurrencies.Proofs.EntryFields
import WalletCurrencies.Proofs.Relocation
import WalletCurrencies.Proofs.Resolving

/-! Which listings and which currencies are bitcoin, the bundled one. A catalog holds it once or not
at all, and holds it exactly if its list names it by one of a few texts. Whatever is asked of a
currency of the catalog, the answer rests on nothing else but whether it is bitcoin. -/

namespace WalletCurrencies

open Json

namespace Bundled

/-- The texts by which a list can name bitcoin. -/
def bitcoinTexts : Environment → List String
  | .mainnet => ["bitcoin-mainnet:__native__"]
  | .testnet => ["bitcoin-mainnet:__native__", "bitcoin-testnet:__native__"]

/-- The parts of the id of bitcoin on the test network. -/
def bitcoinPlace : CurrencyId.Parts :=
  ⟨bitcoin.chain, CurrencyId.testSegmentOf bitcoin.chain, CurrencyId.nativeAddress⟩

private theorem bitcoinPlace_proper : bitcoinPlace.Proper := by
  have split : CurrencyId.split? "bitcoin-testnet:__native__" = some bitcoinPlace := by decide
  exact (CurrencyId.split?_eq_some_iff.mp split).2

theorem inEnvironment_eq_bitcoin_iff {text : String} {environment : Environment} :
    CurrencyId.inEnvironment text environment = .ok (bitcoin.id environment) ↔
      text ∈ bitcoinTexts environment := by
  cases environment with
  | mainnet =>
    have named : bitcoin.id .mainnet = ⟨"bitcoin-mainnet:__native__"⟩ := by decide
    simp [CurrencyId.inEnvironment, named, bitcoinTexts]
  | testnet =>
    have unknown : ∀ contract ∈ CurrencyId.testContracts, contract.2 ≠ bitcoinPlace.address ∧
        Text.sameUpToAsciiCase contract.1 bitcoinPlace.address = false := by decide
    have main : (CurrencyId.join { bitcoinPlace with segment := CurrencyId.mainSegment }).text
        = "bitcoin-mainnet:__native__" := by decide
    have test : (CurrencyId.join { bitcoinPlace with segment := CurrencyId.commonTestSegment }).text
        = "bitcoin-testnet:__native__" := by decide
    have own : CurrencyId.testSegmentOf bitcoinPlace.chain = CurrencyId.commonTestSegment := by decide
    have place : bitcoin.id .testnet = CurrencyId.join bitcoinPlace := rfl
    rw [place, CurrencyId.inEnvironment_eq_join_iff bitcoinPlace_proper rfl unknown]
    simp [own, main, test, bitcoinTexts]

end Bundled

namespace Listing

variable {settings : Settings} {record : Value} {listing : Listing}

theorem isPreferred_iff {environment : Environment} :
    listing.isPreferred environment = true ↔ listing.id = Bundled.bitcoin.id environment := by
  rw [isPreferred, Bundled.ofId?, Bundled.all, List.find?_singleton]
  by_cases same : listing.id = Bundled.bitcoin.id environment
  · simp [same]
  · simp [same, Ne.symm same]

/-- A listing is that of bitcoin exactly if its record names it so. -/
theorem id_eq_bitcoin_iff (decoded : decode settings record = .ok listing) :
    listing.id = Bundled.bitcoin.id settings.environment ↔
      ∃ text ∈ Bundled.bitcoinTexts settings.environment, Field.currencyId.of? record = some (.text text) := by
  obtain ⟨entry, palette, read, placed, -⟩ := exists_entry_of_decode decoded
  have held : Field.currencyId.of? record = some (.text entry.currencyId) :=
    (Entry.describes_of_read read).currencyId
  constructor
  · intro same
    rw [same] at placed
    exact ⟨entry.currencyId, Bundled.inEnvironment_eq_bitcoin_iff.mp placed, held⟩
  · intro holds
    obtain ⟨text, listed, named⟩ := holds
    rw [held] at named
    cases named
    have reached := Bundled.inEnvironment_eq_bitcoin_iff.mpr listed
    rw [placed] at reached
    exact Except.ok.inj reached

end Listing

namespace Currency

variable {currency : Currency}

/-- What the wallet says of transactions that take as long as those of bitcoin. -/
def DeliveryEstimate (text : String) : Prop := ∃ time, text = "Estimated Delivery: " ++ time

/-- What it says of all others. -/
def processingText : String := "Processing time: This transaction is predicted to complete in 2-5 minutes."

theorem not_deliveryEstimate_processingText : ¬ DeliveryEstimate processingText := by
  intro estimate
  obtain ⟨time, same⟩ := estimate
  have first := congrArg (fun text => text.toList.head?) same
  simp [processingText] at first

theorem deliveryText_of_isBitcoin (known : currency.isBitcoin = true) {level : Nat} (inside : level ≤ 2) :
    DeliveryEstimate (currency.deliveryText level) := by
  unfold deliveryText
  rw [if_neg (Nat.not_lt.mpr inside), isBitcoinCompatible, if_pos known]
  exact ⟨_, rfl⟩

theorem deliveryText_of_not_isBitcoin (other : currency.isBitcoin = false) {level : Nat} (inside : level ≤ 2) :
    currency.deliveryText level = processingText := by
  unfold deliveryText
  rw [if_neg (Nat.not_lt.mpr inside), isBitcoinCompatible, other]
  rfl

theorem deliveryEstimate_iff {level : Nat} (inside : level ≤ 2) :
    DeliveryEstimate (currency.deliveryText level) ↔ currency.isBitcoin = true := by
  constructor
  · intro estimate
    apply Bool.of_not_eq_false
    intro other
    rw [deliveryText_of_not_isBitcoin other inside] at estimate
    exact not_deliveryEstimate_processingText estimate
  · exact fun known => deliveryText_of_isBitcoin known inside

theorem deliveryText_eq_processingText_iff {level : Nat} (inside : level ≤ 2) :
    currency.deliveryText level = processingText ↔ currency.isBitcoin = false := by
  constructor
  · intro same
    apply Bool.eq_false_iff.mpr
    intro known
    have estimate := deliveryText_of_isBitcoin known inside
    rw [same] at estimate
    exact not_deliveryEstimate_processingText estimate
  · exact fun other => deliveryText_of_not_isBitcoin other inside

theorem uriSchemes_eq_iff : currency.uriSchemes = ["bitcoin"] ↔ currency.isBitcoin = true := by
  rw [uriSchemes]
  cases currency.isBitcoin <;> simp

theorem payId?_eq_iff : currency.payId? = some "btc" ↔ currency.isBitcoin = true := by
  rw [payId?]
  cases currency.isBitcoin <;> simp [Bundled.code]

theorem exists_sampleAddress?_iff :
    (∃ address, currency.sampleAddress? = some address) ↔ currency.isBitcoin = true := by
  rw [sampleAddress?]
  cases currency.isBitcoin with
  | false => simp
  | true => cases currency.network.isMainnet <;> simp

/-- All answers that depend on whether a currency is bitcoin. -/
structure AgreesOnBitcoin (catalog : Catalog) (currency : Currency) : Prop where
  preferred : currency.listing ∈ catalog.preferred ↔ currency.isBitcoin = true
  compatible : currency.isBitcoinCompatible = true ↔ currency.isBitcoin = true
  schemes : currency.uriSchemes = ["bitcoin"] ↔ currency.isBitcoin = true
  payId : currency.payId? = some "btc" ↔ currency.isBitcoin = true
  sample : (∃ address, currency.sampleAddress? = some address) ↔ currency.isBitcoin = true
  estimate : ∀ level ≤ 2, DeliveryEstimate (currency.deliveryText level) ↔ currency.isBitcoin = true
  processing : ∀ level ≤ 2, currency.deliveryText level = processingText ↔ currency.isBitcoin = false

end Currency

namespace Catalog

/-- What a catalog has to do with bitcoin, and the list it was made from. -/
structure KnowsBitcoin (settings : Settings) (records : List Value) (catalog : Catalog) : Prop where
  single : catalog.preferred.length ≤ 1
  listed : catalog.preferred ≠ [] ↔
    ∃ record ∈ records, (∃ listing, Listing.decode settings record = .ok listing) ∧
      ∃ text ∈ Bundled.bitcoinTexts settings.environment,
        Listing.Field.currencyId.of? record = some (.text text)
  resolved : ∀ coin network units baseUnit defaultUnit currency,
    catalog.resolve coin network units baseUnit defaultUnit = .ok currency →
    network.environment = catalog.environment → Currency.AgreesOnBitcoin catalog currency

variable (settings : Settings) (now : Instant) (records : List Value)

theorem mem_preferred_iff {listing : Listing} :
    listing ∈ (ofRecords settings now records).preferred ↔
      listing ∈ (ofRecords settings now records).toList ∧
        listing.id = Bundled.bitcoin.id settings.environment := by
  rw [preferred, List.mem_filter, Listing.isPreferred_iff]
  rfl

theorem length_preferred_le_one : (ofRecords settings now records).preferred.length ≤ 1 := by
  have distinct : ((ofRecords settings now records).preferred.map (·.id)).Nodup :=
    (nodup_ids_toList settings now records).sublist (List.filter_sublist.map _)
  have alike : (ofRecords settings now records).preferred.map (·.id)
      ⊆ [Bundled.bitcoin.id settings.environment] := by
    intro id member
    obtain ⟨listing, inside, rfl⟩ := List.mem_map.mp member
    exact List.mem_singleton.mpr ((mem_preferred_iff settings now records).mp inside).2
  simpa using distinct.length_le_of_subset alike

/-- Which of the records with that name is kept does not matter here. -/
theorem preferred_ne_nil_iff :
    (ofRecords settings now records).preferred ≠ [] ↔
      ∃ record ∈ records, (∃ listing, Listing.decode settings record = .ok listing) ∧
        ∃ text ∈ Bundled.bitcoinTexts settings.environment,
          Listing.Field.currencyId.of? record = some (.text text) := by
  have held : (ofRecords settings now records).preferred ≠ [] ↔
      (ofRecords settings now records).contains (Bundled.bitcoin.id settings.environment) = true := by
    rw [contains_iff_mem_ids, List.mem_map]
    constructor
    · intro nonempty
      obtain ⟨listing, member⟩ := List.exists_mem_of_ne_nil _ nonempty
      exact ⟨listing, (mem_preferred_iff settings now records).mp member⟩
    · intro holds
      obtain ⟨listing, inside⟩ := holds
      exact List.ne_nil_of_mem ((mem_preferred_iff settings now records).mpr inside)
  rw [held, contains_iff_mem_usable, List.mem_map]
  simp only [mem_usable]
  constructor
  · intro holds
    obtain ⟨listing, ⟨record, inside, decoded⟩, same⟩ := holds
    exact ⟨record, inside, ⟨listing, decoded⟩, (Listing.id_eq_bitcoin_iff decoded).mp same⟩
  · intro holds
    obtain ⟨record, inside, ⟨listing, decoded⟩, named⟩ := holds
    exact ⟨listing, ⟨record, inside, decoded⟩, (Listing.id_eq_bitcoin_iff decoded).mpr named⟩

/-- The network of the coin has to be one of the catalog's environment, as the id of bitcoin is
another one in each. -/
theorem mem_preferred_iff_isBitcoin {coin : Coin} {network : Network} {units : List Denomination}
    {baseUnit defaultUnit : Denomination} {currency : Currency}
    (resolved : (ofRecords settings now records).resolve coin network units baseUnit defaultUnit = .ok currency)
    (sameEnvironment : network.environment = settings.environment) :
    currency.listing ∈ (ofRecords settings now records).preferred ↔ currency.isBitcoin = true := by
  have resolution := (filed_ofRecords settings now records).resolution coin network units baseUnit defaultUnit
  rw [resolved] at resolution
  cases resolution with
  | @joined listing _ held built =>
    obtain ⟨same, rfl⟩ := Currency.ofParts_eq_ok_iff.mp built
    have inside := ((find?_eq_some_iff settings now records).mp held).1
    rw [mem_preferred_iff, Currency.isBitcoin, Currency.id, sameEnvironment, decide_eq_true_iff]
    exact and_iff_right inside

/-- The bundled currency is found in every catalog whose list names it, and only there, and it is
treated as such wherever it matters. -/
theorem ofRecords_knowsBitcoin : KnowsBitcoin settings records (ofRecords settings now records) where
  single := length_preferred_le_one settings now records
  listed := preferred_ne_nil_iff settings now records
  resolved _ _ _ _ _ _ resolved sameEnvironment := {
    preferred := mem_preferred_iff_isBitcoin settings now records resolved sameEnvironment
    compatible := Iff.rfl
    schemes := Currency.uriSchemes_eq_iff
    payId := Currency.payId?_eq_iff
    sample := Currency.exists_sampleAddress?_iff
    estimate := fun _ inside => Currency.deliveryEstimate_iff inside
    processing := fun _ inside => Currency.deliveryText_eq_processingText_iff inside }

/-- Both texts name one currency on the test network, and the later of two records is left out. -/
example :
    (ofRecords .testnet ⟨0, 0⟩
      (["bitcoin-testnet:__native__", "bitcoin-mainnet:__native__"].map fun text =>
        .object (Entries.put "currency_id" (.text text) breadMembers))).preferred.map (·.id.text)
      = ["bitcoin-testnet:__native__"] := by
  decide

end Catalog

end WalletCurrencies
