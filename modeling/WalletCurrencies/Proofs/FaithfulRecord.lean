import WalletCurrencies.Proofs.RecordTrip

/-! Listings that differ have different records, as texts and as values. A record is read as an entry
from which every field of its listing can be told, also whether an optional one is there. -/

namespace WalletCurrencies.Listing

open Json

variable {first second : Listing}

/-- Agreement of two listings, field by field. -/
structure SameFields (first second : Listing) : Prop where
  id : first.id = second.id
  code : first.code = second.code
  name : first.name = second.name
  isSupported : first.isSupported = second.isSupported
  palette : first.palette = second.palette
  contract : first.contract = second.contract
  decimals : first.decimals = second.decimals
  alternateCode : first.alternateCode = second.alternateCode
  coinGeckoId : first.coinGeckoId = second.coinGeckoId

theorem SameFields.eq (same : SameFields first second) : first = second := by
  cases first
  cases second
  simp only [mk.injEq]
  exact ⟨same.id, same.code, same.name, same.isSupported, same.palette, same.contract, same.decimals,
    same.alternateCode, same.coinGeckoId⟩

theorem SameFields.refl (listing : Listing) : SameFields listing listing :=
  ⟨rfl, rfl, rfl, rfl, rfl, rfl, rfl, rfl, rfl⟩

theorem sameContent_iff : first.sameContent second = true ↔ first = second := decide_eq_true_iff

/-- The colors and the alternate names take a reading of their own, everything else stands in the entry. -/
theorem sameFields_of_entry (same : first.entry = second.entry) : SameFields first second where
  id := congrArg (fun entry : Entry => CurrencyId.mk entry.currencyId) same
  code := congrArg Entry.code same
  name := congrArg Entry.name same
  isSupported := congrArg Entry.isSupported same
  palette := by
    have left : paletteOf first.entry.colors = .ok first.palette := paletteOf_toHexes first.palette
    have right : paletteOf second.entry.colors = .ok second.palette := paletteOf_toHexes second.palette
    rw [same] at left
    exact Except.ok.inj (left.symm.trans right)
  contract := congrArg Entry.contractAddress same
  decimals := congrArg Entry.scale same
  alternateCode := by rw [← find?_cryptoCompareKey_entry first, same, find?_cryptoCompareKey_entry second]
  coinGeckoId := by rw [← find?_coinGeckoKey_entry first, same, find?_coinGeckoKey_entry second]

theorem toValue_inj (same : first.toValue = second.toValue) : first = second := by
  have read := ofValue_toValue first
  rw [same, ofValue_toValue second] at read
  exact (sameFields_of_entry (Except.ok.inj read).symm).eq

theorem toJson_inj (same : first.toJson = second.toJson) : first = second := by
  have read := parse_toJson first
  rw [same, parse_toJson second] at read
  exact toValue_inj (Except.ok.inj read).symm

/-- The fields that a listing need not have. -/
def optionalFields : List (Listing → Option String) := [contract, alternateCode, coinGeckoId]

/-- Nothing in which two listings differ is lost in their records. -/
structure ToldApart (first second : Listing) : Prop where
  content : first.sameContent second = true ↔ SameFields first second
  text : first.sameContent second = true ↔ first.toJson = second.toJson
  value : first.sameContent second = true ↔ first.toValue = second.toValue
  absent : ∀ field ∈ optionalFields, field first = none → ∀ text, field second = some text →
    first.toJson ≠ second.toJson ∧ first.toValue ≠ second.toValue

theorem records_tellApart (first second : Listing) : ToldApart first second where
  content := by
    rw [sameContent_iff]
    refine ⟨?_, SameFields.eq⟩
    rintro rfl
    exact .refl first
  text := sameContent_iff.trans ⟨congrArg toJson, toJson_inj⟩
  value := sameContent_iff.trans ⟨congrArg toValue, toValue_inj⟩
  absent field _ missing text present := by
    have differ : first ≠ second := by
      rintro rfl
      rw [missing] at present
      cases present
    exact ⟨fun same => differ (toJson_inj same), fun same => differ (toValue_inj same)⟩

end WalletCurrencies.Listing
