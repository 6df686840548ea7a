import WalletCurrencies.Proofs.CatalogIds

/-! One list loaded for the main networks and for the test networks. The second load may keep other
records than the first, as distinct ids can move to one, but its ids are those of the first, moved. -/

namespace WalletCurrencies

open Json

/-- The environment of a load matters to the ids alone. -/
theorem Listing.decode_testnet_eq_ok_iff {strict : Bool} (mainIcons testIcons : Bool) {record : Value}
    {moved : Listing} :
    decode ⟨.testnet, strict, testIcons⟩ record = .ok moved ↔
      ∃ listing id, decode ⟨.mainnet, strict, mainIcons⟩ record = .ok listing ∧
        CurrencyId.inEnvironment listing.id.text .testnet = .ok id ∧ moved = { listing with id } := by
  constructor
  · intro decoded
    obtain ⟨entry, id, palette, read, placed, colors, rfl⟩ := decode_eq_ok_iff.mp decoded
    have main : decode ⟨.mainnet, strict, mainIcons⟩ record = .ok (ofEntry entry ⟨entry.currencyId⟩ palette) :=
      decode_eq_ok_iff.mpr ⟨entry, _, palette, read, rfl, colors, rfl⟩
    exact ⟨_, id, main, placed, rfl⟩
  · intro holds
    obtain ⟨listing, id, decoded, placed, rfl⟩ := holds
    obtain ⟨entry, own, palette, read, same, colors, rfl⟩ := decode_eq_ok_iff.mp decoded
    cases same
    exact decode_eq_ok_iff.mpr ⟨entry, id, palette, read, placed, colors, rfl⟩

namespace Catalog

/-- What the catalog of the test networks is to that of the main networks. -/
structure TestnetImage (main test : Catalog) : Prop where
  ids : ∀ id, test.contains id = true ↔
    ∃ origin, main.contains origin = true ∧ CurrencyId.inEnvironment origin.text .testnet = .ok id
  size : test.size ≤ main.size
  represented : ∀ listing ∈ main.toList, ∀ parts, listing.id.parts? = some parts →
    ∃ moved ∈ test.toList, CurrencyId.inEnvironment listing.id.text .testnet = .ok moved.id
  originated : ∀ moved ∈ test.toList,
    ∃ listing ∈ main.toList, CurrencyId.inEnvironment listing.id.text .testnet = .ok moved.id

variable (strict mainIcons testIcons : Bool) (now later : Instant) (records : List Value)

theorem mem_usable_testnet_iff (id : CurrencyId) :
    id ∈ (usable ⟨.testnet, strict, testIcons⟩ records).map (·.id) ↔
      ∃ origin ∈ (usable ⟨.mainnet, strict, mainIcons⟩ records).map (·.id),
        CurrencyId.inEnvironment origin.text .testnet = .ok id := by
  simp only [List.mem_map, mem_usable]
  constructor
  · intro holds
    obtain ⟨moved, ⟨record, inside, decoded⟩, rfl⟩ := holds
    obtain ⟨listing, id, main, placed, rfl⟩ :=
      (Listing.decode_testnet_eq_ok_iff mainIcons testIcons).mp decoded
    exact ⟨listing.id, ⟨listing, ⟨record, inside, main⟩, rfl⟩, placed⟩
  · intro holds
    obtain ⟨_, ⟨listing, ⟨record, inside, main⟩, rfl⟩, placed⟩ := holds
    have decoded := (Listing.decode_testnet_eq_ok_iff mainIcons testIcons).mpr ⟨listing, id, main, placed, rfl⟩
    exact ⟨_, ⟨record, inside, decoded⟩, rfl⟩

theorem contains_testnet_iff (id : CurrencyId) :
    (ofRecords ⟨.testnet, strict, testIcons⟩ later records).contains id = true ↔
      ∃ origin, (ofRecords ⟨.mainnet, strict, mainIcons⟩ now records).contains origin = true ∧
        CurrencyId.inEnvironment origin.text .testnet = .ok id := by
  simp only [contains_iff_mem_usable, mem_usable_testnet_iff strict mainIcons testIcons records id]

theorem contains_of_mem_toList {settings : Settings} {listing : Listing}
    (member : listing ∈ (ofRecords settings now records).toList) :
    (ofRecords settings now records).contains listing.id = true :=
  (contains_iff_mem_ids settings now records).mpr (List.mem_map_of_mem member)

/-- Every id of the second catalog is moved from an id of the first, and none moves to two. -/
theorem size_testnet_le :
    (ofRecords ⟨.testnet, strict, testIcons⟩ later records).size
      ≤ (ofRecords ⟨.mainnet, strict, mainIcons⟩ now records).size := by
  let main := ofRecords ⟨.mainnet, strict, mainIcons⟩ now records
  have moved : ∀ id, (ofRecords ⟨.testnet, strict, testIcons⟩ later records).contains id = true →
      id ∈ (main.toList.map (·.id)).filterMap fun origin =>
        (CurrencyId.inEnvironment origin.text .testnet).toOption := by
    intro id held
    obtain ⟨origin, kept, placed⟩ :=
      (contains_testnet_iff strict mainIcons testIcons now later records id).mp held
    refine List.mem_filterMap.mpr ⟨origin, (contains_iff_mem_ids _ now records).mp kept, ?_⟩
    rw [placed]
    rfl
  calc
    _ ≤ _ := size_le_length_of_contains _ later records moved
    _ ≤ (main.toList.map (·.id)).length := List.length_filterMap_le _ _
    _ = main.size := length_ids_toList main

/-- Whichever of the records with one id a load keeps, the ids of the two loads correspond. -/
theorem ofRecords_testnetImage :
    TestnetImage (ofRecords ⟨.mainnet, strict, mainIcons⟩ now records)
      (ofRecords ⟨.testnet, strict, testIcons⟩ later records) where
  ids := contains_testnet_iff strict mainIcons testIcons now later records
  size := size_testnet_le strict mainIcons testIcons now later records
  represented listing member parts split := by
    have movable : ∃ id, CurrencyId.inEnvironment listing.id.text .testnet = .ok id :=
      CurrencyId.exists_inEnvironment_iff.mpr fun _ => ⟨parts, split⟩
    obtain ⟨id, placed⟩ := movable
    have held := (contains_testnet_iff strict mainIcons testIcons now later records id).mpr
      ⟨listing.id, contains_of_mem_toList now records member, placed⟩
    obtain ⟨moved, inside, rfl⟩ := exists_mem_toList_of_contains held
    exact ⟨moved, inside, placed⟩
  originated moved member := by
    have held := contains_of_mem_toList later records member
    obtain ⟨origin, kept, placed⟩ :=
      (contains_testnet_iff strict mainIcons testIcons now later records moved.id).mp held
    obtain ⟨listing, inside, rfl⟩ := exists_mem_toList_of_contains kept
    exact ⟨listing, inside, placed⟩

end Catalog

end WalletCurrencies
