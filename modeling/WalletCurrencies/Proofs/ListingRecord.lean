import WalletCurrencies.Listing.Encode
import WalletCurrencies.Proofs.ColorHex
import WalletCurrencies.Proofs.Decoding
import WalletCurrencies.Proofs.Entries
import WalletCurrencies.Proofs.EntryFields
import WalletCurrencies.Proofs.PrintedValue

/-! The record of a listing decodes to that listing again, provided that the listing is settled:
its id stays where it is, and no price lookup id is known that it does not have. -/

namespace WalletCurrencies.Listing

open Json

theorem keys_members_nodup (listing : Listing) : (listing.members.map (·.1)).Nodup := by
  unfold members
  split
  all_goals simp

theorem alternateNames_ascending (listing : Listing) : Entries.Ascending listing.alternateNames := by
  unfold alternateNames
  cases listing.coinGeckoId with
  | none => cases listing.alternateCode <;> simp [Entries.Ascending]
  | some lookup =>
    cases listing.alternateCode with
    | none => simp [Entries.Ascending]
    | some ticker =>
      have before : coinGeckoKey < cryptoCompareKey := by decide
      simpa [Entries.Ascending] using before

/-- The entry that the record of a listing is read as. -/
def entry (listing : Listing) : Entry where
  currencyId := listing.id.text
  code := listing.code
  isSupported := listing.isSupported
  colors := some (.list (listing.palette.toHexes.map .text))
  name := listing.name
  contractAddress := listing.contract
  scale := listing.decimals
  alternateNames := if listing.alternateNames.isEmpty then none else some (.object listing.alternateNames)

theorem find?_alternate_names (listing : Listing) :
    Entry.present (Entries.find? "alternate_names" listing.members) = listing.entry.alternateNames := by
  by_cases bare : listing.alternateNames = [] <;> simp [members, entry, Entries.find?, Entry.present, bare]

theorem ofValue_toValue (listing : Listing) : Entry.ofValue listing.toValue = .ok listing.entry := by
  have held (field : Field) : field.of? listing.toValue = Entries.find? field.key listing.members :=
    Entries.find?_ofList listing.keys_members_nodup field.key
  refine Entry.ofValue_eq_ok_iff.mpr ⟨nofun, ?_⟩
  simp only [held]
  exact {
    currencyId := rfl
    code := rfl
    name := rfl
    isSupported := rfl
    contractAddress := rfl
    scale := rfl
    colors := rfl
    alternateNames := listing.find?_alternate_names.symm }

theorem paletteOf_toHexes (palette : Palette) : paletteOf (some (.list (palette.toHexes.map .text))) = .ok palette :=
  palette.ofHexes_toHexes

theorem alternateNamesOf_entry (listing : Listing) :
    alternateNamesOf listing.entry.alternateNames
      = (listing.coinGeckoId.map fun name => (coinGeckoKey, name)).toList
        ++ (listing.alternateCode.map fun name => (cryptoCompareKey, name)).toList := by
  unfold entry alternateNames
  cases listing.coinGeckoId <;> cases listing.alternateCode <;> rfl

/-- A price lookup id that is missing is filled in where one is known. -/
def filledIn (listing : Listing) (id : CurrencyId) : Listing :=
  { listing with id, coinGeckoId := listing.coinGeckoId.or (PriceId.find? listing.code) }

theorem find?_cryptoCompareKey_entry (listing : Listing) :
    Entries.find? cryptoCompareKey (alternateNamesOf listing.entry.alternateNames) = listing.alternateCode := by
  rw [alternateNamesOf_entry]
  cases listing.coinGeckoId <;> cases listing.alternateCode <;> rfl

theorem find?_coinGeckoKey_entry (listing : Listing) :
    Entries.find? coinGeckoKey (alternateNamesOf listing.entry.alternateNames) = listing.coinGeckoId := by
  rw [alternateNamesOf_entry]
  cases listing.coinGeckoId <;> cases listing.alternateCode <;> rfl

theorem ofEntry_entry (listing : Listing) (id : CurrencyId) :
    ofEntry listing.entry id listing.palette = listing.filledIn id := by
  simp only [ofEntry, find?_cryptoCompareKey_entry, find?_coinGeckoKey_entry]
  rfl

theorem filledIn_eq_self_iff {listing : Listing} {id : CurrencyId} :
    listing.filledIn id = listing ↔
      id = listing.id ∧ (listing.coinGeckoId = none → PriceId.find? listing.code = none) := by
  obtain ⟨own, code, name, isSupported, palette, contract, decimals, alternateCode, coinGeckoId⟩ := listing
  cases coinGeckoId <;> simp [filledIn]

/-- No setting but the environment matters to a record that was printed. -/
theorem decode_toValue_eq (settings : Settings) (listing : Listing) :
    decode settings listing.toValue
      = (CurrencyId.inEnvironment listing.id.text settings.environment).map listing.filledIn := by
  cases placed : CurrencyId.inEnvironment listing.id.text settings.environment with
  | error failure => exact decode_of_unplaced listing.ofValue_toValue placed
  | ok id =>
    rw [decode_of_entry listing.ofValue_toValue placed (paletteOf_toHexes listing.palette), ofEntry_entry]
    rfl

theorem decode_toValue {settings : Settings} {listing : Listing}
    (settled : Settled settings.environment listing) : decode settings listing.toValue = .ok listing := by
  have same := filledIn_eq_self_iff.mpr ⟨rfl, settled.coinGeckoId⟩
  rw [decode_toValue_eq, settled.id, Except.map, same]

theorem forall_alternateNames (holds : Value → Prop) (text : ∀ name, holds (.text name)) (listing : Listing) :
    ∀ member ∈ listing.alternateNames, holds member.2 := by
  intro member inside
  rcases List.mem_append.mp inside with lookup | ticker
  · obtain ⟨name, -, rfl⟩ := Option.map_eq_some_iff.mp (Option.mem_toList.mp lookup)
    exact text name
  · obtain ⟨name, -, rfl⟩ := Option.map_eq_some_iff.mp (Option.mem_toList.mp ticker)
    exact text name

/-- Every value that occurs in the record of a listing. -/
theorem forall_members (holds : Value → Prop) (text : ∀ text, holds (.text text))
    (bool : ∀ bool, holds (.bool bool)) (null : holds .null) (byte : ∀ byte : UInt8, holds (.ofNat byte.toNat))
    (colors : ∀ palette : Palette, holds (.list (palette.toHexes.map .text))) (listing : Listing)
    (names : holds (.object listing.alternateNames)) : ∀ member ∈ listing.members, holds member.2 := by
  intro member inside
  rcases List.mem_append.mp inside with always | named
  · simp only [List.mem_cons, List.not_mem_nil, or_false] at always
    rcases always with rfl | rfl | rfl | rfl | rfl | rfl | rfl
    · exact text listing.id.text
    · exact text listing.code
    · exact bool listing.isSupported
    · exact colors listing.palette
    · exact text listing.name
    · cases contract : listing.contract with
      | none => exact null
      | some address => exact text address
    · exact byte listing.decimals
  · split at named
    next => cases named
    next =>
      rw [List.mem_singleton.mp named]
      exact names

theorem fits_members (listing : Listing) (depth : Nat) : (Value.object listing.members).Fits (depth + 2) := by
  have text (depth : Nat) (text : String) : (Value.text text).Fits depth := by simp [Value.Fits]
  refine forall_members (Value.Fits (depth + 1)) (text (depth + 1)) ?_ ?_ ?_ ?_ listing ?_
  · intro bool
    exact True.intro
  · exact True.intro
  · intro byte
    exact exact_byte byte
  · intro palette item member
    obtain ⟨hex, -, rfl⟩ := List.mem_map.mp member
    exact text depth hex
  · exact forall_alternateNames (Value.Fits depth) (text depth) listing

theorem readBack_members (listing : Listing) : (Value.object listing.members).readBack = listing.toValue := by
  have names : (Value.object listing.alternateNames).readBack = .object listing.alternateNames := by
    have kept := forall_alternateNames (fun value => value.readBack = value) (fun _ => rfl) listing
    rw [Value.readBack, Value.readBackMembers_of_forall kept, listing.alternateNames_ascending.ofList_eq]
  have kept := forall_members (fun value => value.readBack = value) (fun _ => rfl) (fun _ => rfl) rfl
    (fun _ => rfl) (fun _ => rfl) listing names
  rw [Value.readBack, Value.readBackMembers_of_forall kept, toValue]

end WalletCurrencies.Listing
