import WalletCurrencies.Proofs.Decoding
import WalletCurrencies.Proofs.FirstWins

/-! The ids under which a catalog holds its listings. On a test network none of them is an id of
a main network, whatever the ids of the list were. -/

namespace WalletCurrencies.Catalog

open Json CurrencyId

variable {settings : Settings} {records : List Value}

theorem settled_of_mem_toList {now : Instant} {listing : Listing}
    (member : listing ∈ (ofRecords settings now records).toList) : listing.Settled settings.environment := by
  rw [mem_toList_ofRecords, find?_ofRecords, firstOf?_eq_some_iff] at member
  obtain ⟨_, ⟨_, _, decoded⟩, _⟩ := member
  exact Listing.settled_of_decode decoded

theorem exists_mem_toList_of_contains {now : Instant} {id : CurrencyId}
    (held : (ofRecords settings now records).contains id = true) :
    ∃ listing ∈ (ofRecords settings now records).toList, listing.id = id :=
  List.mem_map.mp ((contains_iff_mem_ids settings now records).mp held)

/-- Ids that were moved and ids that could stay are alike here: none is left that would move. -/
theorem parts_of_contains_testnet (onTestnet : settings.environment = .testnet) (now : Instant) {id : CurrencyId}
    (held : (ofRecords settings now records).contains id = true) :
    ∃ parts, id.parts? = some parts ∧ parts.segment ≠ mainSegment ∧
      (parts.segment = commonTestSegment →
        testSegmentOf parts.chain = commonTestSegment ∧
        ∀ contract ∈ testContracts, Text.sameUpToAsciiCase contract.1 parts.address = false) ∧
      inEnvironment id.text .testnet = .ok id := by
  obtain ⟨listing, member, rfl⟩ := exists_mem_toList_of_contains held
  have fixed := (settled_of_mem_toList member).id
  rw [onTestnet] at fixed
  obtain ⟨parts, split, settled⟩ := settled_of_inEnvironment fixed
  exact ⟨parts, split, settled.segment, fun common => ⟨settled.chain common, settled.address common⟩, fixed⟩

/-- The record of a token with its main contract, spelled in capitals. -/
def breadMembers : List (String × Value) := [
  ("code", .text "BRD"),
  ("contract_address", .null),
  ("currency_id", .text "ethereum-mainnet:0x558EC3152E2EB2174905CD19AEA4E34A23DE9AD6"),
  ("is_supported", .bool true),
  ("name", .text "Bread"),
  ("scale", .ofNat 18)]

def breadRecord : Value := .object breadMembers

/-- The id of that record on the main network. -/
def breadId : String := "ethereum-mainnet:0x558EC3152E2EB2174905CD19AEA4E34A23DE9AD6"

theorem parts_of_contains_testnet_bread :
    (ofRecords .testnet ⟨0, 0⟩ [breadRecord]).contains
        ⟨"ethereum-ropsten:0x7108ca7c4718efa810457f228305c9c71390931a"⟩ = true ∧
      ∃ parts, parts? ⟨"ethereum-ropsten:0x7108ca7c4718efa810457f228305c9c71390931a"⟩ = some parts ∧
        parts.segment ≠ mainSegment ∧
        (parts.segment = commonTestSegment →
          testSegmentOf parts.chain = commonTestSegment ∧
          ∀ contract ∈ testContracts, Text.sameUpToAsciiCase contract.1 parts.address = false) ∧
        inEnvironment "ethereum-ropsten:0x7108ca7c4718efa810457f228305c9c71390931a" .testnet
          = .ok ⟨"ethereum-ropsten:0x7108ca7c4718efa810457f228305c9c71390931a"⟩ := by
  have held : (ofRecords .testnet ⟨0, 0⟩ [breadRecord]).contains
      ⟨"ethereum-ropsten:0x7108ca7c4718efa810457f228305c9c71390931a"⟩ = true := by decide
  exact ⟨held, parts_of_contains_testnet (by rfl) ⟨0, 0⟩ held⟩

end WalletCurrencies.Catalog
