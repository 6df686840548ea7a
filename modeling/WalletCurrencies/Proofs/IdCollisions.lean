import WalletCurrencies.Proofs.Relocation

/-! Which ids come to one id on the test network. Both common networks of a chain are left for one
place, and a contract may stand in a list under its main address or already under the one that it
has there. No other two ids are ever taken for one. -/

namespace WalletCurrencies.CurrencyId

/-- An address at which a contract is found: on the main network in any case of its letters, on the
test network as it stands. -/
inductive Locates (contract : String × String) (address : String) : Prop where
  | main (same : Text.sameUpToAsciiCase contract.1 address = true) : Locates contract address
  | test (same : address = contract.2) : Locates contract address

/-- Addresses that a test network cannot tell apart. -/
inductive Interchangeable (first second : String) : Prop where
  | equal (same : first = second) : Interchangeable first second
  | deployed {contract : String × String} (listed : contract ∈ testContracts)
      (one : Locates contract first) (other : Locates contract second) : Interchangeable first second

/-- No two contracts of the table share an address on the test network. -/
private theorem testContracts_apart : ∀ contract ∈ testContracts, ∀ other ∈ testContracts,
    contract.2 = other.2 → contract = other := by
  decide

theorem testAddressOf_idem (address : String) : testAddressOf (testAddressOf address) = testAddressOf address :=
  testAddressOf_of_forall (testAddressOf_final address)

theorem testAddressOf_of_locates {contract : String × String} {address : String}
    (listed : contract ∈ testContracts) (located : Locates contract address) :
    testAddressOf address = contract.2 := by
  cases located with
  | main same => exact testAddressOf_of_mem listed same
  | test same =>
    have deployed : testAddressOf contract.1 = contract.2 := testAddressOf_of_mem listed (beq_iff_eq.mpr rfl)
    rw [same, ← deployed, testAddressOf_idem]

/-- The inversion of `testAddressOf`: an address stays, or it is that of a contract of the table. -/
theorem testAddressOf_eq_self_or (address : String) : testAddressOf address = address ∨
    ∃ contract ∈ testContracts, Locates contract address ∧ testAddressOf address = contract.2 := by
  by_cases known : ∃ contract ∈ testContracts, Text.sameUpToAsciiCase contract.1 address = true
  · obtain ⟨contract, listed, same⟩ := known
    exact Or.inr ⟨contract, listed, .main same, testAddressOf_of_mem listed same⟩
  · left
    apply testAddressOf_of_forall
    intro contract listed
    exact Bool.eq_false_iff.mpr fun same => known ⟨contract, listed, same⟩

theorem testAddressOf_eq_iff {first second : String} :
    testAddressOf first = testAddressOf second ↔ Interchangeable first second := by
  constructor
  · intro meet
    rcases testAddressOf_eq_self_or first with kept | ⟨contract, listed, located, moved⟩
    · rcases testAddressOf_eq_self_or second with stays | ⟨other, listed, located, moved⟩
      · exact .equal (kept.symm.trans (meet.trans stays))
      · exact .deployed listed (.test (kept.symm.trans (meet.trans moved))) located
    · rcases testAddressOf_eq_self_or second with stays | ⟨other, known, found, arrived⟩
      · exact .deployed listed located (.test (stays.symm.trans (meet.symm.trans moved)))
      · have one : contract = other :=
          testContracts_apart contract listed other known (moved.symm.trans (meet.trans arrived))
        subst one
        exact .deployed listed located found
  · intro interchangeable
    cases interchangeable with
    | equal same => rw [same]
    | deployed listed one other =>
      rw [testAddressOf_of_locates listed one, testAddressOf_of_locates listed other]

theorem Parts.moved_eq_iff {parts others : Parts} :
    parts.moved = others.moved ↔ parts.chain = others.chain ∧ Interchangeable parts.address others.address := by
  simp only [Parts.moved, Parts.mk.injEq, testAddressOf_eq_iff]
  constructor
  · exact fun ⟨chains, _, addresses⟩ => ⟨chains, addresses⟩
  · exact fun ⟨chains, addresses⟩ => ⟨chains, congrArg testSegmentOf chains, addresses⟩

theorem inEnvironment_of_common {text : String} {parts : Parts} (split : split? text = some parts)
    (common : parts.IsCommon) : inEnvironment text .testnet = .ok (join parts.moved) := by
  rw [inEnvironment_of_split? split, if_pos (Parts.isMovable_iff.mpr common)]

/-- Ids of the common networks have one place on the test network only if they name one chain and,
up to the spelling and the deployment of a known contract, one address. -/
theorem inEnvironment_collides_iff {text other : String} {parts others : Parts}
    (split : split? text = some parts) (splits : split? other = some others)
    (common : parts.IsCommon) (commonly : others.IsCommon) :
    ∃ place meeting, inEnvironment text .testnet = .ok place ∧ inEnvironment other .testnet = .ok meeting ∧
      (place = meeting ↔ parts.chain = others.chain ∧ Interchangeable parts.address others.address) := by
  refine ⟨_, _, inEnvironment_of_common split common, inEnvironment_of_common splits commonly, ?_⟩
  have formed : parts.moved.Proper := Parts.moved_proper (split?_eq_some_iff.mp split).2
  have well : others.moved.Proper := Parts.moved_proper (split?_eq_some_iff.mp splits).2
  rw [join_inj formed well, Parts.moved_eq_iff]

/-- A token on the main network, its address in capitals, beside its deployment on the test network. -/
theorem inEnvironment_collides_iff_bread :
    let parts : Parts := ⟨"ethereum", "mainnet", "0x558EC3152E2EB2174905CD19AEA4E34A23DE9AD6"⟩
    let others : Parts := ⟨"ethereum", "testnet", "0x7108ca7c4718efa810457f228305c9c71390931a"⟩
    (split? "ethereum-mainnet:0x558EC3152E2EB2174905CD19AEA4E34A23DE9AD6" = some parts ∧
      split? "ethereum-testnet:0x7108ca7c4718efa810457f228305c9c71390931a" = some others ∧
      parts.IsCommon ∧ others.IsCommon) ∧
    ∃ place meeting,
      inEnvironment "ethereum-mainnet:0x558EC3152E2EB2174905CD19AEA4E34A23DE9AD6" .testnet = .ok place ∧
      inEnvironment "ethereum-testnet:0x7108ca7c4718efa810457f228305c9c71390931a" .testnet = .ok meeting ∧
      (place = meeting ↔ parts.chain = others.chain ∧ Interchangeable parts.address others.address) := by
  intro parts others
  have split : split? "ethereum-mainnet:0x558EC3152E2EB2174905CD19AEA4E34A23DE9AD6" = some parts := by decide
  have splits : split? "ethereum-testnet:0x7108ca7c4718efa810457f228305c9c71390931a" = some others := by decide
  have common : parts.IsCommon := Or.inl rfl
  have commonly : others.IsCommon := Or.inr rfl
  exact ⟨⟨split, splits, common, commonly⟩, inEnvironment_collides_iff split splits common commonly⟩

end WalletCurrencies.CurrencyId
