import WalletCurrencies.Proofs.TestNetwork

/-! Where the parts of an id go on a test network. The chain always stays. An id of one of the two
common networks moves to the network of its chain, and its address moves if it is a contract that is
deployed elsewhere there; an id of any other network stays as it is. -/

namespace WalletCurrencies.CurrencyId

/-- No two contracts of the table have one main address, whatever its case. -/
private theorem testContracts_distinct : ∀ contract ∈ testContracts, ∀ other ∈ testContracts,
    Text.asciiLower contract.1 = Text.asciiLower other.1 → contract = other := by
  decide

theorem testAddressOf_of_mem {contract : String × String} {address : String} (listed : contract ∈ testContracts)
    (same : Text.sameUpToAsciiCase contract.1 address = true) : testAddressOf address = contract.2 := by
  rw [testAddressOf]
  cases found : testContracts.find? fun entry => Text.sameUpToAsciiCase entry.1 address with
  | none => exact absurd same (List.find?_eq_none.mp found contract listed)
  | some other =>
    have matched : Text.sameUpToAsciiCase other.1 address = true :=
      List.find?_some (p := fun entry : String × String => Text.sameUpToAsciiCase entry.1 address) found
    have alike : Text.asciiLower other.1 = Text.asciiLower contract.1 :=
      (beq_iff_eq.mp matched).trans (beq_iff_eq.mp same).symm
    exact congrArg Prod.snd (testContracts_distinct other (List.mem_of_find?_eq_some found) contract listed alike)

namespace Parts

/-- The segment of one of the two networks that all chains have. -/
def IsCommon (parts : Parts) : Prop :=
  parts.segment = mainSegment ∨ parts.segment = commonTestSegment

theorem isMovable_iff {parts : Parts} : parts.isMovable = true ↔ parts.IsCommon := by
  rw [isMovable, Bool.or_eq_true, decide_eq_true_iff, decide_eq_true_iff, IsCommon]

/-- What a test network makes of the parts of an id. -/
structure Relocates (parts after : Parts) : Prop where
  chain : after.chain = parts.chain
  segment : parts.IsCommon → after.segment = testSegmentOf parts.chain
  deployed : parts.IsCommon → ∀ contract ∈ testContracts,
    Text.sameUpToAsciiCase contract.1 parts.address = true → after.address = contract.2
  address : (∀ contract ∈ testContracts, Text.sameUpToAsciiCase contract.1 parts.address = false) →
    after.address = parts.address
  kept : ¬ parts.IsCommon → after = parts

theorem relocates_moved {parts : Parts} (movable : parts.isMovable = true) : parts.Relocates parts.moved where
  chain := rfl
  segment _ := rfl
  deployed _ _ listed same := testAddressOf_of_mem listed same
  address := testAddressOf_of_forall
  kept uncommon := absurd (isMovable_iff.mp movable) uncommon

theorem relocates_self {parts : Parts} (uncommon : ¬ parts.IsCommon) : parts.Relocates parts where
  chain := rfl
  segment common := absurd common uncommon
  deployed common := absurd common uncommon
  address _ := rfl
  kept _ := rfl

/-- Only a contract of the table changes its address, and it goes to its place in the table. -/
theorem Relocates.address_eq {parts after : Parts} (relocates : parts.Relocates after)
    (unknown : ∀ contract ∈ testContracts, contract.2 ≠ after.address) : after.address = parts.address := by
  by_cases common : parts.IsCommon
  · apply relocates.address
    intro contract listed
    apply Bool.eq_false_iff.mpr
    intro same
    exact unknown contract listed (relocates.deployed common contract listed same).symm
  · rw [relocates.kept common]

private theorem commonSegments_proper : ∀ segment ∈ [mainSegment, commonTestSegment],
    segment ≠ "" ∧ ':' ∉ segment.toList ∧ '-' ∉ segment.toList := by
  decide

theorem Proper.withSegment {parts : Parts} (proper : parts.Proper) {segment : String}
    (listed : segment ∈ [mainSegment, commonTestSegment, parts.segment]) :
    Proper { parts with segment } := by
  rcases List.mem_append.mp (show segment ∈ [mainSegment, commonTestSegment] ++ [parts.segment] from listed)
    with common | own
  · obtain ⟨nonempty, colon, dash⟩ := commonSegments_proper segment common
    exact {
      chain_nonempty := proper.chain_nonempty
      segment_nonempty := nonempty
      address_nonempty := proper.address_nonempty
      chain_colon := proper.chain_colon
      segment_colon := colon
      segment_dash := dash }
  · cases List.mem_singleton.mp own
    exact proper

/-- From the common networks of a chain and from its test network one arrives at the latter. -/
theorem Relocates.eq_of_listed {place after : Parts} {segment : String}
    (relocates : Relocates { place with segment } after)
    (listed : segment ∈ [mainSegment, commonTestSegment, testSegmentOf place.chain])
    (address : after.address = place.address) (own : place.segment = testSegmentOf place.chain) :
    after = place := by
  have segments : after.segment = place.segment := by
    by_cases common : IsCommon { place with segment }
    · exact (relocates.segment common).trans own.symm
    · simp only [List.mem_cons, List.not_mem_nil, or_false, ← or_assoc] at listed
      rw [relocates.kept common, own, listed.resolve_left common]
  calc
    after = ⟨after.chain, after.segment, after.address⟩ := rfl
    _ = ⟨place.chain, place.segment, place.address⟩ := by rw [relocates.chain, segments, address]
    _ = place := rfl

end Parts

/-- An id of good form has a place on the test network, and it is in no doubt which parts that has. -/
theorem exists_relocates {parts : Parts} (proper : parts.Proper) :
    ∃ after : Parts, after.Proper ∧ parts.Relocates after ∧
      inEnvironment (join parts).text .testnet = .ok (join after) := by
  rw [inEnvironment_of_split? (split?_join proper)]
  by_cases movable : parts.isMovable = true
  · rw [if_pos movable]
    exact ⟨parts.moved, Parts.moved_proper proper, Parts.relocates_moved movable, rfl⟩
  · rw [if_neg movable]
    exact ⟨parts, proper, Parts.relocates_self fun common => movable (Parts.isMovable_iff.mpr common), rfl⟩

theorem join_inj {parts others : Parts} (proper : parts.Proper) (properly : others.Proper) :
    join parts = join others ↔ parts = others := by
  constructor
  · intro same
    have split := split?_join proper
    rw [same, split?_join properly] at split
    exact (Option.some.inj split).symm
  · exact congrArg join

/-- What goes to an address that the table does not know, on the test network of a chain: the ids
with that address on the common networks, and the place itself. -/
theorem inEnvironment_eq_join_iff {text : String} {place : Parts} (proper : place.Proper)
    (own : place.segment = testSegmentOf place.chain)
    (unknown : ∀ contract ∈ testContracts,
      contract.2 ≠ place.address ∧ Text.sameUpToAsciiCase contract.1 place.address = false) :
    inEnvironment text .testnet = .ok (join place) ↔
      ∃ segment ∈ [mainSegment, commonTestSegment, testSegmentOf place.chain],
        text = (join { place with segment }).text := by
  constructor
  · intro placed
    obtain ⟨parts, split⟩ := exists_inEnvironment_iff.mp ⟨_, placed⟩ rfl
    obtain ⟨rfl, properly⟩ := split?_eq_some_iff.mp split
    obtain ⟨after, formed, relocates, same⟩ := exists_relocates properly
    rw [placed, Except.ok.injEq, join_inj proper formed] at same
    subst same
    have address : place.address = parts.address :=
      relocates.address_eq fun contract listed => (unknown contract listed).1
    refine ⟨parts.segment, ?_, ?_⟩
    · by_cases common : parts.IsCommon
      · rcases common with main | test
        · simp [main]
        · simp [test]
      · rw [relocates.kept common] at own ⊢
        simp [own]
    · rw [address, relocates.chain]
  · intro holds
    obtain ⟨segment, listed, rfl⟩ := holds
    have properly : Parts.Proper { place with segment } := proper.withSegment (own ▸ listed)
    obtain ⟨after, -, relocates, placed⟩ := exists_relocates properly
    have address : after.address = place.address :=
      relocates.address fun contract member => (unknown contract member).2
    have arrived : after = place := relocates.eq_of_listed listed address own
    rw [placed, arrived]

/-- Every id of good form has one place in either environment and keeps it, and no other id has a
place on a test network. -/
theorem inEnvironment_relocates :
    (∀ text, inEnvironment text .mainnet = .ok ⟨text⟩) ∧
    (∀ text, inEnvironment text .testnet = .error (.malformedId text) ↔
      ¬ ∃ parts : Parts, parts.Proper ∧ (join parts).text = text) ∧
    ∀ parts : Parts, parts.Proper →
      ∃ after, inEnvironment (join parts).text .testnet = .ok (join after) ∧
        (join after).parts? = some after ∧ parts.Relocates after ∧
        inEnvironment (join after).text .testnet = .ok (join after) := by
  refine ⟨fun _ => rfl, ?_, ?_⟩
  · intro text
    rw [inEnvironment_eq_error_iff]
    simp only [true_and, Option.eq_none_iff_forall_ne_some, Ne, split?_eq_some_iff, not_exists,
      and_comm]
  · intro parts proper
    obtain ⟨after, formed, relocates, placed⟩ := exists_relocates proper
    exact ⟨after, placed, split?_join formed, relocates, inEnvironment_idem placed⟩

/-- Dashes belong to the chain and colons to the address, except for one of each. -/
example : inEnvironment "bit-coin-mainnet:a:b" .testnet = .ok ⟨"bit-coin-testnet:a:b"⟩ := by decide

end WalletCurrencies.CurrencyId
