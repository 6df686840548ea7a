import WalletCurrencies.Proofs.Entries
import WalletCurrencies.Proofs.IdParts
import WalletCurrencies.TestNetwork

/-! Moving an id to the test network settles it: the result splits into parts that name no main
network and no contract that is deployed elsewhere, so that moving it again changes nothing. -/

namespace WalletCurrencies.CurrencyId

namespace Parts

/-- What the generic test network may hold: only chains without a test network of their own, and
no contract that has another address there. -/
structure Settled (parts : Parts) : Prop where
  segment : parts.segment ≠ mainSegment
  chain : parts.segment = commonTestSegment → testSegmentOf parts.chain = commonTestSegment
  address : parts.segment = commonTestSegment →
    ∀ contract ∈ testContracts, Text.sameUpToAsciiCase contract.1 parts.address = false

end Parts

theorem testSegmentOf_mem (chain : String) :
    testSegmentOf chain ∈ commonTestSegment :: testSegments.map (·.2) := by
  unfold testSegmentOf
  cases found : Entries.find? chain testSegments with
  | none => exact List.mem_cons_self
  | some segment =>
    exact List.mem_cons_of_mem _ (List.mem_map.mpr ⟨_, Entries.mem_of_find? found, rfl⟩)

private theorem testSegments_proper : ∀ segment ∈ commonTestSegment :: testSegments.map (·.2),
    segment ≠ "" ∧ ':' ∉ segment.toList ∧ '-' ∉ segment.toList ∧ segment ≠ mainSegment := by
  decide

private theorem testContracts_final : ∀ contract ∈ testContracts,
    contract.2 ≠ "" ∧ ∀ other ∈ testContracts, Text.sameUpToAsciiCase other.1 contract.2 = false := by
  decide

theorem testAddressOf_of_forall {address : String}
    (final : ∀ contract ∈ testContracts, Text.sameUpToAsciiCase contract.1 address = false) :
    testAddressOf address = address := by
  unfold testAddressOf
  rw [List.find?_eq_none.mpr]
  intro contract member
  simp [final contract member]

theorem testAddressOf_final (address : String) :
    ∀ contract ∈ testContracts, Text.sameUpToAsciiCase contract.1 (testAddressOf address) = false := by
  unfold testAddressOf
  cases found : testContracts.find? fun entry => Text.sameUpToAsciiCase entry.1 address with
  | none =>
    intro contract member
    simpa using List.find?_eq_none.mp found contract member
  | some contract => exact (testContracts_final contract (List.mem_of_find?_eq_some found)).2

theorem testAddressOf_nonempty {address : String} (nonempty : address ≠ "") : testAddressOf address ≠ "" := by
  unfold testAddressOf
  cases found : testContracts.find? fun entry => Text.sameUpToAsciiCase entry.1 address with
  | none => exact nonempty
  | some contract => exact (testContracts_final contract (List.mem_of_find?_eq_some found)).1

namespace Parts

theorem moved_proper {parts : Parts} (proper : parts.Proper) : parts.moved.Proper := by
  obtain ⟨nonempty, colon, dash, -⟩ := testSegments_proper _ (testSegmentOf_mem parts.chain)
  exact {
    chain_nonempty := proper.chain_nonempty
    segment_nonempty := nonempty
    address_nonempty := testAddressOf_nonempty proper.address_nonempty
    chain_colon := proper.chain_colon
    segment_colon := colon
    segment_dash := dash }

theorem moved_settled (parts : Parts) : parts.moved.Settled := by
  obtain ⟨-, -, -, differs⟩ := testSegments_proper _ (testSegmentOf_mem parts.chain)
  exact {
    segment := differs
    chain := id
    address := fun _ => testAddressOf_final parts.address }

theorem settled_of_not_movable {parts : Parts} (stays : parts.isMovable = false) : parts.Settled := by
  unfold isMovable at stays
  simp only [Bool.or_eq_false_iff, decide_eq_false_iff_not] at stays
  exact {
    segment := stays.1
    chain := fun common => absurd common stays.2
    address := fun common => absurd common stays.2 }

theorem Settled.moved_eq {parts : Parts} (settled : parts.Settled) (movable : parts.isMovable = true) :
    parts.moved = parts := by
  unfold isMovable at movable
  simp only [Bool.or_eq_true, decide_eq_true_eq] at movable
  have common : parts.segment = commonTestSegment := movable.resolve_left settled.segment
  unfold moved
  rw [settled.chain common, testAddressOf_of_forall (settled.address common), ← common]

end Parts

theorem inEnvironment_of_split? {text : String} {parts : Parts} (split : split? text = some parts) :
    inEnvironment text .testnet = .ok (if parts.isMovable then join parts.moved else ⟨text⟩) := by
  simp only [inEnvironment, split]

theorem inEnvironment_of_settled {text : String} {parts : Parts} (split : split? text = some parts)
    (settled : parts.Settled) : inEnvironment text .testnet = .ok ⟨text⟩ := by
  rw [inEnvironment_of_split? split]
  by_cases movable : parts.isMovable = true
  · rw [if_pos movable, settled.moved_eq movable]
    exact congrArg (fun text => Except.ok (CurrencyId.mk text)) (split?_eq_some_iff.mp split).1
  · rw [if_neg movable]

theorem settled_of_inEnvironment {text : String} {id : CurrencyId}
    (moved : inEnvironment text .testnet = .ok id) : ∃ parts, split? id.text = some parts ∧ parts.Settled := by
  cases split : split? text with
  | none =>
    simp only [inEnvironment, split] at moved
    cases moved
  | some parts =>
    rw [inEnvironment_of_split? split] at moved
    by_cases movable : parts.isMovable = true
    · rw [if_pos movable] at moved
      cases moved
      exact ⟨parts.moved, split?_join (Parts.moved_proper (split?_eq_some_iff.mp split).2), parts.moved_settled⟩
    · rw [if_neg movable] at moved
      cases moved
      exact ⟨parts, split, Parts.settled_of_not_movable (Bool.eq_false_iff.mpr movable)⟩

theorem inEnvironment_eq_error_iff {text : String} {environment : Environment} {failure : Failure} :
    inEnvironment text environment = .error failure ↔
      environment = .testnet ∧ split? text = none ∧ failure = .malformedId text := by
  cases environment with
  | mainnet => simp [inEnvironment]
  | testnet =>
    cases split : split? text with
    | none => simp only [inEnvironment, split, Except.error.injEq, true_and, eq_comm]
    | some parts => simp [inEnvironment, split]

theorem exists_inEnvironment_iff {text : String} {environment : Environment} :
    (∃ id, inEnvironment text environment = .ok id) ↔
      (environment = .testnet → ∃ parts, split? text = some parts) := by
  cases environment with
  | mainnet => simp [inEnvironment]
  | testnet => cases split : split? text <;> simp [inEnvironment, split]

theorem inEnvironment_idem {text : String} {id : CurrencyId} {environment : Environment}
    (moved : inEnvironment text environment = .ok id) : inEnvironment id.text environment = .ok id := by
  cases environment with
  | mainnet => rfl
  | testnet =>
    obtain ⟨parts, split, settled⟩ := settled_of_inEnvironment moved
    exact inEnvironment_of_settled split settled

end WalletCurrencies.CurrencyId
