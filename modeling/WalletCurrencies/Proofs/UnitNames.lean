import WalletCurrencies.Proofs.AsciiCase
import WalletCurrencies.Proofs.Units

/-! Names and denominations. A name in any case finds at most one denomination, the last listed one
before the base and the default one, and the denominations of a currency are those that some name
finds, in the order of their keys. -/

namespace WalletCurrencies.Currency

variable {given : List Denomination} {baseUnit defaultUnit unit : Denomination} {key : String}

/-- Which denomination goes by a key among those a currency is made of. -/
inductive GoesBy (given : List Denomination) (baseUnit defaultUnit : Denomination) (key : String) :
    Denomination → Prop where
  | listed {before after : List Denomination} {unit : Denomination} (split : given = before ++ unit :: after)
      (own : unit.key = key) (last : ∀ later ∈ after, later.key ≠ key) :
      GoesBy given baseUnit defaultUnit key unit
  | base (unlisted : ∀ unit ∈ given, unit.key ≠ key) (own : baseUnit.key = key) :
      GoesBy given baseUnit defaultUnit key baseUnit
  | default (unlisted : ∀ unit ∈ given, unit.key ≠ key) (other : baseUnit.key ≠ key)
      (own : defaultUnit.key = key) : GoesBy given baseUnit defaultUnit key defaultUnit

theorem lastOf?_eq_some_iff : lastOf? given key = some unit ↔ unit.key = key ∧
    ∃ before after, given = before ++ unit :: after ∧ ∀ later ∈ after, later.key ≠ key := by
  unfold lastOf?
  rw [List.find?_eq_some_iff_append]
  simp only [decide_eq_true_iff, Bool.not_eq_true', decide_eq_false_iff_not]
  -- What comes after in the list is what is passed over from behind.
  refine and_congr_right fun _ => ⟨?_, ?_⟩
  · intro reversed
    obtain ⟨after, before, split, last⟩ := reversed
    refine ⟨before.reverse, after.reverse, ?_, fun later member => last later (List.mem_reverse.mp member)⟩
    rw [← List.reverse_reverse given, split]
    simp
  · intro whole
    obtain ⟨before, after, rfl, last⟩ := whole
    exact ⟨after.reverse, before.reverse, by simp, fun later member => last later (List.mem_reverse.mp member)⟩

theorem lastOf?_eq_none_iff : lastOf? given key = none ↔ ∀ unit ∈ given, unit.key ≠ key := by
  simp only [lastOf?, List.find?_eq_none, List.mem_reverse, decide_eq_true_iff, ne_eq]

theorem find?_unitIndex_eq_some_iff :
    (unitIndex given baseUnit defaultUnit).find? key = some unit ↔ GoesBy given baseUnit defaultUnit key unit := by
  rw [find?_unitIndex]
  constructor
  · intro found
    cases listed : lastOf? given key with
    | some last =>
      rw [listed, Option.some_or] at found
      cases found
      obtain ⟨own, before, after, split, latest⟩ := lastOf?_eq_some_iff.mp listed
      exact .listed split own latest
    | none =>
      have unlisted := lastOf?_eq_none_iff.mp listed
      rw [listed, Option.none_or] at found
      split at found
      next own =>
        cases found
        exact .base unlisted own
      next other =>
        split at found
        next own =>
          cases found
          exact .default unlisted other own
        next => cases found
  · intro goes
    cases goes with
    | listed split own last => rw [lastOf?_eq_some_iff.mpr ⟨own, _, _, split, last⟩, Option.some_or]
    | base unlisted own => rw [lastOf?_eq_none_iff.mpr unlisted, Option.none_or, if_pos own]
    | default unlisted other own =>
      rw [lastOf?_eq_none_iff.mpr unlisted, Option.none_or, if_neg other, if_pos own]

theorem find?_unitIndex_eq_none_iff : (unitIndex given baseUnit defaultUnit).find? key = none ↔
    (∀ unit ∈ given, unit.key ≠ key) ∧ baseUnit.key ≠ key ∧ defaultUnit.key ≠ key := by
  rw [find?_unitIndex, Option.or_eq_none_iff, lastOf?_eq_none_iff]
  refine and_congr_right fun _ => ?_
  by_cases byBase : baseUnit.key = key
  · simp [byBase]
  · by_cases byDefault : defaultUnit.key = key <;> simp [byBase, byDefault]

/-- Every denomination is filed under its own key. -/
theorem unitIndex_ordered (given : List Denomination) (baseUnit defaultUnit : Denomination) :
    (unitIndex given baseUnit defaultUnit).values.Pairwise fun first second => first.key < second.key := by
  unfold Index.values
  rw [List.pairwise_map]
  refine (unitIndex given baseUnit defaultUnit).ascending.imp_of_mem ?_
  intro first second member later smaller
  rwa [key_of_find?_unitIndex ((Index.mem_entries _ _ _).mp member),
    key_of_find?_unitIndex ((Index.mem_entries _ _ _).mp later)]

theorem unitIndex_nodup (given : List Denomination) (baseUnit defaultUnit : Denomination) :
    (unitIndex given baseUnit defaultUnit).values.Nodup := by
  have distinct : ((unitIndex given baseUnit defaultUnit).values.map Denomination.key).Nodup :=
    (List.pairwise_map.mpr (unitIndex_ordered given baseUnit defaultUnit)).nodup
  exact distinct.of_map

/-- How the names and the denominations of a currency hang together. -/
structure NamesUnits (given : List Denomination) (baseUnit defaultUnit : Denomination) (currency : Currency) :
    Prop where
  named : ∀ name unit, currency.unitNamed? name = some unit ↔
    GoesBy given baseUnit defaultUnit (Text.lowercase name) unit
  unknown : ∀ name, currency.unitNamed? name = none ↔ (∀ unit ∈ given, unit.key ≠ Text.lowercase name) ∧
    baseUnit.key ≠ Text.lowercase name ∧ defaultUnit.key ≠ Text.lowercase name
  found : ∀ unit, unit ∈ currency.unitList ↔ ∃ name, currency.unitNamed? name = some unit
  once : currency.unitList.Nodup
  ordered : currency.unitList.Pairwise fun first second => first.key < second.key
  own : ∀ unit ∈ currency.unitList, currency.unitNamed? unit.name = some unit
  caseless : ∀ name other, Text.sameUpToAsciiCase name other = true →
    currency.unitNamed? name = currency.unitNamed? other

theorem ofParts_namesUnits {coin : Coin} {network : Network} {listing : Listing} {currency : Currency}
    (built : ofParts coin network listing given baseUnit defaultUnit = .ok currency) :
    NamesUnits given baseUnit defaultUnit currency := by
  obtain ⟨sameId, rfl⟩ := ofParts_eq_ok_iff.mp built
  exact {
    named := fun _ _ => find?_unitIndex_eq_some_iff
    unknown := fun _ => find?_unitIndex_eq_none_iff
    found := fun unit => ⟨fun member => ⟨unit.name, mem_values_unitIndex.mp member⟩,
      fun ⟨name, named⟩ => (Index.mem_values _ unit).mpr ⟨Text.lowercase name, named⟩⟩
    once := unitIndex_nodup given baseUnit defaultUnit
    ordered := unitIndex_ordered given baseUnit defaultUnit
    own := fun _ => mem_values_unitIndex.mp
    caseless := fun _ _ same => congrArg (unitIndex given baseUnit defaultUnit).find?
      (Text.lowercase_eq_of_sameUpToAsciiCase same) }

/-- Two listed denominations share a name, and a third takes that of the base one. -/
theorem ofParts_namesUnits_bitcoin :
    let given : List Denomination := [⟨"Bit", "bit", 2⟩, ⟨"SAT", "s", 0⟩, ⟨"bIT", "µ₿", 2⟩]
    ofParts bitcoinCoin bitcoinNetwork bitcoinListing given satoshi wholeBitcoin = .ok (bitcoinWith given) ∧
      NamesUnits given satoshi wholeBitcoin (bitcoinWith given) := by
  intro given
  have built : ofParts bitcoinCoin bitcoinNetwork bitcoinListing given satoshi wholeBitcoin
      = .ok (bitcoinWith given) := ofParts_eq_ok_iff.mpr ⟨rfl, rfl⟩
  exact ⟨built, ofParts_namesUnits built⟩

end WalletCurrencies.Currency
