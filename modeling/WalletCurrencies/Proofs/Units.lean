import WalletCurrencies.Currency.Units
import WalletCurrencies.Proofs.Entries

/-! The denominations of a currency are found by name, and a listed one comes before the base and
the default one. These two are therefore among them exactly when no listed denomination takes
their name for something else, and neither takes the other's. -/

namespace WalletCurrencies.Currency

/-- Of the denominations given with one key, the last. -/
def lastOf? (given : List Denomination) (key : String) : Option Denomination :=
  given.reverse.find? fun unit => unit.key = key

/-- The base and the default denomination are the only ones that go by their names. -/
structure Coherent (given : List Denomination) (baseUnit defaultUnit : Denomination) : Prop where
  base : ∀ unit, lastOf? given baseUnit.key = some unit → unit = baseUnit
  default : ∀ unit, lastOf? given defaultUnit.key = some unit → unit = defaultUnit
  apart : baseUnit.key = defaultUnit.key → baseUnit = defaultUnit

theorem key_of_lastOf? {given : List Denomination} {key : String} {unit : Denomination}
    (found : lastOf? given key = some unit) : unit.key = key :=
  of_decide_eq_true (List.find?_some (p := fun unit : Denomination => decide (unit.key = key)) found)

theorem find?_foldl_units (given : List Denomination) (key : String) :
    (given.foldl (fun (index : Index Denomination) unit => index.put unit.key unit) ∅).find? key
      = lastOf? given key := by
  -- From the end, where the denomination that is found stands.
  induction given using List.reverseRecOn with
  | nil => rfl
  | append_singleton given unit ih =>
    rw [List.foldl_append, List.foldl_cons, List.foldl_nil, Index.find?_put, ih]
    unfold lastOf?
    rw [List.reverse_append, List.reverse_singleton, List.singleton_append, List.find?_cons]
    by_cases same : unit.key = key <;> simp [same]

theorem find?_unitIndex (given : List Denomination) (baseUnit defaultUnit : Denomination) (key : String) :
    (unitIndex given baseUnit defaultUnit).find? key = (lastOf? given key).or
      (if baseUnit.key = key then some baseUnit
       else if defaultUnit.key = key then some defaultUnit else none) := by
  unfold unitIndex
  simp only [Index.find?_putIfAbsent, find?_foldl_units]
  by_cases byDefault : defaultUnit.key = key
  · subst byDefault
    by_cases byBase : baseUnit.key = defaultUnit.key
    · rw [byBase]
      cases lastOf? given defaultUnit.key <;> simp
    · cases lastOf? given defaultUnit.key <;> simp [byBase]
  · by_cases byBase : baseUnit.key = key
    · subst byBase
      cases lastOf? given baseUnit.key <;> simp [byDefault]
    · cases lastOf? given key <;> simp [byBase, byDefault]

theorem key_of_find?_unitIndex {given : List Denomination} {baseUnit defaultUnit unit : Denomination}
    {key : String} (found : (unitIndex given baseUnit defaultUnit).find? key = some unit) : unit.key = key := by
  rw [find?_unitIndex] at found
  rcases Option.or_eq_some_iff.mp found with listed | ⟨-, added⟩
  · exact key_of_lastOf? listed
  · split at added
    next byBase =>
      cases added
      exact byBase
    next =>
      split at added
      next byDefault =>
        cases added
        exact byDefault
      next => cases added

theorem mem_values_unitIndex {given : List Denomination} {baseUnit defaultUnit unit : Denomination} :
    unit ∈ (unitIndex given baseUnit defaultUnit).values ↔
      (unitIndex given baseUnit defaultUnit).find? unit.key = some unit := by
  rw [Index.mem_values]
  constructor
  · intro holds
    obtain ⟨key, found⟩ := holds
    rw [key_of_find?_unitIndex found]
    exact found
  · exact fun found => ⟨unit.key, found⟩

theorem base_mem_unitIndex_iff (given : List Denomination) (baseUnit defaultUnit : Denomination) :
    baseUnit ∈ (unitIndex given baseUnit defaultUnit).values ↔
      ∀ unit, lastOf? given baseUnit.key = some unit → unit = baseUnit := by
  rw [mem_values_unitIndex, find?_unitIndex, if_pos rfl]
  cases lastOf? given baseUnit.key with
  | none => simp
  | some unit => simp

theorem default_mem_unitIndex_iff (given : List Denomination) (baseUnit defaultUnit : Denomination) :
    defaultUnit ∈ (unitIndex given baseUnit defaultUnit).values ↔
      (∀ unit, lastOf? given defaultUnit.key = some unit → unit = defaultUnit) ∧
      (lastOf? given defaultUnit.key = none → baseUnit.key = defaultUnit.key → baseUnit = defaultUnit) := by
  rw [mem_values_unitIndex, find?_unitIndex, if_pos (rfl : defaultUnit.key = defaultUnit.key)]
  cases lastOf? given defaultUnit.key with
  | none =>
    by_cases same : baseUnit.key = defaultUnit.key <;> simp [same]
  | some unit => simp

theorem coherent_iff (given : List Denomination) (baseUnit defaultUnit : Denomination) :
    Coherent given baseUnit defaultUnit ↔
      baseUnit ∈ (unitIndex given baseUnit defaultUnit).values ∧
      defaultUnit ∈ (unitIndex given baseUnit defaultUnit).values := by
  rw [base_mem_unitIndex_iff, default_mem_unitIndex_iff]
  constructor
  · exact fun coherent => ⟨coherent.base, coherent.default, fun _ => coherent.apart⟩
  · intro holds
    obtain ⟨base, default, apart⟩ := holds
    refine ⟨base, default, fun same => ?_⟩
    cases listed : lastOf? given defaultUnit.key with
    | none => exact apart listed same
    | some unit => exact (base unit (same ▸ listed)).symm.trans (default unit listed)

theorem leastRanked_eq_none_iff {rank : Denomination → Nat} {units : List Denomination} :
    leastRanked rank units = none ↔ units = [] := by
  cases units with
  | nil => simp [leastRanked]
  | cons unit rest =>
    unfold leastRanked
    cases leastRanked rank rest with
    | none => simp
    | some best =>
      simp only
      split <;> simp

/-- The inversion of `leastRanked`: the first one gives way only to one of a lower rank. -/
theorem leastRanked_cons {rank : Denomination → Nat} {first best : Denomination} {rest : List Denomination}
    (least : leastRanked rank (first :: rest) = some best) :
    leastRanked rank rest = some best ∧ rank best < rank first ∨
      best = first ∧ ∀ champion, leastRanked rank rest = some champion → rank first ≤ rank champion := by
  unfold leastRanked at least
  cases found : leastRanked rank rest with
  | none =>
    simp only [found, Option.some.injEq] at least
    exact Or.inr ⟨least.symm, nofun⟩
  | some champion =>
    simp only [found] at least
    split at least
    next undercut =>
      cases least
      exact Or.inl ⟨rfl, undercut⟩
    next stays =>
      cases least
      refine Or.inr ⟨rfl, ?_⟩
      intro other same
      cases same
      exact Nat.le_of_not_lt stays

theorem mem_of_leastRanked {rank : Denomination → Nat} {units : List Denomination} {unit : Denomination}
    (least : leastRanked rank units = some unit) : unit ∈ units := by
  induction units with
  | nil => cases least
  | cons first rest ih =>
    rcases leastRanked_cons least with ⟨found, -⟩ | ⟨rfl, -⟩
    · exact List.mem_cons_of_mem first (ih found)
    · exact List.mem_cons_self

theorem decimals_of_unitWithDecimals? {currency : Currency} {decimals : UInt8} {unit : Denomination}
    (found : currency.unitWithDecimals? decimals = some unit) :
    unit ∈ currency.unitList ∧ unit.decimals = decimals := by
  obtain ⟨member, fits⟩ := List.mem_filter.mp (mem_of_leastRanked found)
  exact ⟨member, of_decide_eq_true fits⟩

theorem unitWithDecimals?_isSome_of_mem (currency : Currency) {unit : Denomination}
    (member : unit ∈ currency.unitList) : (currency.unitWithDecimals? unit.decimals).isSome := by
  unfold unitWithDecimals?
  rw [Option.isSome_iff_ne_none, Ne, leastRanked_eq_none_iff]
  exact List.ne_nil_of_mem (List.mem_filter.mpr ⟨member, decide_eq_true rfl⟩)

theorem labelForDecimals_default {currency : Currency}
    (fits : (currency.unitWithDecimals? currency.defaultUnit.decimals).isSome) :
    currency.labelForDecimals currency.defaultUnit.decimals = currency.defaultLabel := by
  obtain ⟨unit, found⟩ := Option.isSome_iff_exists.mp fits
  have same := (decimals_of_unitWithDecimals? found).2
  simp only [labelForDecimals, found, defaultLabel, labelOf, same, if_true]

theorem ofParts_eq_ok_iff {coin : Coin} {network : Network} {listing : Listing} {given : List Denomination}
    {baseUnit defaultUnit : Denomination} {currency : Currency} :
    ofParts coin network listing given baseUnit defaultUnit = .ok currency ↔
      ∃ sameId, currency =
        ⟨coin, network, listing, baseUnit, defaultUnit, unitIndex given baseUnit defaultUnit, sameId⟩ := by
  unfold ofParts
  split
  next sameId => simp [sameId, eq_comm]
  next differs => simp [differs]

/-- What a currency owes the two denominations that it names by itself. -/
structure HoldsOwnUnits (currency : Currency) : Prop where
  base : currency.baseUnit ∈ currency.unitList
  default : currency.defaultUnit ∈ currency.unitList
  baseNamed : currency.unitNamed? currency.baseUnit.name = some currency.baseUnit
  defaultNamed : currency.unitNamed? currency.defaultUnit.name = some currency.defaultUnit
  defaultFits : (currency.unitWithDecimals? currency.defaultUnit.decimals).isSome = true
  defaultLabelled : currency.labelForDecimals currency.defaultUnit.decimals = currency.defaultLabel

/-- A listed denomination that goes by the name of the base or the default one keeps it out, also
where the two differ in symbol or scale. -/
theorem holdsOwnUnits_iff_coherent {coin : Coin} {network : Network} {listing : Listing}
    {given : List Denomination} {baseUnit defaultUnit : Denomination} {currency : Currency}
    (built : ofParts coin network listing given baseUnit defaultUnit = .ok currency) :
    HoldsOwnUnits currency ↔ Coherent given baseUnit defaultUnit := by
  obtain ⟨sameId, rfl⟩ := ofParts_eq_ok_iff.mp built
  rw [coherent_iff]
  constructor
  · exact fun holds => ⟨holds.base, holds.default⟩
  · intro holds
    obtain ⟨base, default⟩ := holds
    have fits := unitWithDecimals?_isSome_of_mem
      ⟨coin, network, listing, baseUnit, defaultUnit, unitIndex given baseUnit defaultUnit, sameId⟩
      default
    exact {
      base := base
      default := default
      baseNamed := mem_values_unitIndex.mp base
      defaultNamed := mem_values_unitIndex.mp default
      defaultFits := fits
      defaultLabelled := labelForDecimals_default fits }

def bitcoinListing : Listing :=
  ⟨⟨"bitcoin-mainnet:__native__"⟩, "btc", "Bitcoin", true, .black, none, 8, none, none⟩

def bitcoinCoin : Coin := ⟨bitcoinListing.id, "btc", "Bitcoin", "native"⟩

def bitcoinNetwork : Network := ⟨⟨"bitcoin-mainnet"⟩, .mainnet, 6, fun _ => true⟩

def satoshi : Denomination := ⟨"sat", "sat", 0⟩

def wholeBitcoin : Denomination := ⟨"btc", "BTC", 8⟩

/-- The currency of bitcoin with further denominations. -/
def bitcoinWith (given : List Denomination) : Currency :=
  ⟨bitcoinCoin, bitcoinNetwork, bitcoinListing, satoshi, wholeBitcoin,
    unitIndex given satoshi wholeBitcoin, rfl⟩

theorem holdsOwnUnits_iff_coherent_bitcoin :
    ofParts bitcoinCoin bitcoinNetwork bitcoinListing [⟨"bit", "bits", 2⟩] satoshi wholeBitcoin
        = .ok (bitcoinWith [⟨"bit", "bits", 2⟩]) ∧
      (HoldsOwnUnits (bitcoinWith [⟨"bit", "bits", 2⟩]) ↔
        Coherent [⟨"bit", "bits", 2⟩] satoshi wholeBitcoin) := by
  have built : ofParts bitcoinCoin bitcoinNetwork bitcoinListing [⟨"bit", "bits", 2⟩] satoshi wholeBitcoin
      = .ok (bitcoinWith [⟨"bit", "bits", 2⟩]) := ofParts_eq_ok_iff.mpr ⟨rfl, rfl⟩
  exact ⟨built, holdsOwnUnits_iff_coherent built⟩

/-- The names of both in capitals, at other scales. -/
def clashingUnits : List Denomination := [⟨"SAT", "bits", 2⟩, ⟨"BTC", "mBTC", 5⟩]

/-- Neither of the two is among the denominations then, and the ticker is the label of none. -/
theorem not_holdsOwnUnits_clashing :
    ofParts bitcoinCoin bitcoinNetwork bitcoinListing clashingUnits satoshi wholeBitcoin
        = .ok (bitcoinWith clashingUnits) ∧
      satoshi ∉ (bitcoinWith clashingUnits).unitList ∧
      wholeBitcoin ∉ (bitcoinWith clashingUnits).unitList ∧
      (bitcoinWith clashingUnits).unitNamed? satoshi.name ≠ some satoshi ∧
      (bitcoinWith clashingUnits).unitNamed? wholeBitcoin.name ≠ some wholeBitcoin ∧
      (bitcoinWith clashingUnits).unitWithDecimals? wholeBitcoin.decimals = none ∧
      (bitcoinWith clashingUnits).labelForDecimals wholeBitcoin.decimals
        ≠ (bitcoinWith clashingUnits).defaultLabel := by
  have built : ofParts bitcoinCoin bitcoinNetwork bitcoinListing clashingUnits satoshi wholeBitcoin
      = .ok (bitcoinWith clashingUnits) := ofParts_eq_ok_iff.mpr ⟨rfl, rfl⟩
  refine ⟨built, ?_, ?_, ?_, ?_, ?_, ?_⟩ <;> decide

end WalletCurrencies.Currency
