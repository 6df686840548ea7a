import WalletCurrencies.Proofs.UnitChoice

/-! What the label of an amount tells about its scale. Every denomination has a name of its own, but
the default scale is labelled with the ticker, and that may also be the name of a denomination at
another scale. This is the only way in which two scales come to share a label. -/

namespace WalletCurrencies.Currency

variable {currency : Currency} {decimals : UInt8}

theorem namedAfterTicker_of_name_eq {unit : Denomination} (named : unit.name = currency.code) :
    NamedAfterTicker currency unit := by
  rw [NamedAfterTicker, named]
  exact beq_self_eq_true _

theorem labelForDecimals_of_none (missing : currency.unitWithDecimals? decimals = none) :
    currency.labelForDecimals decimals = "" := by
  rw [labelForDecimals, missing]

theorem labelForDecimals_of_default {unit : Denomination}
    (found : currency.unitWithDecimals? decimals = some unit) (own : decimals = currency.defaultUnit.decimals) :
    currency.labelForDecimals decimals = currency.code := by
  have scaled := (decimals_of_unitWithDecimals? found).2.trans own
  simp only [labelForDecimals, found, labelOf, scaled, if_true]

theorem labelForDecimals_of_other {unit : Denomination}
    (found : currency.unitWithDecimals? decimals = some unit) (other : decimals ≠ currency.defaultUnit.decimals) :
    currency.labelForDecimals decimals = unit.name := by
  have scaled : unit.decimals ≠ currency.defaultUnit.decimals := by
    rw [(decimals_of_unitWithDecimals? found).2]
    exact other
  simp only [labelForDecimals, found, labelOf, scaled, if_false]

/-- One scale is the default one, and at the other the ticker is the name of a denomination. -/
structure ShareTicker (currency : Currency) (default other : UInt8) : Prop where
  own : default = currency.defaultUnit.decimals
  foreign : other ≠ currency.defaultUnit.decimals
  named : ∃ unit ∈ currency.unitList, unit.decimals = other ∧ unit.name = currency.code

section

variable (ordered : currency.unitList.Pairwise fun before after => before.key < after.key)
include ordered

theorem eq_of_key_eq {first second : Denomination} (one : first ∈ currency.unitList)
    (other : second ∈ currency.unitList) (same : first.key = second.key) : first = second := by
  have distinct : (currency.unitList.map Denomination.key).Nodup := (List.pairwise_map.mpr ordered).nodup
  exact List.inj_on_of_nodup_map distinct one other same

/-- No other denomination of the scale can push the one aside that has the ticker for its name. -/
theorem unitWithDecimals?_of_name_eq_code {unit : Denomination} (member : unit ∈ currency.unitList)
    (named : unit.name = currency.code) : currency.unitWithDecimals? unit.decimals = some unit := by
  have foremost := namedAfterTicker_of_name_eq named
  refine (unitWithDecimals?_eq_some_iff ordered).mpr ⟨⟨member, rfl⟩, ?_⟩
  intro other inside _ differs
  have unnamed : ¬ NamedAfterTicker currency other :=
    fun rival => differs (eq_of_key_eq ordered inside member (rival.key_eq foremost))
  have below : currency.rank other ≠ 0 := by
    intro first
    have standing := standing_rank currency other
    rw [first] at standing
    cases standing with
    | ticker rival => exact unnamed rival
  exact .standing (.ticker foremost) (standing_rank currency other) (Nat.pos_of_ne_zero below)

theorem name_eq_code_iff {best : Denomination} (found : currency.unitWithDecimals? decimals = some best) :
    best.name = currency.code ↔
      ∃ unit ∈ currency.unitList, unit.decimals = decimals ∧ unit.name = currency.code := by
  constructor
  · intro named
    obtain ⟨member, fits⟩ := decimals_of_unitWithDecimals? found
    exact ⟨best, member, fits, named⟩
  · intro holds
    obtain ⟨unit, member, rfl, named⟩ := holds
    rw [unitWithDecimals?_of_name_eq_code ordered member named] at found
    cases found
    exact named

theorem labelForDecimals_default_eq_iff {default other : UInt8}
    (own : default = currency.defaultUnit.decimals) (foreign : other ≠ currency.defaultUnit.decimals)
    (fits : (currency.unitWithDecimals? default).isSome) (found : (currency.unitWithDecimals? other).isSome) :
    currency.labelForDecimals default = currency.labelForDecimals other ↔ ShareTicker currency default other := by
  obtain ⟨unit, shown⟩ := Option.isSome_iff_exists.mp fits
  obtain ⟨best, chosen⟩ := Option.isSome_iff_exists.mp found
  rw [labelForDecimals_of_default shown own, labelForDecimals_of_other chosen foreign, eq_comm,
    name_eq_code_iff ordered chosen]
  constructor
  · exact fun named => ⟨own, foreign, named⟩
  · exact fun share => share.named

/-- Names tell scales apart, as every name has but one denomination. -/
theorem labelForDecimals_ne {first second : UInt8} (differ : first ≠ second)
    (one : first ≠ currency.defaultUnit.decimals) (other : second ≠ currency.defaultUnit.decimals)
    (fits : (currency.unitWithDecimals? first).isSome) (found : (currency.unitWithDecimals? second).isSome) :
    currency.labelForDecimals first ≠ currency.labelForDecimals second := by
  obtain ⟨unit, shown⟩ := Option.isSome_iff_exists.mp fits
  obtain ⟨best, chosen⟩ := Option.isSome_iff_exists.mp found
  obtain ⟨member, scaled⟩ := decimals_of_unitWithDecimals? shown
  obtain ⟨inside, rescaled⟩ := decimals_of_unitWithDecimals? chosen
  rw [labelForDecimals_of_other shown one, labelForDecimals_of_other chosen other]
  intro named
  have same := eq_of_key_eq ordered member inside (congrArg Text.lowercase named)
  exact differ (scaled.symm.trans ((congrArg Denomination.decimals same).trans rescaled))

end

/-- When two scales have one label, and which scales have none. -/
structure LabelsScales (currency : Currency) : Prop where
  alike : ∀ first second, first ≠ second → (currency.unitWithDecimals? first).isSome →
    (currency.unitWithDecimals? second).isSome →
    (currency.labelForDecimals first = currency.labelForDecimals second ↔
      ShareTicker currency first second ∨ ShareTicker currency second first)
  blank : ∀ decimals, currency.unitWithDecimals? decimals = none → currency.labelForDecimals decimals = ""

theorem ofParts_labelsScales {coin : Coin} {network : Network} {listing : Listing} {given : List Denomination}
    {baseUnit defaultUnit : Denomination}
    (built : ofParts coin network listing given baseUnit defaultUnit = .ok currency) : LabelsScales currency := by
  have ordered : currency.unitList.Pairwise fun before after => before.key < after.key := by
    obtain ⟨sameId, rfl⟩ := ofParts_eq_ok_iff.mp built
    exact unitIndex_ordered given baseUnit defaultUnit
  refine ⟨?_, fun _ => labelForDecimals_of_none⟩
  intro first second differ fits found
  by_cases own : first = currency.defaultUnit.decimals
  · have foreign : second ≠ currency.defaultUnit.decimals := fun same => differ (own.trans same.symm)
    rw [labelForDecimals_default_eq_iff ordered own foreign fits found]
    exact (or_iff_left fun reversed => reversed.foreign own).symm
  · by_cases ownSecond : second = currency.defaultUnit.decimals
    · rw [eq_comm, labelForDecimals_default_eq_iff ordered ownSecond own found fits]
      exact (or_iff_right fun share => share.foreign ownSecond).symm
    · refine iff_of_false (labelForDecimals_ne ordered differ own ownSecond fits found) ?_
      intro share
      rcases share with share | share
      · exact own share.own
      · exact ownSecond share.own

/-- The ticker is the name of a listed denomination, which keeps the default one out of the list. -/
def tickerElsewhere : List Denomination := [⟨"BTC", "mBTC", 5⟩, ⟨"bitcoin", "B", 8⟩]

theorem ofParts_labelsScales_bitcoin :
    ofParts bitcoinCoin bitcoinNetwork bitcoinListing tickerElsewhere satoshi wholeBitcoin
        = .ok (bitcoinWith tickerElsewhere) ∧
      LabelsScales (bitcoinWith tickerElsewhere) ∧
      (bitcoinWith tickerElsewhere).labelForDecimals 8 = (bitcoinWith tickerElsewhere).labelForDecimals 5 := by
  have built : ofParts bitcoinCoin bitcoinNetwork bitcoinListing tickerElsewhere satoshi wholeBitcoin
      = .ok (bitcoinWith tickerElsewhere) := ofParts_eq_ok_iff.mpr ⟨rfl, rfl⟩
  have labels := ofParts_labelsScales built
  have share : ShareTicker (bitcoinWith tickerElsewhere) 8 5 :=
    ⟨rfl, by decide, ⟨"BTC", "mBTC", 5⟩, by decide, rfl, by decide⟩
  exact ⟨built, labels, (labels.alike 8 5 (by decide) (by decide) (by decide)).mpr (Or.inl share)⟩

end WalletCurrencies.Currency
