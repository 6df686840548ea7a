import WalletCurrencies.Proofs.UnitNames

/-! Which of several denominations of one scale is shown. The ticker's own name counts most, then
being the default and the base denomination, and at last the order of the keys, so that the order
in which the denominations were listed has no say. -/

namespace WalletCurrencies.Currency

variable {given others : List Denomination} {baseUnit defaultUnit : Denomination} {currency : Currency}

/-- The name of the denomination is the ticker, in any case of the letters A to Z. -/
def NamedAfterTicker (currency : Currency) (unit : Denomination) : Prop :=
  Text.sameUpToAsciiCase unit.name currency.code = true

/-- For what a denomination is preferred: the best of the reasons that it has, counted from zero. -/
inductive Standing (currency : Currency) (unit : Denomination) : Nat → Prop where
  | ticker (named : NamedAfterTicker currency unit) : Standing currency unit 0
  | default (unnamed : ¬ NamedAfterTicker currency unit) (own : unit = currency.defaultUnit) :
      Standing currency unit 1
  | base (unnamed : ¬ NamedAfterTicker currency unit) (other : unit ≠ currency.defaultUnit)
      (own : unit = currency.baseUnit) : Standing currency unit 2
  | plain (unnamed : ¬ NamedAfterTicker currency unit) (other : unit ≠ currency.defaultUnit)
      (foreign : unit ≠ currency.baseUnit) : Standing currency unit 3

/-- Names decide between denominations of one standing. -/
inductive Precedes (currency : Currency) (first second : Denomination) : Prop where
  | standing {better worse : Nat} (one : Standing currency first better) (other : Standing currency second worse)
      (above : better < worse) : Precedes currency first second
  | name {place : Nat} (one : Standing currency first place) (other : Standing currency second place)
      (before : first.key < second.key) : Precedes currency first second

theorem standing_rank (currency : Currency) (unit : Denomination) :
    Standing currency unit (currency.rank unit) := by
  unfold rank
  split
  next named => exact .ticker named
  next unnamed =>
    split
    next own => exact .default unnamed own
    next other =>
      split
      next own => exact .base unnamed other own
      next foreign => exact .plain unnamed other foreign

theorem Standing.eq_rank {unit : Denomination} {place : Nat} (standing : Standing currency unit place) :
    place = currency.rank unit := by
  unfold rank
  cases standing with
  | ticker named => exact (if_pos named).symm
  | default unnamed own => exact ((if_neg unnamed).trans (if_pos own)).symm
  | base unnamed other own => exact ((if_neg unnamed).trans ((if_neg other).trans (if_pos own))).symm
  | plain unnamed other foreign => exact ((if_neg unnamed).trans ((if_neg other).trans (if_neg foreign))).symm

theorem precedes_iff {first second : Denomination} : Precedes currency first second ↔
    currency.rank first < currency.rank second ∨
      currency.rank first = currency.rank second ∧ first.key < second.key := by
  constructor
  · intro precedes
    cases precedes with
    | standing one other above =>
      rw [one.eq_rank, other.eq_rank] at above
      exact Or.inl above
    | name one other before => exact Or.inr ⟨one.eq_rank.symm.trans other.eq_rank, before⟩
  · intro holds
    rcases holds with above | ⟨same, before⟩
    · exact .standing (standing_rank currency first) (standing_rank currency second) above
    · exact .name (standing_rank currency first) (same ▸ standing_rank currency second) before

theorem Precedes.asymm {first second : Denomination} (precedes : Precedes currency first second) :
    ¬ Precedes currency second first := by
  intro follows
  rcases precedes_iff.mp precedes with above | ⟨same, before⟩
  · rcases precedes_iff.mp follows with below | ⟨equal, -⟩
    · exact Nat.lt_asymm above below
    · exact Nat.ne_of_gt above equal
  · rcases precedes_iff.mp follows with below | ⟨-, after⟩
    · exact Nat.ne_of_gt below same
    · exact String.lt_asymm before after

theorem leastRanked_le {rank : Denomination → Nat} {units : List Denomination} {best : Denomination}
    (least : leastRanked rank units = some best) : ∀ other ∈ units, rank best ≤ rank other := by
  induction units generalizing best with
  | nil => cases least
  | cons first rest ih =>
    intro other member
    rcases leastRanked_cons least with ⟨found, undercut⟩ | ⟨rfl, stays⟩
    · rcases List.mem_cons.mp member with rfl | later
      · exact Nat.le_of_lt undercut
      · exact ih found other later
    · rcases List.mem_cons.mp member with rfl | later
      · exact Nat.le_refl _
      · cases found : leastRanked rank rest with
        | none =>
          rw [leastRanked_eq_none_iff.mp found] at later
          cases later
        | some champion => exact Nat.le_trans (stays champion found) (ih found other later)

/-- Of the least ranks the first in the list is taken. -/
theorem leastRanked_first {rank : Denomination → Nat} {earlier : Denomination → Denomination → Prop}
    {units : List Denomination} {best : Denomination} (ordered : units.Pairwise earlier)
    (least : leastRanked rank units = some best) :
    ∀ other ∈ units, other ≠ best → rank best < rank other ∨ rank best = rank other ∧ earlier best other := by
  induction units generalizing best with
  | nil => cases least
  | cons first rest ih =>
    obtain ⟨ahead, remaining⟩ := List.pairwise_cons.mp ordered
    intro other member differs
    rcases leastRanked_cons least with ⟨found, undercut⟩ | ⟨rfl, -⟩
    · rcases List.mem_cons.mp member with rfl | later
      · exact Or.inl undercut
      · exact ih remaining found other later differs
    · -- The first of the list has held its place, and only a tie asks what comes before what.
      have later : other ∈ rest := (List.mem_cons.mp member).resolve_left differs
      rcases Nat.lt_or_eq_of_le (leastRanked_le least other member) with above | equal
      · exact Or.inl above
      · exact Or.inr ⟨equal, ahead other later⟩

theorem unitWithDecimals?_eq_none_iff {decimals : UInt8} : currency.unitWithDecimals? decimals = none ↔
    ∀ unit ∈ currency.unitList, unit.decimals ≠ decimals := by
  rw [unitWithDecimals?, leastRanked_eq_none_iff, List.filter_eq_nil_iff]
  simp only [decide_eq_true_iff, ne_eq]

theorem precedes_of_unitWithDecimals? {decimals : UInt8} {best : Denomination}
    (ordered : currency.unitList.Pairwise fun first second => first.key < second.key)
    (found : currency.unitWithDecimals? decimals = some best) :
    ∀ other ∈ currency.unitList, other.decimals = decimals → other ≠ best → Precedes currency best other := by
  intro other member fits differs
  have candidate : other ∈ currency.unitList.filter fun unit => unit.decimals = decimals :=
    List.mem_filter.mpr ⟨member, decide_eq_true fits⟩
  exact precedes_iff.mpr (leastRanked_first (ordered.filter _) found other candidate differs)

/-- Where the denominations are in the order of their keys, the one that is shown precedes all others. -/
theorem unitWithDecimals?_eq_some_iff {decimals : UInt8} {unit : Denomination}
    (ordered : currency.unitList.Pairwise fun first second => first.key < second.key) :
    currency.unitWithDecimals? decimals = some unit ↔
      (unit ∈ currency.unitList ∧ unit.decimals = decimals) ∧
      ∀ other ∈ currency.unitList, other.decimals = decimals → other ≠ unit → Precedes currency unit other := by
  constructor
  · exact fun found => ⟨decimals_of_unitWithDecimals? found, precedes_of_unitWithDecimals? ordered found⟩
  · intro holds
    obtain ⟨⟨member, fits⟩, foremost⟩ := holds
    cases found : currency.unitWithDecimals? decimals with
    | none => exact absurd fits (unitWithDecimals?_eq_none_iff.mp found unit member)
    | some best =>
      obtain ⟨inside, scaled⟩ := decimals_of_unitWithDecimals? found
      by_cases same : best = unit
      · rw [same]
      · have after := precedes_of_unitWithDecimals? ordered found unit member fits (Ne.symm same)
        exact absurd after (foremost best inside scaled same).asymm

/-- Denominations that are both named like the ticker have one key. -/
theorem NamedAfterTicker.key_eq {first second : Denomination} (one : NamedAfterTicker currency first)
    (other : NamedAfterTicker currency second) : first.key = second.key := by
  apply Text.lowercase_eq_of_sameUpToAsciiCase
  exact beq_iff_eq.mpr ((beq_iff_eq.mp one).trans (beq_iff_eq.mp other).symm)

/-- Where every key stands once, being the last under it is being listed. -/
theorem lastOf?_eq_some_iff_mem {key : String} {unit : Denomination}
    (distinct : (given.map Denomination.key).Nodup) :
    lastOf? given key = some unit ↔ unit ∈ given ∧ unit.key = key := by
  rw [lastOf?_eq_some_iff]
  constructor
  · intro holds
    obtain ⟨own, before, after, rfl, -⟩ := holds
    exact ⟨by simp, own⟩
  · intro holds
    obtain ⟨member, own⟩ := holds
    obtain ⟨before, after, rfl⟩ := List.append_of_mem member
    refine ⟨own, before, after, rfl, ?_⟩
    intro later inside same
    rw [List.map_append, List.map_cons] at distinct
    have unrepeated := (List.nodup_cons.mp (List.nodup_append.mp distinct).2.1).1
    exact unrepeated (List.mem_map.mpr ⟨later, inside, same.trans own.symm⟩)

theorem unitIndex_perm (distinct : (given.map Denomination.key).Nodup) (reordered : given.Perm others) :
    unitIndex others baseUnit defaultUnit = unitIndex given baseUnit defaultUnit := by
  apply Index.ext_find?
  intro key
  have listed : lastOf? others key = lastOf? given key := by
    apply Option.ext
    intro unit
    rw [lastOf?_eq_some_iff_mem distinct, lastOf?_eq_some_iff_mem ((reordered.map _).nodup_iff.mp distinct),
      reordered.mem_iff]
  rw [find?_unitIndex, find?_unitIndex, listed]

/-- Which denomination stands for a scale. -/
structure ChoosesUnits (currency : Currency) : Prop where
  none : ∀ decimals, currency.unitWithDecimals? decimals = none ↔
    ∀ unit ∈ currency.unitList, unit.decimals ≠ decimals
  some : ∀ decimals unit, currency.unitWithDecimals? decimals = some unit ↔
    (unit ∈ currency.unitList ∧ unit.decimals = decimals) ∧
    ∀ other ∈ currency.unitList, other.decimals = decimals → other ≠ unit → Precedes currency unit other
  ticker : ∀ unit ∈ currency.unitList, ∀ other ∈ currency.unitList,
    NamedAfterTicker currency unit → NamedAfterTicker currency other → unit = other

/-- What the denominations are decides which one is shown. As long as no two of them are listed under
one key, the same currency comes of the list in any order. -/
theorem ofParts_choosesUnits {coin : Coin} {network : Network} {listing : Listing}
    (built : ofParts coin network listing given baseUnit defaultUnit = .ok currency) :
    ChoosesUnits currency ∧
      ((given.map Denomination.key).Nodup → ∀ others : List Denomination, given.Perm others →
        ofParts coin network listing others baseUnit defaultUnit = .ok currency) := by
  obtain ⟨sameId, rfl⟩ := ofParts_eq_ok_iff.mp built
  constructor
  · exact {
      none := fun _ => unitWithDecimals?_eq_none_iff
      some := fun _ _ => unitWithDecimals?_eq_some_iff (unitIndex_ordered given baseUnit defaultUnit)
      ticker := by
        intro unit member other inside one second
        have found := mem_values_unitIndex.mp member
        rw [one.key_eq second, mem_values_unitIndex.mp inside] at found
        exact (Option.some.inj found).symm }
  · intro distinct others reordered
    apply ofParts_eq_ok_iff.mpr
    refine ⟨sameId, ?_⟩
    rw [unitIndex_perm distinct reordered]

/-- Three denominations at the scale of the default one, two of them listed. -/
def rivalUnits : List Denomination := [⟨"xbt", "XBT", 8⟩, ⟨"bit", "bits", 2⟩, ⟨"Coin", "C", 8⟩]

theorem ofParts_choosesUnits_bitcoin :
    (ofParts bitcoinCoin bitcoinNetwork bitcoinListing rivalUnits satoshi wholeBitcoin
        = .ok (bitcoinWith rivalUnits) ∧
      (rivalUnits.map Denomination.key).Nodup ∧ rivalUnits.Perm rivalUnits.reverse) ∧
    ChoosesUnits (bitcoinWith rivalUnits) ∧
    ofParts bitcoinCoin bitcoinNetwork bitcoinListing rivalUnits.reverse satoshi wholeBitcoin
      = .ok (bitcoinWith rivalUnits) := by
  have built : ofParts bitcoinCoin bitcoinNetwork bitcoinListing rivalUnits satoshi wholeBitcoin
      = .ok (bitcoinWith rivalUnits) := ofParts_eq_ok_iff.mpr ⟨rfl, rfl⟩
  have distinct : (rivalUnits.map Denomination.key).Nodup := by decide
  have reordered : rivalUnits.Perm rivalUnits.reverse := (List.reverse_perm rivalUnits).symm
  obtain ⟨chooses, anyOrder⟩ := ofParts_choosesUnits built
  exact ⟨⟨built, distinct, reordered⟩, chooses, anyOrder distinct rivalUnits.reverse reordered⟩

/-- The ticker comes first, and of equals the key that is first in order. -/
example : (bitcoinWith rivalUnits).unitWithDecimals? 8 = some wholeBitcoin ∧
    (bitcoinWith [⟨"Mite", "m", 2⟩, ⟨"bit", "bits", 2⟩]).unitWithDecimals? 2 = some ⟨"bit", "bits", 2⟩ := by
  decide

end WalletCurrencies.Currency
