import WalletCurrencies.Proofs.FirstWins

/-! Lists in which no two records decode to one id. Nothing depends on the order of such a list:
what its catalog holds is decided by which records it has, and a record is left out only if it does
not decode. -/

namespace WalletCurrencies.Catalog

open Json

/-- No two positions decode to one id. -/
def Distinct (settings : Settings) (records : List Value) : Prop :=
  ∀ first second listing other, DecodesAt settings records first listing →
    DecodesAt settings records second other → listing.id = other.id → first = second

/-- What is said of the records that do not decode, in the order of the list. -/
def complaints (settings : Settings) (records : List Value) : List String :=
  records.filterMap fun record =>
    match Listing.decode settings record with
    | .error failure => some failure.message
    | .ok _ => none

variable {settings : Settings} {records : List Value}

theorem distinct_iff : Distinct settings records ↔ ((usable settings records).map (·.id)).Nodup := by
  unfold List.Nodup
  rw [List.pairwise_map, usable, List.pairwise_filterMap, List.pairwise_iff_getElem]
  simp only [toOption_eq_some_iff]
  constructor
  · intro distinct first second inside within before listing decoded other again same
    have met := distinct first second listing other ⟨_, List.getElem?_eq_getElem inside, decoded⟩
      ⟨_, List.getElem?_eq_getElem within, again⟩ same
    exact Nat.ne_of_lt before met
  · intro apart first second listing other left right same
    obtain ⟨record, placed, decoded⟩ := left
    obtain ⟨again, later, repeated⟩ := right
    obtain ⟨inside, rfl⟩ := List.getElem?_eq_some_iff.mp placed
    obtain ⟨within, rfl⟩ := List.getElem?_eq_some_iff.mp later
    rcases Nat.lt_trichotomy first second with before | met | after
    · exact absurd same (apart first second inside within before listing decoded other repeated)
    · exact met
    · exact absurd same.symm (apart second first within inside after other repeated listing decoded)

theorem find?_id_eq_some_iff {listings : List Listing} (distinct : (listings.map (·.id)).Nodup) {id : CurrencyId}
    {listing : Listing} :
    (listings.find? fun listing => listing.id = id) = some listing ↔ listing ∈ listings ∧ listing.id = id := by
  constructor
  · intro found
    exact ⟨List.mem_of_find?_eq_some found, by simpa using List.find?_some found⟩
  · intro holds
    obtain ⟨member, rfl⟩ := holds
    cases found : listings.find? fun other => other.id = listing.id with
    | none =>
      have absent := List.find?_eq_none.mp found listing member
      exact absurd (decide_eq_true rfl) absent
    | some other =>
      have inside := List.mem_of_find?_eq_some found
      have own : other.id = listing.id := by simpa using List.find?_some found
      rw [List.inj_on_of_nodup_map distinct inside member own]

/-- The id of a record that decodes is new to a list that stays distinct with it. -/
theorem refusal?_eq_none_of_nodup {done : List Value} {record : Value} {listing : Listing}
    (distinct : ((usable settings (done ++ [record])).map (·.id)).Nodup)
    (decoded : Listing.decode settings record = .ok listing) : refusal? settings done record = none := by
  rw [usable_append, usable_of_ok decoded, List.map_append, List.nodup_append] at distinct
  obtain ⟨-, -, apart⟩ := distinct
  apply refusal?_of_fresh decoded
  rw [← Option.not_isSome_iff_eq_none, firstOf?_isSome_iff_mem]
  intro taken
  exact apart listing.id taken listing.id (List.mem_singleton_self _) rfl

theorem reasons_refusals (distinct : ((usable settings records).map (·.id)).Nodup) :
    (refusals settings records).map (·.reason) = complaints settings records := by
  -- From the end, because a refusal depends on the records before it.
  induction records using List.reverseRecOn with
  | nil => rfl
  | append_singleton done record ih =>
    have earlier : ((usable settings done).map (·.id)).Nodup := by
      rw [usable_append, List.map_append] at distinct
      exact distinct.of_append_left
    rw [refusals_append_singleton, List.map_append, ih earlier, complaints, complaints, List.filterMap_append]
    congr 1
    cases decoded : Listing.decode settings record with
    | error failure => simp [refusal?_of_error decoded, decoded]
    | ok listing => simp [refusal?_eq_none_of_nodup distinct decoded, decoded]

end WalletCurrencies.Catalog
