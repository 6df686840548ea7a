import Mathlib.Data.List.Dedup
import WalletCurrencies.Proofs.ByteOrder
import WalletCurrencies.Proofs.Loading

/-! A catalog is the map of the first usable records: of those that decode to one id it holds
what the first decodes to, under that id, and nothing else. -/

namespace WalletCurrencies.Catalog

open Json Proofs

def DecodesAt (settings : Settings) (records : List Value) (index : Nat) (listing : Listing) : Prop :=
  ∃ record, records[index]? = some record ∧ Listing.decode settings record = .ok listing

def RefusedAt (settings : Settings) (records : List Value) (index : Nat) (failure : Failure) : Prop :=
  ∃ record, records[index]? = some record ∧ Listing.decode settings record = .error failure

/-- No record before this position decodes to the same id. -/
def FirstAt (settings : Settings) (records : List Value) (id : CurrencyId) (index : Nat)
    (listing : Listing) : Prop :=
  DecodesAt settings records index listing ∧ listing.id = id ∧
    ∀ earlier < index, ∀ other, DecodesAt settings records earlier other → other.id ≠ id

/-- The catalog holds the first usable record of every id, in the order of the bytes of the ids. -/
structure FirstWins (settings : Settings) (records : List Value) (catalog : Catalog) : Prop where
  found : ∀ id, (catalog.find? id).isSome ↔
    ∃ index listing, DecodesAt settings records index listing ∧ listing.id = id
  first : ∀ id listing, catalog.find? id = some listing ↔ ∃ index, FirstAt settings records id index listing
  contains : ∀ id, catalog.contains id = true ↔ (catalog.find? id).isSome = true
  ownId : ∀ id listing, catalog.find? id = some listing → listing.id = id
  listed : ∀ listing, listing ∈ catalog.toList ↔ catalog.find? listing.id = some listing
  ordered : catalog.toList.Pairwise fun before after =>
    ByteOrder.bytes before.id.text < ByteOrder.bytes after.id.text
  counted : catalog.size = ((usable settings records).map (·.id)).dedup.length

variable {settings : Settings}

theorem decodesAt_zero {record : Value} {rest : List Value} {listing : Listing} :
    DecodesAt settings (record :: rest) 0 listing ↔ Listing.decode settings record = .ok listing := by
  simp [DecodesAt]

theorem decodesAt_succ {record : Value} {rest : List Value} {index : Nat} {listing : Listing} :
    DecodesAt settings (record :: rest) (index + 1) listing ↔ DecodesAt settings rest index listing := by
  simp [DecodesAt]

section

variable {records : List Value}

private theorem outcome_eq {index : Nat} {first second : Except Failure Listing}
    (left : ∃ record, records[index]? = some record ∧ Listing.decode settings record = first)
    (right : ∃ record, records[index]? = some record ∧ Listing.decode settings record = second) :
    first = second := by
  obtain ⟨record, placed, rfl⟩ := left
  obtain ⟨other, same, rfl⟩ := right
  rw [placed] at same
  cases same
  rfl

theorem DecodesAt.listing_eq {index : Nat} {first second : Listing}
    (left : DecodesAt settings records index first) (right : DecodesAt settings records index second) :
    first = second :=
  Except.ok.inj (outcome_eq left right)

theorem RefusedAt.failure_eq {index : Nat} {first second : Failure}
    (left : RefusedAt settings records index first) (right : RefusedAt settings records index second) :
    first = second :=
  Except.error.inj (outcome_eq left right)

theorem DecodesAt.not_refusedAt {index : Nat} {listing : Listing} {failure : Failure}
    (decoded : DecodesAt settings records index listing) : ¬ RefusedAt settings records index failure :=
  fun refused => by cases outcome_eq decoded refused

theorem decodesAt_or_refusedAt {index : Nat} (inside : index < records.length) :
    (∃ listing, DecodesAt settings records index listing) ∨ ∃ failure, RefusedAt settings records index failure := by
  have placed := List.getElem?_eq_getElem inside
  cases decoded : Listing.decode settings records[index] with
  | error failure => exact Or.inr ⟨failure, _, placed, decoded⟩
  | ok listing => exact Or.inl ⟨listing, _, placed, decoded⟩

theorem decodesAt_take {count index : Nat} {listing : Listing} :
    DecodesAt settings (records.take count) index listing ↔
      index < count ∧ DecodesAt settings records index listing := by
  unfold DecodesAt
  rw [List.getElem?_take]
  by_cases inside : index < count <;> simp [inside]

theorem FirstAt.index_eq {id : CurrencyId} {first second : Nat} {listing other : Listing}
    (left : FirstAt settings records id first listing) (right : FirstAt settings records id second other) :
    first = second := by
  rcases Nat.lt_trichotomy first second with before | same | after
  · exact absurd left.2.1 (right.2.2 first before listing left.1)
  · exact same
  · exact absurd right.2.1 (left.2.2 second after other right.1)

end

/-- A record in front that has another id, or none, only moves the others on. -/
private theorem firstAt_cons {record : Value} {rest : List Value} {id : CurrencyId} {listing : Listing}
    (passed : ∀ other, Listing.decode settings record = .ok other → other.id ≠ id) :
    (∃ index, FirstAt settings (record :: rest) id index listing) ↔
      ∃ index, FirstAt settings rest id index listing := by
  constructor
  · intro holds
    obtain ⟨index, decoded, own, earliest⟩ := holds
    cases index with
    | zero => exact absurd own (passed listing (decodesAt_zero.mp decoded))
    | succ index =>
      refine ⟨index, decodesAt_succ.mp decoded, own, ?_⟩
      intro earlier inside other before
      exact earliest (earlier + 1) (Nat.succ_lt_succ inside) other (decodesAt_succ.mpr before)
  · intro holds
    obtain ⟨index, decoded, own, earliest⟩ := holds
    refine ⟨index + 1, decodesAt_succ.mpr decoded, own, ?_⟩
    intro earlier inside other before
    cases earlier with
    | zero => exact passed other (decodesAt_zero.mp before)
    | succ earlier => exact earliest earlier (Nat.lt_of_succ_lt_succ inside) other (decodesAt_succ.mp before)

theorem firstOf?_eq_some_iff {records : List Value} {id : CurrencyId} {listing : Listing} :
    firstOf? settings records id = some listing ↔ ∃ index, FirstAt settings records id index listing := by
  induction records with
  | nil => simp [firstOf?, usable, FirstAt, DecodesAt]
  | cons record rest ih =>
    rw [← List.singleton_append, firstOf?_append, List.singleton_append]
    cases decoded : Listing.decode settings record with
    | error failure =>
      rw [firstOf?_of_error decoded, Option.none_or, ih, firstAt_cons]
      intro other impossible
      rw [decoded] at impossible
      cases impossible
    | ok head =>
      rw [firstOf?_of_ok decoded]
      by_cases own : head.id = id
      · rw [if_pos own, Option.some_or, Option.some_inj]
        constructor
        · intro same
          subst same
          exact ⟨0, decodesAt_zero.mpr decoded, own, fun _ impossible => absurd impossible (Nat.not_lt_zero _)⟩
        · intro holds
          obtain ⟨index, found, -, earliest⟩ := holds
          cases index with
          | zero =>
            rw [decodesAt_zero, decoded] at found
            exact Except.ok.inj found
          | succ index =>
            exact absurd own (earliest 0 (Nat.zero_lt_succ index) head (decodesAt_zero.mpr decoded))
      · rw [if_neg own, Option.none_or, ih, firstAt_cons]
        intro other same
        rw [decoded] at same
        cases same
        exact own

theorem firstOf?_isSome_iff {records : List Value} {id : CurrencyId} :
    (firstOf? settings records id).isSome ↔
      ∃ index listing, DecodesAt settings records index listing ∧ listing.id = id := by
  rw [firstOf?_isSome_iff_mem, List.mem_map]
  constructor
  · intro holds
    obtain ⟨listing, member, own⟩ := holds
    obtain ⟨record, inside, decoded⟩ := mem_usable.mp member
    obtain ⟨index, placed⟩ := List.mem_iff_getElem?.mp inside
    exact ⟨index, listing, ⟨record, placed, decoded⟩, own⟩
  · intro holds
    obtain ⟨index, listing, ⟨record, placed, decoded⟩, own⟩ := holds
    exact ⟨listing, mem_usable.mpr ⟨record, List.mem_of_getElem? placed, decoded⟩, own⟩

/-- What is found in a catalog decides what it holds. -/
theorem listings_eq_of_find? {first second : Catalog} (same : ∀ id, first.find? id = second.find? id) :
    first.listings = second.listings :=
  Index.ext_find? fun key => same ⟨key⟩

theorem toJson_eq_of_find? {first second : Catalog} (same : ∀ id, first.find? id = second.find? id) :
    first.toJson = second.toJson := by
  simp only [toJson, toList, listings_eq_of_find? same]

variable (settings) (now : Instant) (records : List Value)

theorem id_of_find? {id : CurrencyId} {listing : Listing}
    (found : (ofRecords settings now records).find? id = some listing) : listing.id = id := by
  rw [find?_ofRecords] at found
  exact id_of_firstOf? found

theorem id_of_mem_entries {key : String} {listing : Listing}
    (member : (key, listing) ∈ (ofRecords settings now records).listings.entries) : listing.id = ⟨key⟩ := by
  rw [Index.mem_entries] at member
  exact id_of_find? settings now records member

theorem mem_toList_ofRecords {listing : Listing} :
    listing ∈ (ofRecords settings now records).toList ↔
      (ofRecords settings now records).find? listing.id = some listing := by
  unfold toList
  rw [Index.mem_values]
  constructor
  · intro holds
    obtain ⟨key, found⟩ := holds
    have own := id_of_mem_entries settings now records ((Index.mem_entries _ _ _).mpr found)
    unfold Catalog.find?
    rw [own]
    exact found
  · exact fun found => ⟨listing.id.text, found⟩

theorem find?_eq_some_iff {id : CurrencyId} {listing : Listing} :
    (ofRecords settings now records).find? id = some listing ↔
      listing ∈ (ofRecords settings now records).toList ∧ listing.id = id := by
  rw [mem_toList_ofRecords]
  constructor
  · intro found
    have own := id_of_find? settings now records found
    subst own
    exact ⟨found, rfl⟩
  · intro holds
    obtain ⟨found, rfl⟩ := holds
    exact found

theorem toList_ofRecords_ordered :
    (ofRecords settings now records).toList.Pairwise fun before after =>
      ByteOrder.bytes before.id.text < ByteOrder.bytes after.id.text := by
  apply List.pairwise_map.mpr
  refine (ofRecords settings now records).listings.ascending.imp_of_mem ?_
  intro before after member later smaller
  rw [id_of_mem_entries settings now records member, id_of_mem_entries settings now records later]
  exact (ByteOrder.bytes_lt_iff _ _).mpr smaller

theorem mem_ids_toList (id : CurrencyId) :
    id ∈ (ofRecords settings now records).toList.map (·.id) ↔ id ∈ (usable settings records).map (·.id) := by
  rw [← firstOf?_isSome_iff_mem, ← find?_ofRecords now, List.mem_map, Option.isSome_iff_exists]
  simp only [find?_eq_some_iff]

theorem nodup_ids_toList : ((ofRecords settings now records).toList.map (·.id)).Nodup := by
  apply List.pairwise_map.mpr
  refine (toList_ofRecords_ordered settings now records).imp ?_
  intro before after smaller same
  rw [same] at smaller
  exact List.lt_irrefl _ smaller

theorem length_ids_toList (catalog : Catalog) : (catalog.toList.map (·.id)).length = catalog.size := by
  simp only [toList, Index.values, size, Index.size, List.length_map]

theorem size_ofRecords :
    (ofRecords settings now records).size = ((usable settings records).map (·.id)).dedup.length := by
  have same_ids : List.Perm ((ofRecords settings now records).toList.map (·.id))
      ((usable settings records).map (·.id)).dedup := by
    rw [List.perm_ext_iff_of_nodup (nodup_ids_toList settings now records) (List.nodup_dedup _)]
    intro id
    rw [List.mem_dedup, mem_ids_toList]
  rw [← same_ids.length_eq, length_ids_toList]

theorem contains_iff_mem_usable {id : CurrencyId} :
    (ofRecords settings now records).contains id = true ↔ id ∈ (usable settings records).map (·.id) := by
  rw [← firstOf?_isSome_iff_mem, ← find?_ofRecords now]
  rfl

theorem contains_iff_mem_ids {id : CurrencyId} :
    (ofRecords settings now records).contains id = true ↔
      id ∈ (ofRecords settings now records).toList.map (·.id) := by
  rw [contains_iff_mem_usable, mem_ids_toList]

/-- No id is counted twice. -/
theorem size_le_length_of_contains {ids : List CurrencyId}
    (inside : ∀ id, (ofRecords settings now records).contains id = true → id ∈ ids) :
    (ofRecords settings now records).size ≤ ids.length := by
  have held : (ofRecords settings now records).toList.map (·.id) ⊆ ids :=
    fun id member => inside id ((contains_iff_mem_ids settings now records).mpr member)
  rw [← length_ids_toList]
  exact (List.subperm_of_subset (nodup_ids_toList settings now records) held).length_le

theorem size_le_of_contains {other : Settings} {later : Instant} {others : List Value}
    (inside : ∀ id, (ofRecords settings now records).contains id = true →
      (ofRecords other later others).contains id = true) :
    (ofRecords settings now records).size ≤ (ofRecords other later others).size := by
  rw [← length_ids_toList (ofRecords other later others)]
  apply size_le_length_of_contains
  exact fun id held => (contains_iff_mem_ids other later others).mp (inside id held)

theorem ofRecords_firstWins : FirstWins settings records (ofRecords settings now records) where
  found id := by rw [find?_ofRecords, firstOf?_isSome_iff]
  first id listing := by rw [find?_ofRecords, firstOf?_eq_some_iff]
  contains _ := Iff.rfl
  ownId _ _ found := id_of_find? settings now records found
  listed _ := mem_toList_ofRecords settings now records
  ordered := toList_ofRecords_ordered settings now records
  counted := size_ofRecords settings now records

end WalletCurrencies.Catalog
