import WalletCurrencies.Proofs.FirstWins

/-! No record is lost on the way into a catalog. Each is either held or left out with a reason, and
it is left out only if it does not decode or if an earlier one decodes to its id. -/

namespace WalletCurrencies.Catalog

open Json

variable {settings : Settings} {records : List Value}

/-- Why the record at this position is left out. -/
inductive LeftOut (settings : Settings) (records : List Value) (index : Nat) : Failure → Prop where
  | undecodable {failure} (refused : RefusedAt settings records index failure) :
      LeftOut settings records index failure
  | repeated {listing earlier other} (decoded : DecodesAt settings records index listing)
      (before : earlier < index) (taken : DecodesAt settings records earlier other)
      (same : other.id = listing.id) : LeftOut settings records index (.duplicateCurrency listing.id.text)

/-- The refusals of a catalog and its listings share the positions of the records among them. -/
structure Accounted (settings : Settings) (records : List Value) (catalog : Catalog) : Prop where
  ordered : catalog.rejected.Pairwise fun before after => before.index < after.index
  rejected : ∀ rejection, rejection ∈ catalog.rejected ↔
    ∃ cause, LeftOut settings records rejection.index cause ∧
      rejection.failure = .malformedRecord rejection.index cause.message
  kept : ∀ index < records.length, (∀ rejection ∈ catalog.rejected, rejection.index ≠ index) →
    ∃! listing, listing ∈ catalog.toList ∧ DecodesAt settings records index listing
  entered : ∀ listing ∈ catalog.toList,
    ∃! index, (∀ rejection ∈ catalog.rejected, rejection.index ≠ index) ∧
      DecodesAt settings records index listing
  counted : catalog.size + catalog.rejected.length = records.length

theorem LeftOut.index_lt {index : Nat} {cause : Failure} (out : LeftOut settings records index cause) :
    index < records.length := by
  cases out with
  | undecodable refused =>
    obtain ⟨record, placed, -⟩ := refused
    exact (List.getElem?_eq_some_iff.mp placed).1
  | repeated decoded before taken same =>
    obtain ⟨record, placed, -⟩ := decoded
    exact (List.getElem?_eq_some_iff.mp placed).1

theorem leftOut_iff_refusal? {index : Nat} {record : Value} (placed : records[index]? = some record)
    {cause : Failure} :
    LeftOut settings records index cause ↔ refusal? settings (records.take index) record = some cause := by
  unfold refusal?
  cases outcome : Listing.decode settings record with
  | error failure =>
    have refused : RefusedAt settings records index failure := ⟨record, placed, outcome⟩
    rw [Option.some_inj]
    constructor
    · intro out
      cases out with
      | undecodable again => exact refused.failure_eq again
      | repeated decoded before taken same => exact absurd refused decoded.not_refusedAt
    · intro same
      subst same
      exact .undecodable refused
  | ok listing =>
    have decoded : DecodesAt settings records index listing := ⟨record, placed, outcome⟩
    simp only [firstOf?_isSome_iff, decodesAt_take, Option.ite_none_right_eq_some, Option.some_inj]
    constructor
    · intro out
      cases out with
      | undecodable refused => exact absurd refused decoded.not_refusedAt
      | repeated again before taken same =>
        cases decoded.listing_eq again
        exact ⟨⟨_, _, ⟨before, taken⟩, same⟩, rfl⟩
    · intro holds
      obtain ⟨⟨earlier, other, ⟨before, taken⟩, same⟩, rfl⟩ := holds
      exact .repeated decoded before taken same

theorem mem_refusals {rejection : Rejection} :
    rejection ∈ refusals settings records ↔
      ∃ cause, LeftOut settings records rejection.index cause ∧ rejection.reason = cause.message := by
  unfold refusals
  rw [List.mem_filterMap]
  constructor
  · intro holds
    obtain ⟨⟨record, index⟩, member, left⟩ := holds
    obtain ⟨cause, refused, rfl⟩ := Option.map_eq_some_iff.mp left
    have placed := List.mem_zipIdx_iff_getElem?.mp member
    exact ⟨cause, (leftOut_iff_refusal? placed).mpr refused, rfl⟩
  · intro holds
    obtain ⟨cause, out, reason⟩ := holds
    have placed := List.getElem?_eq_getElem out.index_lt
    refine ⟨(_, rejection.index), List.mem_zipIdx_iff_getElem?.mpr placed, ?_⟩
    simp only [(leftOut_iff_refusal? placed).mp out, Option.map_some, ← reason]

theorem refusals_ordered (settings : Settings) (records : List Value) :
    (refusals settings records).Pairwise fun before after => before.index < after.index := by
  induction records using List.reverseRecOn with
  | nil => exact List.Pairwise.nil
  | append_singleton done record ih =>
    rw [refusals_append_singleton, List.pairwise_append]
    refine ⟨ih, ?_, ?_⟩
    · cases refusal? settings done record <;> simp
    · intro earlier member last inside
      obtain ⟨cause, out, -⟩ := mem_refusals.mp member
      obtain ⟨failure, -, rfl⟩ := Option.map_eq_some_iff.mp (Option.mem_toList.mp inside)
      exact out.index_lt

/-- A record that decodes is left out exactly if it is not the first of its id. -/
theorem not_leftOut_iff_firstAt {index : Nat} {listing : Listing}
    (decoded : DecodesAt settings records index listing) :
    (∀ cause, ¬ LeftOut settings records index cause) ↔
      FirstAt settings records listing.id index listing := by
  constructor
  · intro stays
    refine ⟨decoded, rfl, ?_⟩
    intro earlier before other taken same
    exact stays _ (.repeated decoded before taken same)
  · intro first cause out
    cases out with
    | undecodable refused => exact decoded.not_refusedAt refused
    | repeated again before taken same =>
      cases decoded.listing_eq again
      exact first.2.2 _ before _ taken same

namespace Loading

/-- Every record that was read is held or left out. -/
def Balanced (loading : Loading) : Prop :=
  loading.listings.size + loading.rejected.length = loading.read

theorem Reads.balanced {before after : Loading} {record : Value} (reads : Reads settings before record after)
    (balanced : before.Balanced) : after.Balanced := by
  unfold Balanced at balanced
  cases reads with
  | kept decoded fresh =>
    simp only [Balanced, Index.size_put_of_absent fresh]
    omega
  | undecodable refused =>
    simp only [Balanced, List.length_append, List.length_singleton]
    omega
  | repeated decoded taken =>
    simp only [Balanced, List.length_append, List.length_singleton]
    omega

theorem balanced_foldl (records : List Value) {before : Loading} (balanced : before.Balanced) :
    (records.foldl (Loading.step settings) before).Balanced := by
  induction records generalizing before with
  | nil => exact balanced
  | cons record rest ih => exact ih ((reads_step before record).balanced balanced)

end Loading

theorem size_add_rejected (settings : Settings) (now : Instant) (records : List Value) :
    (ofRecords settings now records).size + (ofRecords settings now records).rejected.length
      = records.length := by
  have balanced : (records.foldl (Loading.step settings) Loading.start).Balanced :=
    Loading.balanced_foldl records rfl
  rw [Loading.Balanced, (Loading.gathered_foldl records).read] at balanced
  exact balanced

theorem recordsOfJson_eq_ok_iff {text : String} :
    recordsOfJson text = .ok records ↔ parse text = .ok (.list records) := by
  unfold recordsOfJson
  cases parse text with
  | error problem => simp
  | ok value => cases value <;> simp

theorem recordsOfJson_malformed {text : String} {failure : Failure}
    (refused : recordsOfJson text = .error failure) : ∃ reason, failure = .malformedDocument reason := by
  unfold recordsOfJson at refused
  split at refused
  next => cases refused
  next =>
    cases refused
    exact ⟨_, rfl⟩
  next =>
    cases refused
    exact ⟨_, rfl⟩

variable {now : Instant}

theorem rejected_free_iff {index : Nat} :
    (∀ rejection ∈ (ofRecords settings now records).rejected, rejection.index ≠ index) ↔
      ∀ cause, ¬ LeftOut settings records index cause := by
  rw [rejected_ofRecords]
  constructor
  · intro free cause out
    exact free ⟨index, cause.message⟩ (mem_refusals.mpr ⟨cause, out, rfl⟩) rfl
  · intro stays rejection member same
    subst same
    obtain ⟨cause, out, -⟩ := mem_refusals.mp member
    exact stays cause out

/-- What stands at a position that is not among the refusals is held under its own id. -/
theorem kept_iff_firstAt {index : Nat} {listing : Listing} :
    (∀ rejection ∈ (ofRecords settings now records).rejected, rejection.index ≠ index) ∧
        DecodesAt settings records index listing ↔
      FirstAt settings records listing.id index listing := by
  rw [rejected_free_iff]
  constructor
  · intro holds
    obtain ⟨stays, decoded⟩ := holds
    exact (not_leftOut_iff_firstAt decoded).mp stays
  · intro first
    exact ⟨(not_leftOut_iff_firstAt first.1).mpr first, first.1⟩

theorem mem_toList_iff_firstAt {listing : Listing} :
    listing ∈ (ofRecords settings now records).toList ↔
      ∃ index, FirstAt settings records listing.id index listing := by
  rw [mem_toList_ofRecords, find?_ofRecords, firstOf?_eq_some_iff]

theorem ofRecords_accounted (settings : Settings) (now : Instant) (records : List Value) :
    Accounted settings records (ofRecords settings now records) where
  ordered := by
    rw [rejected_ofRecords]
    exact refusals_ordered settings records
  rejected rejection := by
    rw [rejected_ofRecords, mem_refusals]
    simp only [Rejection.failure, Failure.malformedRecord.injEq, true_and]
  kept index inside free := by
    have stays := rejected_free_iff.mp free
    have usable := (decodesAt_or_refusedAt inside).resolve_right fun ⟨_, refused⟩ => stays _ (.undecodable refused)
    obtain ⟨listing, decoded⟩ := usable
    have first := kept_iff_firstAt.mp ⟨free, decoded⟩
    refine ⟨listing, ⟨mem_toList_iff_firstAt.mpr ⟨index, first⟩, decoded⟩, ?_⟩
    intro other holds
    exact holds.2.listing_eq decoded
  entered listing member := by
    obtain ⟨index, first⟩ := mem_toList_iff_firstAt.mp member
    refine ⟨index, kept_iff_firstAt.mpr first, ?_⟩
    intro other holds
    exact (kept_iff_firstAt.mp holds).index_eq first
  counted := size_add_rejected settings now records

theorem ofJson_eq_ok_iff {text : String} {catalog : Catalog} :
    ofJson settings now text = .ok catalog ↔
      ∃ records, parse text = .ok (.list records) ∧ catalog = ofRecords settings now records := by
  simp only [← recordsOfJson_eq_ok_iff]
  unfold ofJson
  cases recordsOfJson text with
  | error failure => simp [Except.map]
  | ok records => simp [Except.map, eq_comm]

theorem ofJson_malformed {text : String} {failure : Failure} (refused : ofJson settings now text = .error failure) :
    ∃ reason, failure = .malformedDocument reason := by
  unfold ofJson at refused
  cases read : recordsOfJson text with
  | error other =>
    rw [read] at refused
    cases refused
    exact recordsOfJson_malformed read
  | ok records =>
    rw [read] at refused
    cases refused

/-- A text is refused as a whole only if it is no list. Of the records of a list each is held or
left out, and the refusals say which and why. -/
theorem no_record_lost (settings : Settings) (now : Instant) :
    (∀ records, Accounted settings records (ofRecords settings now records)) ∧
      (∀ text catalog, ofJson settings now text = .ok catalog ↔
        ∃ records, parse text = .ok (.list records) ∧ catalog = ofRecords settings now records) ∧
      ∀ text failure, ofJson settings now text = .error failure →
        ∃ reason, failure = .malformedDocument reason :=
  ⟨ofRecords_accounted settings now, fun _ _ => ofJson_eq_ok_iff, fun _ _ => ofJson_malformed⟩

end WalletCurrencies.Catalog
