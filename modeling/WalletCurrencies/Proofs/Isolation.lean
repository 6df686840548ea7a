import WalletCurrencies.Proofs.Accounting
import WalletCurrencies.Proofs.CatalogIds

/-! A record that is left out costs only itself. A load that meets it and a load that does not go on
side by side: after every further record they hold the same listings, and have left out the same
records but for this one. -/

namespace WalletCurrencies

/-- The refusal of a record that stands one place further down. -/
def Rejection.moved (rejection : Rejection) : Rejection := { rejection with index := rejection.index + 1 }

namespace Catalog

open Json

/-- What a catalog is to that of the same records without one, which is left out at this position. -/
structure Isolates (position : Nat) (cause : Failure) (without catalog : Catalog) : Prop where
  found : ∀ id, catalog.find? id = without.find? id
  text : catalog.toJson = without.toJson
  rejected : ∃ before after, without.rejected = before ++ after ∧
    (∀ rejection ∈ before, rejection.index < position) ∧
    (∀ rejection ∈ after, position ≤ rejection.index) ∧
    catalog.rejected = before ++ ⟨position, cause.message⟩ :: after.map Rejection.moved

variable {settings : Settings}

namespace Loading

/-- The second load has read one record more than the first, and has left it out after `before`. -/
structure Behind (before : List Rejection) (position : Nat) (cause : Failure) (first second : Loading) : Prop where
  read : second.read = first.read + 1
  reached : position ≤ first.read
  listings : second.listings = first.listings
  rejected : ∃ after, first.rejected = before ++ after ∧ (∀ rejection ∈ after, position ≤ rejection.index) ∧
    second.rejected = before ++ ⟨position, cause.message⟩ :: after.map Rejection.moved

variable {before : List Rejection} {position : Nat} {cause : Failure} {first second : Loading}

/-- Whether a record is kept depends on the listings alone, which are the same in both loads. -/
theorem Behind.step (behind : Behind before position cause first second) (record : Value) :
    Behind before position cause (first.step settings record) (second.step settings record) := by
  obtain ⟨after, leftOut, beyond, withIt⟩ := behind.rejected
  have reached : position ≤ first.read + 1 := Nat.le_succ_of_le behind.reached
  unfold Loading.step
  rw [behind.listings]
  split
  next listing events _ =>
    exact ⟨congrArg (· + 1) behind.read, reached, rfl, after, leftOut, beyond, withIt⟩
  next failure events _ =>
    refine ⟨congrArg (· + 1) behind.read, reached, rfl, after ++ [⟨first.read, failure.message⟩], ?_, ?_, ?_⟩
    · simp only [leftOut, List.append_assoc]
    · intro rejection member
      rcases List.mem_append.mp member with earlier | last
      · exact beyond rejection earlier
      · rw [List.mem_singleton.mp last]
        exact behind.reached
    · simp [withIt, behind.read, Rejection.moved]

theorem Behind.foldl (behind : Behind before position cause first second) (records : List Value) :
    Behind before position cause (records.foldl (Loading.step settings) first)
      (records.foldl (Loading.step settings) second) := by
  induction records generalizing first second with
  | nil => exact behind
  | cons record rest ih => exact ih (behind.step record)

/-- A load falls behind itself by a record that it leaves out. -/
theorem Gathered.behind {done : List Value} {record : Value} (gathered : Gathered settings done first)
    (refused : refusal? settings done record = some cause) :
    Behind first.rejected done.length cause first (first.step settings record) := by
  have next := gathered.step record
  refine ⟨?_, gathered.read.ge, ?_, [], (List.append_nil _).symm, nofun, ?_⟩
  · rw [next.read, gathered.read, List.length_append, List.length_singleton]
  · apply Index.ext_find?
    intro key
    have same := firstOf?_of_refusal? refused ⟨key⟩
    rwa [← next.listings, ← gathered.listings] at same
  · rw [next.rejected, refusals_append_singleton, refused, gathered.rejected]
    rfl

end Loading

theorem index_lt_of_mem_refusals {records : List Value} {rejection : Rejection}
    (member : rejection ∈ refusals settings records) : rejection.index < records.length := by
  obtain ⟨cause, out, -⟩ := mem_refusals.mp member
  exact out.index_lt

theorem refusal?_of_leftOut {before after : List Value} {record : Value} {cause : Failure}
    (out : LeftOut settings (before ++ record :: after) before.length cause) :
    refusal? settings before record = some cause := by
  have placed : (before ++ record :: after)[before.length]? = some record := by simp
  have refused := (leftOut_iff_refusal? placed).mp out
  rwa [List.take_left] at refused

/-- Neither a record that does not decode nor one whose id is taken changes what becomes of the
others, wherever it stands. -/
theorem ofRecords_isolates {before after : List Value} {record : Value} {cause : Failure}
    (out : LeftOut settings (before ++ record :: after) before.length cause) (now later : Instant) :
    Isolates before.length cause (ofRecords settings now (before ++ after))
      (ofRecords settings later (before ++ record :: after)) := by
  have gathered : Loading.Gathered settings before (before.foldl (Loading.step settings) Loading.start) :=
    Loading.gathered_foldl before
  have behind : Loading.Behind (refusals settings before) before.length cause
      ((before ++ after).foldl (Loading.step settings) Loading.start)
      ((before ++ record :: after).foldl (Loading.step settings) Loading.start) := by
    rw [List.foldl_append, List.foldl_append, List.foldl_cons, ← gathered.rejected]
    exact (gathered.behind (refusal?_of_leftOut out)).foldl after
  have found (id : CurrencyId) : (ofRecords settings later (before ++ record :: after)).find? id
      = (ofRecords settings now (before ++ after)).find? id :=
    congrArg (·.find? id.text) behind.listings
  obtain ⟨others, leftOut, beyond, withIt⟩ := behind.rejected
  exact {
    found
    text := toJson_eq_of_find? found
    rejected := ⟨_, others, leftOut, fun _ => index_lt_of_mem_refusals, beyond, withIt⟩ }

/-- A value that is no record in front of one that is, and the same record once more behind it. -/
theorem ofRecords_isolates_bread :
    (LeftOut .mainnet [.null, breadRecord] 0 (.undecodableRecord "invalid type: null, expected struct WireRecord") ∧
      Isolates 0 (.undecodableRecord "invalid type: null, expected struct WireRecord")
        (ofRecords .mainnet ⟨0, 0⟩ [breadRecord]) (ofRecords .mainnet ⟨1, 0⟩ [.null, breadRecord])) ∧
    LeftOut .mainnet [breadRecord, breadRecord] 1 (.duplicateCurrency breadId) ∧
      Isolates 1 (.duplicateCurrency breadId)
        (ofRecords .mainnet ⟨0, 0⟩ [breadRecord]) (ofRecords .mainnet ⟨1, 0⟩ [breadRecord, breadRecord]) := by
  have misshapen : LeftOut .mainnet ([] ++ Value.null :: [breadRecord]) ([] : List Value).length
      (.undecodableRecord "invalid type: null, expected struct WireRecord") :=
    .undecodable ⟨.null, rfl, rfl⟩
  have decodes : ∃ listing, Listing.decode .mainnet breadRecord = .ok listing ∧ listing.id.text = breadId :=
    ⟨_, rfl, rfl⟩
  obtain ⟨listing, decoded, own⟩ := decodes
  have repeated : LeftOut .mainnet ([breadRecord] ++ breadRecord :: []) [breadRecord].length
      (.duplicateCurrency breadId) := by
    rw [← own]
    exact .repeated ⟨breadRecord, rfl, decoded⟩ Nat.zero_lt_one ⟨breadRecord, rfl, decoded⟩ rfl
  exact ⟨⟨misshapen, ofRecords_isolates misshapen ⟨0, 0⟩ ⟨1, 0⟩⟩,
    repeated, ofRecords_isolates repeated ⟨0, 0⟩ ⟨1, 0⟩⟩

end Catalog

end WalletCurrencies
