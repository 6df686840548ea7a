import Mathlib.Data.List.Induction
import WalletCurrencies.Catalog
import WalletCurrencies.Proofs.Entries

/-! Loading reads one record after the other. What it has gathered after some records depends on
what they decode to and on nothing else: for each id the first listing, and for every record
that was left out its position and the reason. -/

namespace WalletCurrencies.Catalog

open Json

/-- The listings that the usable records decode to, in the order of the list. -/
def usable (settings : Settings) (records : List Value) : List Listing :=
  records.filterMap fun record => (Listing.decode settings record).toOption

/-- What the first of the records with an id decodes to. -/
def firstOf? (settings : Settings) (records : List Value) (id : CurrencyId) : Option Listing :=
  (usable settings records).find? fun listing => listing.id = id

/-- Why a record that follows `before` is left out, if it is. -/
def refusal? (settings : Settings) (before : List Value) (record : Value) : Option Failure :=
  match Listing.decode settings record with
  | .error failure => some failure
  | .ok listing =>
    if (firstOf? settings before listing.id).isSome then some (.duplicateCurrency listing.id.text) else none

/-- The records that are left out, with their positions. -/
def refusals (settings : Settings) (records : List Value) : List Rejection :=
  records.zipIdx.filterMap fun (record, index) =>
    (refusal? settings (records.take index) record).map fun failure => ⟨index, failure.message⟩

variable {settings : Settings}

theorem usable_append (before after : List Value) :
    usable settings (before ++ after) = usable settings before ++ usable settings after :=
  List.filterMap_append

theorem usable_of_ok {record : Value} {listing : Listing}
    (decoded : Listing.decode settings record = .ok listing) : usable settings [record] = [listing] := by
  simp [usable, decoded, Except.toOption]

theorem usable_of_error {record : Value} {failure : Failure}
    (refused : Listing.decode settings record = .error failure) : usable settings [record] = [] := by
  simp [usable, refused, Except.toOption]

theorem toOption_eq_some_iff {result : Except Failure Listing} {listing : Listing} :
    result.toOption = some listing ↔ result = .ok listing := by
  cases result <;> simp [Except.toOption]

theorem mem_usable {records : List Value} {listing : Listing} :
    listing ∈ usable settings records ↔ ∃ record ∈ records, Listing.decode settings record = .ok listing := by
  simp only [usable, List.mem_filterMap, toOption_eq_some_iff]

theorem firstOf?_append (before after : List Value) (id : CurrencyId) :
    firstOf? settings (before ++ after) id = (firstOf? settings before id).or (firstOf? settings after id) := by
  unfold firstOf?
  rw [usable_append, List.find?_append]

theorem firstOf?_of_ok {record : Value} {listing : Listing}
    (decoded : Listing.decode settings record = .ok listing) (id : CurrencyId) :
    firstOf? settings [record] id = if listing.id = id then some listing else none := by
  unfold firstOf?
  rw [usable_of_ok decoded, List.find?_singleton]
  simp only [decide_eq_true_eq]

theorem firstOf?_of_error {record : Value} {failure : Failure}
    (refused : Listing.decode settings record = .error failure) (id : CurrencyId) :
    firstOf? settings [record] id = none := by
  unfold firstOf?
  rw [usable_of_error refused, List.find?_nil]

theorem id_of_firstOf? {records : List Value} {id : CurrencyId} {listing : Listing}
    (found : firstOf? settings records id = some listing) : listing.id = id :=
  of_decide_eq_true (List.find?_some (p := fun listing : Listing => decide (listing.id = id)) found)

theorem firstOf?_isSome_iff_mem {records : List Value} {id : CurrencyId} :
    (firstOf? settings records id).isSome ↔ id ∈ (usable settings records).map (·.id) := by
  unfold firstOf?
  simp only [List.find?_isSome, decide_eq_true_eq, List.mem_map]

/-- Whether a record is left out does not depend on the records after it. -/
theorem refusals_append_singleton (done : List Value) (record : Value) :
    refusals settings (done ++ [record]) = refusals settings done
      ++ ((refusal? settings done record).map fun failure => ⟨done.length, failure.message⟩).toList := by
  unfold refusals
  rw [List.zipIdx_append, List.filterMap_append]
  congr 1
  · apply List.filterMap_congr
    intro ⟨earlier, index⟩ member
    have inside : index < done.length := (List.mem_zipIdx' member).1
    simp only [List.take_append_of_le_length (Nat.le_of_lt inside)]
  · simp only [List.zipIdx_singleton, Nat.zero_add, List.take_left, List.filterMap_cons, List.filterMap_nil]
    cases refusal? settings done record <;> rfl

theorem refusal?_of_error {before : List Value} {record : Value} {failure : Failure}
    (refused : Listing.decode settings record = .error failure) :
    refusal? settings before record = some failure := by
  rw [refusal?, refused]

theorem refusal?_of_taken {before : List Value} {record : Value} {listing old : Listing}
    (decoded : Listing.decode settings record = .ok listing)
    (taken : firstOf? settings before listing.id = some old) :
    refusal? settings before record = some (.duplicateCurrency listing.id.text) := by
  simp only [refusal?, decoded, taken, Option.isSome_some, if_true]

theorem refusal?_of_fresh {before : List Value} {record : Value} {listing : Listing}
    (decoded : Listing.decode settings record = .ok listing)
    (fresh : firstOf? settings before listing.id = none) : refusal? settings before record = none := by
  simp only [refusal?, decoded, fresh, Option.isSome_none, Bool.false_eq_true, if_false]

/-- A record that is left out adds nothing to what is found. -/
theorem firstOf?_of_refusal? {before : List Value} {record : Value} {cause : Failure}
    (refused : refusal? settings before record = some cause) (id : CurrencyId) :
    firstOf? settings (before ++ [record]) id = firstOf? settings before id := by
  unfold refusal? at refused
  rw [firstOf?_append]
  cases decoded : Listing.decode settings record with
  | error failure => rw [firstOf?_of_error decoded, Option.or_none]
  | ok listing =>
    simp only [decoded, Option.ite_none_right_eq_some] at refused
    obtain ⟨first, taken⟩ := Option.isSome_iff_exists.mp refused.1
    rw [firstOf?_of_ok decoded]
    by_cases same : listing.id = id
    · subst same
      rw [taken, Option.some_or]
    · rw [if_neg same, Option.or_none]

namespace Loading

/-- What reading one more record makes of a load. A record that decodes is kept only if its id is
new, but what decoding has left in the log stays there. -/
inductive Reads (settings : Settings) (before : Loading) (record : Value) : Loading → Prop where
  | kept {listing events} (decoded : Listing.decodeLogged settings record = .ok (listing, events))
      (fresh : before.listings.find? listing.id.text = none) :
      Reads settings before record
        ⟨before.read + 1, before.listings.put listing.id.text listing, before.rejected,
          before.events ++ events⟩
  | undecodable {failure} (refused : Listing.decodeLogged settings record = .error failure) :
      Reads settings before record
        ⟨before.read + 1, before.listings, before.rejected ++ [⟨before.read, failure.message⟩],
          before.events ++ [.droppedRecord before.read failure]⟩
  | repeated {listing events old} (decoded : Listing.decodeLogged settings record = .ok (listing, events))
      (taken : before.listings.find? listing.id.text = some old) :
      Reads settings before record
        ⟨before.read + 1, before.listings,
          before.rejected ++ [⟨before.read, (Failure.duplicateCurrency listing.id.text).message⟩],
          before.events ++ events ++ [.droppedRecord before.read (.duplicateCurrency listing.id.text)]⟩

theorem reads_step (before : Loading) (record : Value) :
    Reads settings before record (step settings before record) := by
  unfold step verdict
  cases decoded : Listing.decodeLogged settings record with
  | error failure => simpa using Reads.undecodable decoded
  | ok result =>
    obtain ⟨listing, events⟩ := result
    cases found : before.listings.find? listing.id.text with
    | none => simpa [Index.contains, found] using Reads.kept decoded found
    | some old => simpa [Index.contains, found] using Reads.repeated decoded found

/-- What a load has gathered once the records `done` are read. -/
structure Gathered (settings : Settings) (done : List Value) (loading : Loading) : Prop where
  read : loading.read = done.length
  listings : ∀ id : CurrencyId, loading.listings.find? id.text = firstOf? settings done id
  rejected : loading.rejected = refusals settings done

theorem gathered_start : Gathered settings [] start :=
  ⟨rfl, fun _ => rfl, rfl⟩

theorem Gathered.leftOut {done : List Value} {before after : Loading} {record : Value} {cause : Failure}
    (gathered : Gathered settings done before) (refused : refusal? settings done record = some cause)
    (read : after.read = before.read + 1) (listings : after.listings = before.listings)
    (rejected : after.rejected = before.rejected ++ [⟨before.read, cause.message⟩]) :
    Gathered settings (done ++ [record]) after := by
  refine ⟨?_, fun id => ?_, ?_⟩
  · rw [read, gathered.read, List.length_append, List.length_singleton]
  · rw [listings, gathered.listings, firstOf?_of_refusal? refused]
  · rw [rejected, refusals_append_singleton, refused, gathered.rejected, gathered.read]
    rfl

theorem decode_of_logged {record : Value} {result : Except Failure (Listing × List Event)}
    (logged : Listing.decodeLogged settings record = result) :
    Listing.decode settings record = result.map (·.1) := by
  rw [Listing.decode, logged]

theorem Gathered.step {done : List Value} {before : Loading} (gathered : Gathered settings done before)
    (record : Value) : Gathered settings (done ++ [record]) (before.step settings record) := by
  generalize after : before.step settings record = loading
  have reads : Reads settings before record loading := after ▸ reads_step before record
  cases reads with
  | @kept listing events logged fresh =>
    have decoded : Listing.decode settings record = .ok listing := decode_of_logged logged
    rw [gathered.listings] at fresh
    refine ⟨?_, fun id => ?_, ?_⟩
    · rw [gathered.read, List.length_append, List.length_singleton]
    · rw [Index.find?_put, gathered.listings, firstOf?_append, firstOf?_of_ok decoded]
      by_cases same : listing.id = id
      · subst same
        rw [if_pos rfl, if_pos rfl, fresh, Option.none_or]
      · have differs : listing.id.text ≠ id.text := fun equal => same (congrArg CurrencyId.mk equal)
        rw [if_neg differs, if_neg same, Option.or_none]
    · rw [refusals_append_singleton, refusal?_of_fresh decoded fresh, gathered.rejected]
      simp
  | @undecodable failure logged =>
    have undecoded : Listing.decode settings record = .error failure := decode_of_logged logged
    exact gathered.leftOut (refusal?_of_error undecoded) rfl rfl rfl
  | @repeated listing events old logged taken =>
    have decoded : Listing.decode settings record = .ok listing := decode_of_logged logged
    rw [gathered.listings] at taken
    exact gathered.leftOut (refusal?_of_taken decoded taken) rfl rfl rfl

theorem gathered_foldl (records : List Value) :
    Gathered settings records (records.foldl (Loading.step settings) start) := by
  induction records using List.reverseRecOn with
  | nil => exact gathered_start
  | append_singleton done record ih =>
    rw [List.foldl_append, List.foldl_cons, List.foldl_nil]
    exact ih.step record

end Loading

theorem find?_ofRecords (now : Instant) (records : List Value) (id : CurrencyId) :
    (ofRecords settings now records).find? id = firstOf? settings records id :=
  (Loading.gathered_foldl records).listings id

theorem rejected_ofRecords (now : Instant) (records : List Value) :
    (ofRecords settings now records).rejected = refusals settings records :=
  (Loading.gathered_foldl records).rejected

end WalletCurrencies.Catalog
