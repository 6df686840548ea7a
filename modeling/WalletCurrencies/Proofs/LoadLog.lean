import WalletCurrencies.Proofs.Accounting
import WalletCurrencies.Proofs.CatalogIds
import WalletCurrencies.Proofs.RecordGrammar

/-! What a load leaves in the log. The records are spoken of in the order of the list: of each it is
said first that its colors were replaced, if they were, and then that it is left out, if it is. The
counts come last. -/

namespace WalletCurrencies

open Json

/-- How an event appears in the log. -/
structure Event.Shows (event : Event) (level : Level) (message : String) : Prop where
  level : event.level = level
  message : event.message = message

namespace Listing

/-- The record is taken by a lenient load although its colors cannot be used. -/
structure Blackened (settings : Settings) (record : Value) (id : CurrencyId) : Prop where
  lenient : settings.strict = false
  shape : WellShaped record
  placed : ∃ text, Field.currencyId.of? record = some (.text text) ∧
    CurrencyId.inEnvironment text settings.environment = .ok id
  uncolored : ¬ Colored record

/-- What the log tells of the colors of a record. -/
inductive ColorLog (settings : Settings) (record : Value) : List Event → Prop where
  | warned {id failure event} (blackened : Blackened settings record id)
      (about : event = .blackedOutColors id failure)
      (cause : paletteOf (Entry.present (Field.colors.of? record)) = .error failure)
      (shown : event.Shows .warning "invalid colors, using black") : ColorLog settings record [event]
  | silent (sound : ∀ id, ¬ Blackened settings record id) : ColorLog settings record []

/-- What decoding leaves in the log, which is nothing if it fails. -/
def loggedBy : Except Failure (Listing × List Event) → List Event
  | .ok (_, events) => events
  | .error _ => []

variable {settings : Settings} {record : Value}

theorem colored_iff_of_entry {entry : Entry} (read : Entry.ofValue record = .ok entry) :
    Colored record ↔ ∃ palette, paletteOf entry.colors = .ok palette := by
  rw [colored_iff, (Entry.describes_of_read read).colors]

/-- The id under which a record is blackened is where its entry is placed. -/
theorem Blackened.inEnvironment {id : CurrencyId} (blackened : Blackened settings record id) {entry : Entry}
    (read : Entry.ofValue record = .ok entry) :
    CurrencyId.inEnvironment entry.currencyId settings.environment = .ok id := by
  obtain ⟨text, held, placed⟩ := blackened.placed
  rw [(Entry.describes_of_read read).currencyId] at held
  cases held
  exact placed

theorem Decodes.colorLog {result : Except Failure (Listing × List Event)}
    (decodes : Decodes settings record result) : ColorLog settings record (loggedBy result) := by
  cases decodes with
  | misshapen read =>
    apply ColorLog.silent
    intro id blackened
    obtain ⟨entry, accepted⟩ := exists_entry_of_wellShaped blackened.shape
    rw [read] at accepted
    cases accepted
  | unplaced read placed =>
    apply ColorLog.silent
    intro id blackened
    have elsewhere := blackened.inEnvironment read
    rw [placed] at elsewhere
    cases elsewhere
  | colored read placed colors =>
    apply ColorLog.silent
    intro id blackened
    exact blackened.uncolored ((colored_iff_of_entry read).mpr ⟨_, colors⟩)
  | refused read placed colors strict =>
    apply ColorLog.silent
    intro id blackened
    exact absurd strict (ne_true_of_eq_false blackened.lenient)
  | blackened read placed colors lenient =>
    have describes := Entry.describes_of_read read
    have uncolored : ¬ Colored record := by
      rw [colored_iff_of_entry read]
      intro holds
      obtain ⟨palette, colored⟩ := holds
      rw [colors] at colored
      cases colored
    rw [describes.colors] at colors
    exact .warned ⟨lenient, wellShaped_of_entry read, ⟨_, describes.currencyId, placed⟩, uncolored⟩ rfl colors
      ⟨rfl, rfl⟩

end Listing

namespace Catalog

/-- What the log tells of the refusal of the record at this position. -/
inductive DropLog (rejected : List Rejection) (index : Nat) : List Event → Prop where
  | warned {rejection failure event} (leftOut : rejection ∈ rejected) (placed : rejection.index = index)
      (about : event = .droppedRecord index failure) (reason : failure.message = rejection.reason)
      (shown : event.Shows .warning "dropping currency record") : DropLog rejected index [event]
  | silent (kept : ∀ rejection ∈ rejected, rejection.index ≠ index) : DropLog rejected index []

/-- What the log tells of the records from a position on. -/
inductive Narrates (settings : Settings) (rejected : List Rejection) :
    Nat → List Value → List Event → Prop where
  | nil {index} : Narrates settings rejected index [] []
  | cons {index record rest colors drop later} (colored : Listing.ColorLog settings record colors)
      (dropped : DropLog rejected index drop) (further : Narrates settings rejected (index + 1) rest later) :
      Narrates settings rejected index (record :: rest) (colors ++ drop ++ later)

/-- What a load leaves in the log. -/
structure Logs (settings : Settings) (records : List Value) (catalog : Catalog) (events : List Event) : Prop where
  told : ∃ narration summary, events = narration ++ [summary] ∧
    Narrates settings catalog.rejected 0 records narration ∧
    summary = .loadedCatalog catalog.size catalog.rejected.length settings.environment ∧
    summary.Shows .info "loaded currency catalog"
  strict : settings.strict = true → ∀ event ∈ events, event.message ≠ "invalid colors, using black"

variable {settings : Settings} {records : List Value}

theorem dropLog_refusals {index : Nat} {record : Value} (placed : records[index]? = some record) :
    DropLog (refusals settings records) index
      ((refusal? settings (records.take index) record).map (Event.droppedRecord index)).toList := by
  cases refused : refusal? settings (records.take index) record with
  | some cause =>
    have out : LeftOut settings records index cause := (leftOut_iff_refusal? placed).mpr refused
    have member : ⟨index, cause.message⟩ ∈ refusals settings records := mem_refusals.mpr ⟨cause, out, rfl⟩
    exact .warned member rfl rfl rfl ⟨rfl, rfl⟩
  | none =>
    apply DropLog.silent
    intro rejection member same
    subst same
    obtain ⟨cause, out, -⟩ := mem_refusals.mp member
    rw [(leftOut_iff_refusal? placed).mp out] at refused
    cases refused

namespace Loading

/-- What one record adds to the log. -/
theorem Gathered.events_step {done : List Value} {before : Loading} (gathered : Gathered settings done before)
    (record : Value) :
    ∃ colors, Listing.ColorLog settings record colors ∧
      (before.step settings record).events = before.events ++
        (colors ++ ((refusal? settings done record).map (Event.droppedRecord done.length)).toList) := by
  refine ⟨_, (Listing.decodes_decodeLogged settings record).colorLog, ?_⟩
  generalize after : before.step settings record = loading
  have reads : Reads settings before record loading := after ▸ reads_step before record
  cases reads with
  | @kept listing events logged fresh =>
    rw [gathered.listings] at fresh
    simp [logged, Listing.loggedBy, refusal?_of_fresh (decode_of_logged logged) fresh]
  | @undecodable failure logged =>
    simp [logged, Listing.loggedBy, refusal?_of_error (decode_of_logged logged), gathered.read]
  | @repeated listing events old logged taken =>
    rw [gathered.listings] at taken
    simp [logged, Listing.loggedBy, refusal?_of_taken (decode_of_logged logged) taken, gathered.read]

/-- The rest of a load tells of the rest of the records. -/
theorem Gathered.narrates {done rest : List Value} {before : Loading} (gathered : Gathered settings done before)
    (whole : records = done ++ rest) :
    ∃ narration, (rest.foldl (Loading.step settings) before).events = before.events ++ narration ∧
      Narrates settings (refusals settings records) done.length rest narration := by
  induction rest generalizing done before with
  | nil => exact ⟨[], (List.append_nil _).symm, .nil⟩
  | cons record rest ih =>
    obtain ⟨colors, colored, extended⟩ := gathered.events_step record
    have onward : records = (done ++ [record]) ++ rest := by simp [whole]
    obtain ⟨later, ends, further⟩ := ih (gathered.step record) onward
    have placed : records[done.length]? = some record := by simp [whole]
    have earlier : records.take done.length = done := by simp [whole]
    have dropped : DropLog (refusals settings records) done.length _ := dropLog_refusals placed
    rw [earlier] at dropped
    rw [List.length_append, List.length_singleton] at further
    refine ⟨_, ?_, .cons colored dropped further⟩
    rw [List.foldl_cons, ends, extended]
    simp only [List.append_assoc]

end Loading

/-- A strict load refuses what a lenient one would mend. -/
theorem Narrates.not_blackened {rejected : List Rejection} {index : Nat} {events : List Event}
    (narrates : Narrates settings rejected index records events) (strict : settings.strict = true) :
    ∀ event ∈ events, event.message ≠ "invalid colors, using black" := by
  induction narrates with
  | nil => simp
  | cons colored dropped further ih =>
    intro event member
    rcases List.mem_append.mp member with first | later
    · rcases List.mem_append.mp first with color | drop
      · cases colored with
        | warned blackened about cause shown =>
          exact absurd strict (ne_true_of_eq_false blackened.lenient)
        | silent sound => cases color
      · cases dropped with
        | warned leftOut placed about reason shown =>
          rw [List.mem_singleton.mp drop, shown.message]
          decide
        | silent kept => cases drop
    · exact ih event later

theorem logs_ofRecordsLogged (settings : Settings) (now : Instant) (records : List Value) :
    Logs settings records (ofRecords settings now records) (ofRecordsLogged settings now records).2 := by
  have started : Loading.Gathered settings [] Loading.start := Loading.gathered_start
  have whole : records = [] ++ records := rfl
  obtain ⟨narration, told, narrates⟩ := started.narrates whole
  have events : (ofRecordsLogged settings now records).2 = narration ++ [.loadedCatalog
      (ofRecords settings now records).size (ofRecords settings now records).rejected.length
      settings.environment] := congrArg (· ++ _) told
  rw [events]
  constructor
  · refine ⟨narration, _, rfl, ?_, rfl, ⟨rfl, rfl⟩⟩
    rw [rejected_ofRecords]
    exact narrates
  · intro strict event member
    rcases List.mem_append.mp member with earlier | last
    · exact narrates.not_blackened strict event earlier
    · rw [List.mem_singleton.mp last]
      simp [Event.message]

theorem ofJsonLogged_eq (settings : Settings) (now : Instant) (text : String) :
    (ofJsonLogged settings now text).1 = ofJson settings now text := by
  rw [ofJsonLogged, ofJson]
  cases recordsOfJson text <;> rfl

theorem ofJsonLogged_of_list {settings : Settings} {now : Instant} {text : String} {records : List Value}
    (read : parse text = .ok (.list records)) :
    ofJsonLogged settings now text =
      (.ok (ofRecords settings now records), (ofRecordsLogged settings now records).2) := by
  rw [ofJsonLogged, recordsOfJson_eq_ok_iff.mpr read]
  rfl

theorem ofJsonLogged_of_error {settings : Settings} {now : Instant} {text : String} {failure : Failure}
    (refused : ofJson settings now text = .error failure) : (ofJsonLogged settings now text).2 = [] := by
  rw [ofJson] at refused
  rw [ofJsonLogged]
  cases read : recordsOfJson text with
  | error other => rfl
  | ok records =>
    rw [read] at refused
    cases refused

/-- What happened to every record of a document can be read off the log; a document that is refused
as a whole leaves no trace there. -/
theorem ofJsonLogged_logs (settings : Settings) (now : Instant) (text : String) :
    (ofJsonLogged settings now text).1 = ofJson settings now text ∧
    (∀ failure, ofJson settings now text = .error failure → (ofJsonLogged settings now text).2 = []) ∧
    ∀ catalog, ofJson settings now text = .ok catalog →
      ∃ records, parse text = .ok (.list records) ∧
        Logs settings records catalog (ofJsonLogged settings now text).2 := by
  refine ⟨ofJsonLogged_eq settings now text, fun _ => ofJsonLogged_of_error, ?_⟩
  intro catalog loaded
  obtain ⟨records, read, rfl⟩ := ofJson_eq_ok_iff.mp loaded
  refine ⟨records, read, ?_⟩
  rw [ofJsonLogged_of_list read]
  exact logs_ofRecordsLogged settings now records

/-- Colors are replaced before a record is found to repeat an id. -/
example : (ofRecordsLogged .mainnet ⟨0, 0⟩ [breadRecord, breadRecord]).2 = [
    .blackedOutColors ⟨breadId⟩ (.invalidColors "missing"),
    .blackedOutColors ⟨breadId⟩ (.invalidColors "missing"),
    .droppedRecord 1 (.duplicateCurrency breadId),
    .loadedCatalog 1 1 .mainnet] := by
  decide

end Catalog

end WalletCurrencies
