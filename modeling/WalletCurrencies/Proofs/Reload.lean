import Mathlib.Data.List.Forall2
import WalletCurrencies.Proofs.CatalogIds
import WalletCurrencies.Proofs.DistinctIds
import WalletCurrencies.Proofs.ListingRecord

/-! Nothing is lost when a catalog is written and loaded again on the same kind of network. Each
listing is settled, so that its record decodes to itself, and as no two have one id no record of
them is left out. -/

namespace WalletCurrencies.Catalog

open Json

variable {settings : Settings} {listings : List Listing}

theorem ofJson_of_records {text : String} {records : List Value} (read : recordsOfJson text = .ok records)
    (settings : Settings) (now : Instant) : ofJson settings now text = .ok (ofRecords settings now records) := by
  unfold ofJson
  rw [read]
  rfl

/-- Whatever a catalog holds, its text is the list of the records of its listings. -/
theorem recordsOfJson_toJson (catalog : Catalog) :
    recordsOfJson catalog.toJson = .ok (catalog.toList.map Listing.toValue) := by
  have fits : (Value.list (catalog.toList.map fun listing => .object listing.members)).Fits depthLimit := by
    intro item member
    obtain ⟨listing, -, rfl⟩ := List.mem_map.mp member
    exact listing.fits_members 124
  have readBack : (Value.list (catalog.toList.map fun listing => .object listing.members)).readBack
      = .list (catalog.toList.map Listing.toValue) := by
    rw [Value.readBack, Value.readBackItems_eq_map, List.map_map]
    simp only [Function.comp_def, Listing.readBack_members]
  unfold recordsOfJson toJson
  rw [parse_toText fits, readBack]

theorem usable_toValue (settled : ∀ listing ∈ listings, listing.Settled settings.environment) :
    usable settings (listings.map Listing.toValue) = listings := by
  induction listings with
  | nil => rfl
  | cons listing rest ih =>
    have decoded := Listing.decode_toValue (settled listing List.mem_cons_self)
    rw [List.map_cons, ← List.singleton_append, usable_append, usable_of_ok decoded,
      ih fun other member => settled other (List.mem_cons_of_mem listing member), List.singleton_append]

theorem firstOf?_toValue (settled : ∀ listing ∈ listings, listing.Settled settings.environment)
    (id : CurrencyId) :
    firstOf? settings (listings.map Listing.toValue) id = listings.find? fun listing => listing.id = id := by
  rw [firstOf?, usable_toValue settled]

theorem refusals_toValue (settled : ∀ listing ∈ listings, listing.Settled settings.environment)
    (distinct : (listings.map (·.id)).Nodup) : refusals settings (listings.map Listing.toValue) = [] := by
  have reasons : (refusals settings (listings.map Listing.toValue)).map (·.reason) = [] := by
    rw [reasons_refusals (by rwa [usable_toValue settled])]
    apply List.filterMap_eq_nil_iff.mpr
    intro record member
    obtain ⟨listing, inside, rfl⟩ := List.mem_map.mp member
    rw [Listing.decode_toValue (settled listing inside)]
  exact List.map_eq_nil_iff.mp reasons

/-- Only the refusals and the time of loading are not kept. -/
theorem ofRecords_toValue {again : Settings} (same : again.environment = settings.environment)
    (now later : Instant) (records : List Value) :
    ofRecords again later ((ofRecords settings now records).toList.map Listing.toValue)
      = { ofRecords settings now records with rejected := [], updated := later } := by
  let catalog := ofRecords settings now records
  let reloaded := ofRecords again later (catalog.toList.map Listing.toValue)
  have settled : ∀ listing ∈ catalog.toList, listing.Settled again.environment := by
    intro listing member
    rw [same]
    exact settled_of_mem_toList member
  have distinct : (catalog.toList.map (·.id)).Nodup := nodup_ids_toList settings now records
  have found (id : CurrencyId) : reloaded.find? id = catalog.find? id := by
    apply Option.ext
    intro listing
    rw [find?_ofRecords, firstOf?_toValue settled, find?_id_eq_some_iff distinct, find?_eq_some_iff]
  have listings : reloaded.listings = catalog.listings := listings_eq_of_find? found
  have rejected : reloaded.rejected = [] := by rw [rejected_ofRecords, refusals_toValue settled distinct]
  change Catalog.mk reloaded.listings reloaded.rejected again.environment later = _
  rw [listings, rejected, same]
  rfl

/-- The second catalog is the first one read back from its text. -/
structure Reloads (first second : Catalog) : Prop where
  rejected : second.rejected = []
  ids : second.toList.map (·.id) = first.toList.map (·.id)
  contents : List.Forall₂ (fun before after => before.sameContent after = true) first.toList second.toList
  text : second.toJson = first.toJson

theorem exists_reloads_toJson {again : Settings} {now : Instant} {text : String} {catalog : Catalog}
    (loaded : ofJson settings now text = .ok catalog) (same : again.environment = settings.environment)
    (later : Instant) :
    ∃ reloaded, ofJson again later catalog.toJson = .ok reloaded ∧ Reloads catalog reloaded := by
  cases read : recordsOfJson text with
  | error failure =>
    rw [ofJson, read] at loaded
    cases loaded
  | ok records =>
    rw [ofJson_of_records read] at loaded
    cases loaded
    have reread := ofJson_of_records (ofRecords settings now records).recordsOfJson_toJson again later
    rw [ofRecords_toValue same] at reread
    refine ⟨_, reread, rfl, rfl, ?_, rfl⟩
    apply List.forall₂_same.mpr
    intro listing _
    exact decide_eq_true rfl

/-- Colors that were missing are written in black, so that a strict load has nothing to refuse. -/
theorem exists_reloads_toJson_bread :
    ofJson .testnet ⟨0, 0⟩ (Value.list [breadRecord]).toText = .ok (ofRecords .testnet ⟨0, 0⟩ [breadRecord]) ∧
      (Settings.debug .testnet).environment = Settings.testnet.environment ∧
      ∃ reloaded,
        ofJson (.debug .testnet) ⟨1, 0⟩ (ofRecords .testnet ⟨0, 0⟩ [breadRecord]).toJson = .ok reloaded ∧
          Reloads (ofRecords .testnet ⟨0, 0⟩ [breadRecord]) reloaded ∧
          reloaded.toList.map (·.id) = [⟨"ethereum-ropsten:0x7108ca7c4718efa810457f228305c9c71390931a"⟩] := by
  have fits : (Value.list [breadRecord]).Fits depthLimit := by
    simp [breadRecord, breadMembers, Value.ofNat, Value.Fits, Exact, depthLimit]
  have ascending : Entries.Ascending breadMembers := by
    unfold Entries.Ascending breadMembers
    decide
  have kept : ∀ member ∈ breadMembers, member.2.readBack = member.2 := by
    simp [breadMembers, Value.readBack, Value.ofNat]
  have readBack : (Value.list [breadRecord]).readBack = .list [breadRecord] := by
    rw [Value.readBack, Value.readBackItems_eq_map, List.map_singleton, breadRecord, Value.readBack,
      Value.readBackMembers_of_forall kept, ascending.ofList_eq]
  have read : recordsOfJson (Value.list [breadRecord]).toText = .ok [breadRecord] := by
    rw [recordsOfJson, parse_toText fits, readBack]
  have loaded := ofJson_of_records read .testnet ⟨0, 0⟩
  have same : (Settings.debug .testnet).environment = Settings.testnet.environment := rfl
  obtain ⟨reloaded, reread, reloads⟩ := exists_reloads_toJson loaded same ⟨1, 0⟩
  exact ⟨loaded, same, reloaded, reread, reloads, reloads.ids.trans (by decide)⟩

end WalletCurrencies.Catalog
