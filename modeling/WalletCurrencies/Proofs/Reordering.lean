import WalletCurrencies.Proofs.Accounting
import WalletCurrencies.Proofs.DistinctIds
import WalletCurrencies.Proofs.CatalogIds

/-! Loads of the same records in another order. Order decides which of the records with one id is
held, and nothing else: the ids and the number of refusals stay, and where no two records have one
id the whole catalog stays. -/

namespace WalletCurrencies.Catalog

open Json

/-- What the catalogs of two orders of the same records have in common. -/
structure Reordered (settings : Settings) (records : List Value) (first second : Catalog) : Prop where
  ids : ∀ id, second.contains id = true ↔ first.contains id = true
  rejected : second.rejected.length = first.rejected.length
  found : Distinct settings records → ∀ id, second.find? id = first.find? id
  text : Distinct settings records → second.toJson = first.toJson
  reasons : Distinct settings records → List.Perm (second.rejected.map (·.reason)) (first.rejected.map (·.reason))

variable {settings : Settings} {records shuffled : List Value}

theorem usable_perm (perm : List.Perm records shuffled) :
    List.Perm (usable settings records) (usable settings shuffled) :=
  perm.filterMap _

theorem ids_usable_perm (perm : List.Perm records shuffled) :
    List.Perm ((usable settings records).map (·.id)) ((usable settings shuffled).map (·.id)) :=
  (usable_perm perm).map _

theorem Distinct.perm (distinct : Distinct settings records) (perm : List.Perm records shuffled) :
    Distinct settings shuffled :=
  distinct_iff.mpr ((ids_usable_perm perm).nodup_iff.mp (distinct_iff.mp distinct))

theorem firstOf?_perm (distinct : Distinct settings records) (perm : List.Perm records shuffled) (id : CurrencyId) :
    firstOf? settings shuffled id = firstOf? settings records id := by
  apply Option.ext
  intro listing
  unfold firstOf?
  rw [find?_id_eq_some_iff (distinct_iff.mp distinct), find?_id_eq_some_iff (distinct_iff.mp (distinct.perm perm)),
    (usable_perm perm).mem_iff]

variable (now later : Instant)

theorem contains_perm (perm : List.Perm records shuffled) (id : CurrencyId) :
    (ofRecords settings later shuffled).contains id = true ↔ (ofRecords settings now records).contains id = true := by
  rw [contains_iff_mem_usable, contains_iff_mem_usable, (ids_usable_perm perm).mem_iff]

/-- The listings have the same ids, and all other records are refused. -/
theorem length_rejected_perm (perm : List.Perm records shuffled) :
    (ofRecords settings later shuffled).rejected.length = (ofRecords settings now records).rejected.length := by
  have sizes : (ofRecords settings later shuffled).size = (ofRecords settings now records).size := by
    rw [size_ofRecords, size_ofRecords]
    exact (ids_usable_perm perm).symm.dedup.length_eq
  have first := size_add_rejected settings now records
  have second := size_add_rejected settings later shuffled
  have lengths := perm.length_eq
  omega

theorem find?_perm (distinct : Distinct settings records) (perm : List.Perm records shuffled) (id : CurrencyId) :
    (ofRecords settings later shuffled).find? id = (ofRecords settings now records).find? id := by
  rw [find?_ofRecords, find?_ofRecords, firstOf?_perm distinct perm]

theorem reasons_perm (distinct : Distinct settings records) (perm : List.Perm records shuffled) :
    List.Perm ((ofRecords settings later shuffled).rejected.map (·.reason))
      ((ofRecords settings now records).rejected.map (·.reason)) := by
  rw [rejected_ofRecords, rejected_ofRecords, reasons_refusals (distinct_iff.mp distinct),
    reasons_refusals (distinct_iff.mp (distinct.perm perm))]
  exact perm.symm.filterMap _

theorem ofRecords_reordered (perm : List.Perm records shuffled) :
    Reordered settings records (ofRecords settings now records) (ofRecords settings later shuffled) where
  ids := contains_perm now later perm
  rejected := length_rejected_perm now later perm
  found distinct := find?_perm now later distinct perm
  text distinct := toJson_eq_of_find? (find?_perm now later distinct perm)
  reasons distinct := reasons_perm now later distinct perm

/-- The records are distinct as well, so that no part of the statement is void. -/
theorem ofRecords_reordered_bread :
    List.Perm [.null, breadRecord] [breadRecord, .null] ∧ Distinct .mainnet [.null, breadRecord] ∧
      Reordered .mainnet [.null, breadRecord] (ofRecords .mainnet ⟨0, 0⟩ [.null, breadRecord])
        (ofRecords .mainnet ⟨1, 0⟩ [breadRecord, .null]) := by
  have perm : List.Perm [.null, breadRecord] [breadRecord, .null] := List.Perm.swap _ _ _
  have distinct : Distinct .mainnet [.null, breadRecord] := distinct_iff.mpr (by decide)
  exact ⟨perm, distinct, ofRecords_reordered ⟨0, 0⟩ ⟨1, 0⟩ perm⟩

end WalletCurrencies.Catalog
