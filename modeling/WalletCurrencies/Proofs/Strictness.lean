import WalletCurrencies.Proofs.Accounting
import WalletCurrencies.Proofs.CatalogIds

/-! A strict load of a list beside a lenient one. Strictness changes no record and only refuses some
for their colors, so that its ids are among those of the lenient load. The listings of one id may
still differ, because a record that is refused leaves its id to a later one. -/

namespace WalletCurrencies

open Json

namespace Listing

theorem paletteUnder_lenient_of_strict {colors : Option Value} {palette : Palette}
    (colored : paletteUnder true colors = some palette) : paletteUnder false colors = some palette := by
  unfold paletteUnder at colored ⊢
  cases seen : paletteOf colors with
  | ok own => simpa only [seen] using colored
  | error failure => simp [seen] at colored

theorem paletteUnder_strict_of_lenient {colors : Option Value} {palette : Palette}
    (colored : paletteUnder false colors = some palette) :
    paletteUnder true colors = some palette ∨ paletteUnder true colors = none ∧ palette = .black := by
  unfold paletteUnder at colored ⊢
  cases seen : paletteOf colors with
  | ok own => exact Or.inl (by simpa only [seen] using colored)
  | error failure =>
    rw [seen] at colored
    exact Or.inr ⟨rfl, (Option.some.inj colored).symm⟩

variable {environment : Environment} {strictIcons lenientIcons : Bool} {record : Value} {listing : Listing}

theorem decode_lenient_of_strict (decoded : decode ⟨environment, true, strictIcons⟩ record = .ok listing) :
    decode ⟨environment, false, lenientIcons⟩ record = .ok listing := by
  obtain ⟨entry, id, palette, read, placed, colored, rfl⟩ := decode_eq_ok_iff.mp decoded
  exact decode_eq_ok_iff.mpr
    ⟨entry, id, palette, read, placed, paletteUnder_lenient_of_strict colored, rfl⟩

/-- Its colors are all that a strict load can hold against a record that a lenient one takes. -/
theorem decode_strict_of_lenient (decoded : decode ⟨environment, false, lenientIcons⟩ record = .ok listing) :
    decode ⟨environment, true, strictIcons⟩ record = .ok listing ∨
      listing.palette = .black ∧
        decode ⟨environment, true, strictIcons⟩ record = .error (.invalidColors listing.id.text) := by
  obtain ⟨entry, id, palette, read, placed, colored, rfl⟩ := decode_eq_ok_iff.mp decoded
  rcases paletteUnder_strict_of_lenient colored with same | ⟨uncolored, rfl⟩
  · exact Or.inl (decode_eq_ok_iff.mpr ⟨entry, id, palette, read, placed, same, rfl⟩)
  · have strictly : CurrencyId.inEnvironment entry.currencyId
        (Settings.mk environment true strictIcons).environment = .ok id := placed
    refine Or.inr ⟨rfl, ?_⟩
    rw [decode_of_placed read strictly, uncolored]
    rfl

end Listing

namespace Catalog

/-- How a record is remembered that was refused for its colors. -/
def blamedOnColors (index : Nat) (id : CurrencyId) : Rejection :=
  ⟨index, (Failure.invalidColors id.text).message⟩

/-- What a strict catalog is to a lenient one of the same records. -/
structure Narrows (strictly leniently : Settings) (records : List Value) (strict lenient : Catalog) : Prop where
  ids : ∀ id, strict.contains id = true → lenient.contains id = true
  rejected : lenient.rejected.length ≤ strict.rejected.length
  held : ∀ id own other, strict.find? id = some own → lenient.find? id = some other →
    own.sameContent other = true ∨
      other.palette = .black ∧ ∃ earlier index, earlier < index ∧
        FirstAt leniently records id earlier other ∧ FirstAt strictly records id index own ∧
        blamedOnColors earlier id ∈ strict.rejected
  missing : ∀ id, lenient.contains id = true → strict.contains id = false →
    ∀ index listing, DecodesAt leniently records index listing → listing.id = id →
      blamedOnColors index id ∈ strict.rejected

section

variable {environment : Environment} {strictIcons lenientIcons : Bool} {records : List Value}

theorem DecodesAt.lenient {index : Nat} {listing : Listing}
    (decoded : DecodesAt ⟨environment, true, strictIcons⟩ records index listing) :
    DecodesAt ⟨environment, false, lenientIcons⟩ records index listing := by
  obtain ⟨record, placed, decoded⟩ := decoded
  exact ⟨record, placed, Listing.decode_lenient_of_strict decoded⟩

theorem DecodesAt.strict_or_refused {index : Nat} {listing : Listing}
    (decoded : DecodesAt ⟨environment, false, lenientIcons⟩ records index listing) :
    DecodesAt ⟨environment, true, strictIcons⟩ records index listing ∨
      listing.palette = .black ∧
        RefusedAt ⟨environment, true, strictIcons⟩ records index (.invalidColors listing.id.text) := by
  obtain ⟨record, placed, decoded⟩ := decoded
  rcases Listing.decode_strict_of_lenient decoded with kept | ⟨black, refused⟩
  · exact Or.inl ⟨record, placed, kept⟩
  · exact Or.inr ⟨black, record, placed, refused⟩

variable {id : CurrencyId} {earlier index : Nat} {own other : Listing}

/-- The lenient load meets a usable record of an id no later than the strict one does. -/
theorem FirstAt.lenient_le (lenient : FirstAt ⟨environment, false, lenientIcons⟩ records id earlier other)
    (strict : FirstAt ⟨environment, true, strictIcons⟩ records id index own) : earlier ≤ index := by
  apply Nat.le_of_not_lt
  intro before
  exact lenient.2.2 index before own strict.1.lenient strict.2.1

/-- If the strict load does not refuse the record that the lenient one holds, it holds it as well. -/
theorem FirstAt.listing_eq_of_strict (lenient : FirstAt ⟨environment, false, lenientIcons⟩ records id earlier other)
    (strict : FirstAt ⟨environment, true, strictIcons⟩ records id index own)
    (kept : DecodesAt ⟨environment, true, strictIcons⟩ records earlier other) : own = other := by
  rcases Nat.lt_or_eq_of_le (lenient.lenient_le strict) with before | rfl
  · exact absurd lenient.2.1 (strict.2.2 earlier before other kept)
  · exact strict.1.listing_eq kept

theorem FirstAt.lt_of_refused {failure : Failure}
    (lenient : FirstAt ⟨environment, false, lenientIcons⟩ records id earlier other)
    (strict : FirstAt ⟨environment, true, strictIcons⟩ records id index own)
    (refused : RefusedAt ⟨environment, true, strictIcons⟩ records earlier failure) : earlier < index := by
  rcases Nat.lt_or_eq_of_le (lenient.lenient_le strict) with before | rfl
  · exact before
  · exact absurd refused strict.1.not_refusedAt

theorem blamedOnColors_mem_rejected {settings : Settings} (now : Instant)
    (refused : RefusedAt settings records index (.invalidColors id.text)) :
    blamedOnColors index id ∈ (ofRecords settings now records).rejected := by
  rw [rejected_ofRecords]
  exact mem_refusals.mpr ⟨_, .undecodable refused, rfl⟩

end

variable (environment : Environment) (strictIcons lenientIcons : Bool) (now later : Instant) (records : List Value)

theorem contains_lenient_of_strict {id : CurrencyId}
    (held : (ofRecords ⟨environment, true, strictIcons⟩ now records).contains id = true) :
    (ofRecords ⟨environment, false, lenientIcons⟩ later records).contains id = true := by
  obtain ⟨index, listing, decoded, own⟩ := ((ofRecords_firstWins _ now records).found id).mp held
  exact ((ofRecords_firstWins _ later records).found id).mpr ⟨index, listing, decoded.lenient, own⟩

/-- As many records are read by both loads, and the strict one holds fewer of them. -/
theorem rejected_lenient_le_strict :
    (ofRecords ⟨environment, false, lenientIcons⟩ later records).rejected.length
      ≤ (ofRecords ⟨environment, true, strictIcons⟩ now records).rejected.length := by
  have fewer : (ofRecords ⟨environment, true, strictIcons⟩ now records).size
      ≤ (ofRecords ⟨environment, false, lenientIcons⟩ later records).size := by
    apply size_le_of_contains
    intro id held
    exact contains_lenient_of_strict environment strictIcons lenientIcons now later records held
  have strict := size_add_rejected ⟨environment, true, strictIcons⟩ now records
  have lenient := size_add_rejected ⟨environment, false, lenientIcons⟩ later records
  omega

/-- A strict load is no part of a lenient one, but it differs from it only where a record was
refused for its colors. -/
theorem ofRecords_narrows :
    Narrows ⟨environment, true, strictIcons⟩ ⟨environment, false, lenientIcons⟩ records
      (ofRecords ⟨environment, true, strictIcons⟩ now records)
      (ofRecords ⟨environment, false, lenientIcons⟩ later records) where
  ids _ := contains_lenient_of_strict environment strictIcons lenientIcons now later records
  rejected := rejected_lenient_le_strict environment strictIcons lenientIcons now later records
  held id own other strictly leniently := by
    obtain ⟨index, strict⟩ := ((ofRecords_firstWins _ now records).first id own).mp strictly
    obtain ⟨earlier, lenient⟩ := ((ofRecords_firstWins _ later records).first id other).mp leniently
    rcases lenient.1.strict_or_refused with kept | ⟨black, refused⟩
    · exact Or.inl (decide_eq_true (lenient.listing_eq_of_strict strict kept))
    · have before := lenient.lt_of_refused strict refused
      rw [lenient.2.1] at refused
      exact Or.inr ⟨black, earlier, index, before, lenient, strict, blamedOnColors_mem_rejected now refused⟩
  missing id _ absent index listing decoded own := by
    rcases decoded.strict_or_refused with kept | ⟨-, refused⟩
    · have held := ((ofRecords_firstWins _ now records).found id).mpr ⟨index, listing, kept, own⟩
      exact absurd held (ne_true_of_eq_false absent)
    · rw [own] at refused
      exact blamedOnColors_mem_rejected now refused

/-- The colors are missing in the first of two records with one id, and the second is black and white. -/
example :
    let records : List Value := [breadRecord,
      .object (Entries.put "colors" (.list [.text "#000000", .text "#ffffff"]) breadMembers)]
    ((ofRecords ⟨.mainnet, true, false⟩ ⟨0, 0⟩ records).find? ⟨breadId⟩).map (·.palette.secondary)
        = some ⟨255, 255, 255⟩ ∧
      ((ofRecords ⟨.mainnet, false, false⟩ ⟨0, 0⟩ records).find? ⟨breadId⟩).map (·.palette.secondary)
        = some .black := by
  decide

end Catalog

end WalletCurrencies
