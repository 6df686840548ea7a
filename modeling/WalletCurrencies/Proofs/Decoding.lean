import WalletCurrencies.Listing.Decode
import WalletCurrencies.Proofs.TestNetwork

/-! What decoding a record comes to, said once for all later arguments, and what every decoded
listing has: an id that is settled in its environment, and a price lookup id where one is known. -/

namespace WalletCurrencies.Listing

open Json

/-- The shape of the record is looked at first, then its id, and its colors last. -/
inductive Decodes (settings : Settings) (value : Value) : Except Failure (Listing × List Event) → Prop where
  | misshapen {mismatch} (read : Entry.ofValue value = .error mismatch) :
      Decodes settings value (.error (.undecodableRecord mismatch.message))
  | unplaced {entry failure} (read : Entry.ofValue value = .ok entry)
      (placed : CurrencyId.inEnvironment entry.currencyId settings.environment = .error failure) :
      Decodes settings value (.error failure)
  | colored {entry id palette} (read : Entry.ofValue value = .ok entry)
      (placed : CurrencyId.inEnvironment entry.currencyId settings.environment = .ok id)
      (colors : paletteOf entry.colors = .ok palette) :
      Decodes settings value (.ok (ofEntry entry id palette, []))
  | refused {entry id failure} (read : Entry.ofValue value = .ok entry)
      (placed : CurrencyId.inEnvironment entry.currencyId settings.environment = .ok id)
      (colors : paletteOf entry.colors = .error failure) (strict : settings.strict = true) :
      Decodes settings value (.error (.invalidColors id.text))
  | blackened {entry id failure} (read : Entry.ofValue value = .ok entry)
      (placed : CurrencyId.inEnvironment entry.currencyId settings.environment = .ok id)
      (colors : paletteOf entry.colors = .error failure) (lenient : settings.strict = false) :
      Decodes settings value (.ok (ofEntry entry id .black, [.blackedOutColors id failure]))

theorem decodes_decodeLogged (settings : Settings) (value : Value) :
    Decodes settings value (decodeLogged settings value) := by
  unfold decodeLogged
  cases read : Entry.ofValue value with
  | error mismatch => exact .misshapen read
  | ok entry =>
    cases placed : CurrencyId.inEnvironment entry.currencyId settings.environment with
    | error failure =>
      simp only [Except.mapError, bind, Except.bind, placed]
      exact .unplaced read placed
    | ok id =>
      cases colors : paletteOf entry.colors with
      | ok palette =>
        simp only [Except.mapError, bind, Except.bind, placed, colors]
        exact .colored read placed colors
      | error failure =>
        simp only [Except.mapError, bind, Except.bind, placed, colors]
        cases strict : settings.strict with
        | true => exact .refused read placed colors strict
        | false => exact .blackened read placed colors strict

variable {settings : Settings} {value : Value} {listing : Listing}

theorem decode_of_mismatch {mismatch : Mismatch} (read : Entry.ofValue value = .error mismatch) :
    decode settings value = .error (.undecodableRecord mismatch.message) := by
  simp only [decode, decodeLogged, read, Except.mapError, bind, Except.bind]
  rfl

theorem decode_of_unplaced {entry : Entry} {failure : Failure} (read : Entry.ofValue value = .ok entry)
    (unplaced : CurrencyId.inEnvironment entry.currencyId settings.environment = .error failure) :
    decode settings value = .error failure := by
  simp only [decode, decodeLogged, read, Except.mapError, bind, Except.bind, unplaced]
  rfl

/-- The colors that a record is given, if it is not refused for them. -/
def paletteUnder (strict : Bool) (colors : Option Value) : Option Palette :=
  match paletteOf colors with
  | .ok palette => some palette
  | .error _ => if strict then none else some .black

/-- Only the colors are still open once the id is placed. -/
theorem decode_of_placed {entry : Entry} {id : CurrencyId} (read : Entry.ofValue value = .ok entry)
    (placed : CurrencyId.inEnvironment entry.currencyId settings.environment = .ok id) :
    decode settings value =
      match paletteUnder settings.strict entry.colors with
      | some palette => .ok (ofEntry entry id palette)
      | none => .error (.invalidColors id.text) := by
  simp only [decode, decodeLogged, read, Except.mapError, bind, Except.bind, placed, paletteUnder]
  cases paletteOf entry.colors with
  | ok palette => rfl
  | error failure => cases settings.strict <;> rfl

theorem decode_eq_ok_iff :
    decode settings value = .ok listing ↔
      ∃ entry id palette, Entry.ofValue value = .ok entry ∧
        CurrencyId.inEnvironment entry.currencyId settings.environment = .ok id ∧
        paletteUnder settings.strict entry.colors = some palette ∧ listing = ofEntry entry id palette := by
  constructor
  · intro decoded
    unfold decode at decoded
    generalize logged : decodeLogged settings value = result at decoded
    have decodes : Decodes settings value result := logged ▸ decodes_decodeLogged settings value
    cases decodes with
    | misshapen | unplaced | refused => cases decoded
    | @colored entry id palette read placed colors =>
      cases decoded
      exact ⟨entry, id, palette, read, placed, by rw [paletteUnder, colors], rfl⟩
    | @blackened entry id failure read placed colors lenient =>
      cases decoded
      exact ⟨entry, id, .black, read, placed, by rw [paletteUnder, colors, lenient]; rfl, rfl⟩
  · intro holds
    obtain ⟨entry, id, palette, read, placed, colors, rfl⟩ := holds
    rw [decode_of_placed read placed, colors]

theorem exists_entry_of_decode (decoded : decode settings value = .ok listing) :
    ∃ entry palette, Entry.ofValue value = .ok entry ∧
      CurrencyId.inEnvironment entry.currencyId settings.environment = .ok listing.id ∧
      listing = ofEntry entry listing.id palette := by
  obtain ⟨entry, id, palette, read, placed, -, rfl⟩ := decode_eq_ok_iff.mp decoded
  exact ⟨entry, palette, read, placed, rfl⟩

theorem decode_of_entry {entry : Entry} {id : CurrencyId} {palette : Palette}
    (read : Entry.ofValue value = .ok entry)
    (placed : CurrencyId.inEnvironment entry.currencyId settings.environment = .ok id)
    (colors : paletteOf entry.colors = .ok palette) :
    decode settings value = .ok (ofEntry entry id palette) := by
  rw [decode_of_placed read placed, paletteUnder, colors]

/-- What decoding changes in a record it does not change in a listing again. -/
structure Settled (environment : Environment) (listing : Listing) : Prop where
  id : CurrencyId.inEnvironment listing.id.text environment = .ok listing.id
  coinGeckoId : listing.coinGeckoId = none → PriceId.find? listing.code = none

theorem settled_of_decode (decoded : decode settings value = .ok listing) :
    Settled settings.environment listing := by
  obtain ⟨entry, palette, read, placed, built⟩ := exists_entry_of_decode decoded
  refine ⟨CurrencyId.inEnvironment_idem placed, ?_⟩
  rw [built]
  exact fun absent => (Option.or_eq_none_iff.mp absent).2

end WalletCurrencies.Listing
