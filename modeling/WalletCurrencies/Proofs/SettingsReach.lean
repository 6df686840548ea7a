import WalletCurrencies.Proofs.Strictness
import WalletCurrencies.Proofs.TestnetImage

/-! How far each setting reaches into the decoding of a record. The environment decides about the id
and nothing else, strictness about unreadable colors, and the icons in preparation about nothing. -/

namespace WalletCurrencies.Listing

open Json

/-- Being lenient helps only against unreadable colors, and for these it always helps. -/
theorem decode_strict_error_of_lenient {environment : Environment} {strictIcons lenientIcons : Bool}
    {record : Value} {failure : Failure}
    (failed : decode ⟨environment, false, lenientIcons⟩ record = .error failure) :
    decode ⟨environment, true, strictIcons⟩ record = .error failure := by
  cases read : Entry.ofValue record with
  | error mismatch =>
    rw [decode_of_mismatch read] at failed ⊢
    exact failed
  | ok entry =>
    cases placed : CurrencyId.inEnvironment entry.currencyId environment with
    | error refusal =>
      rw [decode_of_unplaced read placed] at failed ⊢
      exact failed
    | ok id =>
      rw [decode_of_placed read placed, paletteUnder] at failed
      cases seen : paletteOf entry.colors <;> simp [seen] at failed

/-- What remains of a record when one of the settings is changed. -/
structure Confined (settings : Settings) (record : Value) : Prop where
  environment : ∀ moved, decode { settings with environment := .testnet } record = .ok moved ↔
    ∃ listing id, decode { settings with environment := .mainnet } record = .ok listing ∧
      CurrencyId.inEnvironment listing.id.text .testnet = .ok id ∧ moved = { listing with id }
  lenientTakes : ∀ listing, decode { settings with strict := true } record = .ok listing →
    decode { settings with strict := false } record = .ok listing
  strictFails : ∀ failure, decode { settings with strict := false } record = .error failure →
    decode { settings with strict := true } record = .error failure
  strictRefuses : ∀ listing failure, decode { settings with strict := false } record = .ok listing →
    decode { settings with strict := true } record = .error failure →
    failure = .invalidColors listing.id.text ∧ listing.palette = .black
  icons : ∀ icons, decode { settings with stagingIcons := icons } record = decode settings record

/-- No setting reaches into a field or a failure that another one decides about. -/
theorem settings_confined (settings : Settings) (record : Value) : Confined settings record where
  environment _ := decode_testnet_eq_ok_iff settings.stagingIcons settings.stagingIcons
  lenientTakes _ := decode_lenient_of_strict
  strictFails _ := decode_strict_error_of_lenient
  strictRefuses listing failure lenient strict := by
    have outcomes : decode { settings with strict := true } record = .ok listing ∨ listing.palette = .black ∧
        decode { settings with strict := true } record = .error (.invalidColors listing.id.text) :=
      decode_strict_of_lenient lenient
    rw [strict] at outcomes
    rcases outcomes with taken | ⟨black, blamed⟩
    · cases taken
    · cases blamed
      exact ⟨rfl, black⟩
  icons _ := rfl

end WalletCurrencies.Listing
