import WalletCurrencies.Currency.Payment
import WalletCurrencies.Proofs.AsciiCase

/-! Whose a pay-id address is. The names of the environments differ in more than case, and in each of
them one id is that of bitcoin, so that all currencies that take an address for theirs are the same
currency in the same environment. -/

namespace WalletCurrencies

open Text

theorem Environment.eq_of_sameLetters {text : String} {first second : Environment}
    (left : SameLetters text first.name) (right : SameLetters text second.name) : first = second := by
  have names : asciiLower first.name = asciiLower second.name :=
    (beq_iff_eq.mp (sameUpToAsciiCase_iff.mpr left)).symm.trans (beq_iff_eq.mp (sameUpToAsciiCase_iff.mpr right))
  have apart : asciiLower mainnet.name ≠ asciiLower testnet.name := by decide
  cases first with
  | mainnet =>
    cases second with
    | mainnet => rfl
    | testnet => exact absurd names apart
  | testnet =>
    cases second with
    | mainnet => exact absurd names apart.symm
    | testnet => rfl

theorem Bundled.text_bitcoin_id (environment : Environment) :
    (bitcoin.id environment).text = "bitcoin-" ++ environment.name ++ ":__native__" := by
  cases environment <;> decide

namespace Currency

variable {currency : Currency} {address : PayIdAddress}

/-- What makes a pay-id address one of the currency. -/
structure IsAddressed (address : PayIdAddress) (currency : Currency) : Prop where
  bitcoin : currency.id.text = "bitcoin-" ++ currency.network.environment.name ++ ":__native__"
  network : SameLetters address.paymentNetwork "btc"
  environment : SameLetters address.environment currency.network.environment.name

theorem isBitcoin_iff_id : currency.isBitcoin = true ↔
    currency.id = Bundled.bitcoin.id currency.network.environment :=
  decide_eq_true_iff

theorem isBitcoin_iff_text : currency.isBitcoin = true ↔
    currency.id.text = "bitcoin-" ++ currency.network.environment.name ++ ":__native__" := by
  rw [isBitcoin_iff_id, ← Bundled.text_bitcoin_id, CurrencyId.mk.injEq]

/-- Without a pay-id of its own, a currency takes no address. -/
theorem ownsPayId_iff : currency.ownsPayId address = true ↔ IsAddressed address currency := by
  rw [ownsPayId, payId?]
  cases bitcoin : currency.isBitcoin with
  | false =>
    refine iff_of_false (by simp) fun addressed => ?_
    rw [isBitcoin_iff_text.mpr addressed.bitcoin] at bitcoin
    cases bitcoin
  | true =>
    simp only [if_true, Bool.and_eq_true, sameUpToAsciiCase_iff]
    constructor
    · intro holds
      obtain ⟨environment, network⟩ := holds
      exact ⟨isBitcoin_iff_text.mp bitcoin, network, environment⟩
    · exact fun addressed => ⟨addressed.environment, addressed.network⟩

/-- All currencies that take the address are one in one environment. -/
structure BelongsToOne (address : PayIdAddress) : Prop where
  owned : ∀ currency : Currency, currency.ownsPayId address = true ↔ IsAddressed address currency
  single : ∀ first second : Currency, first.ownsPayId address = true → second.ownsPayId address = true →
    first.id = second.id ∧ first.network.environment = second.network.environment ∧
      first.isBitcoin = true ∧ second.isBitcoin = true
  apart : ∀ first second : Currency, first.network.environment = .mainnet →
    second.network.environment = .testnet →
    ¬ (first.ownsPayId address = true ∧ second.ownsPayId address = true)

theorem environment_eq_of_isAddressed {other : Currency} (left : IsAddressed address currency)
    (right : IsAddressed address other) : currency.network.environment = other.network.environment :=
  Environment.eq_of_sameLetters left.environment right.environment

/-- Nothing else makes the id of a currency fit its network: it is the test for bitcoin that joins the two. -/
theorem payId_belongsToOne (address : PayIdAddress) : BelongsToOne address where
  owned _ := ownsPayId_iff
  single first second left right := by
    have one := ownsPayId_iff.mp left
    have two := ownsPayId_iff.mp right
    have same := environment_eq_of_isAddressed one two
    have leftBitcoin := isBitcoin_iff_text.mpr one.bitcoin
    have rightBitcoin := isBitcoin_iff_text.mpr two.bitcoin
    refine ⟨?_, same, leftBitcoin, rightBitcoin⟩
    rw [isBitcoin_iff_id.mp leftBitcoin, isBitcoin_iff_id.mp rightBitcoin, same]
  apart first second main test holds := by
    have same := environment_eq_of_isAddressed (ownsPayId_iff.mp holds.1) (ownsPayId_iff.mp holds.2)
    rw [main, test] at same
    cases same

end Currency

end WalletCurrencies
