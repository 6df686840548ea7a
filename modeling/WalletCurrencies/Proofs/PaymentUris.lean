import WalletCurrencies.Currency.Payment
import WalletCurrencies.Proofs.UriStates

/-! A payment URI is the address that the network took, after the scheme of bitcoin. Reading it as a
URI is a check only, and an address that fails the check begins like an authority. -/

namespace WalletCurrencies.Currency

/-- Payment URIs are for bitcoin, and no other address leads to the same one. The parameter reads
URIs of special schemes. -/
structure CarriesAddress (special : List Char → List Char → Bool) (currency : Currency) (address : String) :
    Prop where
  given : ∀ uri, currency.paymentUri? address = some uri →
    currency.id = Bundled.bitcoin.id currency.network.environment ∧ currency.network.accepts address = true ∧
      uri = "bitcoin:" ++ address
  distinct : ∀ (other : Currency) (otherAddress : String), address ≠ otherAddress →
    ∀ uri, currency.paymentUri? address = some uri → other.paymentUri? otherAddress ≠ some uri
  refused : currency.isBitcoin = true → currency.network.accepts address = true →
    currency.paymentUri? address = none → Uri.reads special ("bitcoin:" ++ address) = false
  slashes : Uri.reads special ("bitcoin:" ++ address) = false →
    ['/', '/'] <+: Uri.unbroken address.toList

variable {currency : Currency} {address uri : String}

theorem uriSchemes_of_isBitcoin (bitcoin : currency.isBitcoin = true) : currency.uriSchemes = ["bitcoin"] :=
  if_pos bitcoin

theorem paymentUri?_eq_some_iff : currency.paymentUri? address = some uri ↔
    currency.isBitcoin = true ∧ currency.network.accepts address = true ∧ Uri.isReadable address = true ∧
      uri = "bitcoin:" ++ address := by
  cases bitcoin : currency.isBitcoin with
  | false => simp [paymentUri?, uriSchemes, bitcoin]
  | true =>
    have scheme : "bitcoin" ++ ":" = "bitcoin:" := by decide
    simp only [paymentUri?, uriSchemes_of_isBitcoin bitcoin, scheme, isValidAddress, true_and]
    rw [Option.ite_none_right_eq_some, Bool.and_eq_true, Option.some.injEq, and_assoc, eq_comm (a := uri)]

theorem carriesAddress (special : List Char → List Char → Bool) (currency : Currency) (address : String) :
    CarriesAddress special currency address where
  given uri made := by
    obtain ⟨bitcoin, accepted, -, text⟩ := paymentUri?_eq_some_iff.mp made
    exact ⟨of_decide_eq_true bitcoin, accepted, text⟩
  distinct other otherAddress differs uri made otherMade := by
    obtain ⟨-, -, -, text⟩ := paymentUri?_eq_some_iff.mp made
    obtain ⟨-, -, -, otherText⟩ := paymentUri?_eq_some_iff.mp otherMade
    exact differs ((String.append_right_inj _).mp (text.symm.trans otherText))
  refused bitcoin accepted missing := by
    refine Bool.eq_false_iff.mpr fun taken => ?_
    have readable : Uri.isReadable address = true := Uri.isReadable_of_reads_bitcoin special taken
    have made : currency.paymentUri? address = some ("bitcoin:" ++ address) :=
      paymentUri?_eq_some_iff.mpr ⟨bitcoin, accepted, readable, rfl⟩
    rw [missing] at made
    cases made
  slashes := Uri.slashes_prefix_of_reads_bitcoin special

end WalletCurrencies.Currency
