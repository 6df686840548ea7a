import WalletCurrencies.Currency.Basic
import WalletCurrencies.Proofs.ByteOrder
import WalletCurrencies.Proofs.FaithfulRecord
import WalletCurrencies.Proofs.Resolving

/-! Comparison and hashing of listings and currencies. A listing is compared and hashed by its id. A
currency is compared by its coin and by all of its listing, but hashed by the coin and the id of the
listing; as this is the id of the coin, the hash tells coins apart and nothing else. -/

namespace WalletCurrencies

open Proofs

namespace Hashing

/-- What ends every text that a hasher is fed with. -/
def separator : UInt8 := 0xFF

/-- The bytes that a hasher is fed with. -/
def feed (texts : List String) : List UInt8 := texts.flatMap fun text => ByteOrder.bytes text ++ [separator]

theorem ofNat_ne_separator {value : Nat} (small : value < 255) : separator ≠ UInt8.ofNat value := by
  intro same
  have values := congrArg UInt8.toNat same
  rw [UInt8.toNat_ofNat', Nat.mod_eq_of_lt (by omega)] at values
  exact absurd values (Nat.ne_of_gt small)

/-- The first byte of a character is at most 247, and the others are smaller. -/
theorem separator_not_mem_encoded (c : Char) : separator ∉ String.utf8EncodeChar c := by
  unfold String.utf8EncodeChar
  generalize c.val.toNat = code
  simp only
  split
  next =>
    rw [List.mem_singleton]
    exact ofNat_ne_separator (by omega)
  next =>
    split
    next =>
      simp only [List.mem_cons, List.not_mem_nil, or_false, not_or]
      exact ⟨ofNat_ne_separator (by omega), ofNat_ne_separator (by omega)⟩
    next =>
      split
      next =>
        simp only [List.mem_cons, List.not_mem_nil, or_false, not_or]
        exact ⟨ofNat_ne_separator (by omega), ofNat_ne_separator (by omega), ofNat_ne_separator (by omega)⟩
      next =>
        simp only [List.mem_cons, List.not_mem_nil, or_false, not_or]
        exact ⟨ofNat_ne_separator (by omega), ofNat_ne_separator (by omega), ofNat_ne_separator (by omega),
          ofNat_ne_separator (by omega)⟩

theorem separator_not_mem_bytes (text : String) : separator ∉ ByteOrder.bytes text := by
  rw [ByteOrder.bytes_eq, List.mem_flatMap]
  intro holds
  obtain ⟨c, -, member⟩ := holds
  exact separator_not_mem_encoded c member

/-- The texts are found again between the separators. -/
theorem splitOn_feed (texts : List String) :
    (feed texts).splitOn separator = texts.map ByteOrder.bytes ++ [[]] := by
  induction texts with
  | nil => rfl
  | cons text rest ih =>
    have first : feed (text :: rest) = ByteOrder.bytes text ++ separator :: feed rest := by
      simp [feed]
    rw [first, List.splitOn_append_cons_self_of_not_mem (separator_not_mem_bytes text), ih]
    rfl

theorem feed_inj {first second : List String} : feed first = feed second ↔ first = second := by
  constructor
  · intro same
    have pieces : first.map ByteOrder.bytes ++ [[]] = second.map ByteOrder.bytes ++ [[]] := by
      rw [← splitOn_feed, same, splitOn_feed]
    exact (List.map_inj_right fun _ _ => ByteOrder.bytes_inj.mp).mp (List.append_cancel_right pieces)
  · exact congrArg feed

end Hashing

open Hashing

namespace Listing

theorem beq_iff {first second : Listing} : (first == second) = true ↔ first.id = second.id :=
  decide_eq_true_iff

theorem hashed_inj {first second : Listing} : first.hashed = second.hashed ↔ first.id = second.id := by
  rw [hashed, hashed, List.cons.injEq, ← CurrencyId.mk.injEq]
  exact and_iff_left rfl

/-- Three ways to say that two listings are about one currency, and the case that is more than that. -/
structure ComparedById (first second : Listing) : Prop where
  equal : (first == second) = true ↔ first.id = second.id
  hash : first.id = second.id ↔ feed first.hashed = feed second.hashed
  content : first.sameContent second = true → (first == second) = true

theorem comparedById (first second : Listing) : ComparedById first second where
  equal := beq_iff
  hash := (feed_inj.trans hashed_inj).symm
  content same := by
    obtain rfl := sameContent_iff.mp same
    exact beq_iff.mpr rfl

end Listing

theorem Coin.eq_of_texts {first second : Coin}
    (same : [first.id.text, first.code, first.name, first.kind] =
      [second.id.text, second.code, second.name, second.kind]) : first = second := by
  obtain ⟨⟨id⟩, code, name, kind⟩ := first
  obtain ⟨⟨otherId⟩, otherCode, otherName, otherKind⟩ := second
  simp only [List.cons.injEq, and_true] at same
  obtain ⟨rfl, rfl, rfl, rfl⟩ := same
  rfl

namespace Currency

variable {first second : Currency}

theorem beq_iff : (first == second) = true ↔ first.coin = second.coin ∧ first.listing = second.listing := by
  rw [← Listing.sameContent_iff, ← @decide_eq_true_iff (first.coin = second.coin), ← Bool.and_eq_true]
  rfl

theorem beq_equivalence : Equivalence fun first second : Currency => (first == second) = true where
  refl _ := beq_iff.mpr ⟨rfl, rfl⟩
  symm same := by
    obtain ⟨coin, listing⟩ := beq_iff.mp same
    exact beq_iff.mpr ⟨coin.symm, listing.symm⟩
  trans left right := by
    obtain ⟨coin, listing⟩ := beq_iff.mp left
    obtain ⟨otherCoin, otherListing⟩ := beq_iff.mp right
    exact beq_iff.mpr ⟨coin.trans otherCoin, listing.trans otherListing⟩

/-- The id of the listing adds nothing, as the coin has the same one. -/
theorem hashed_inj : first.hashed = second.hashed ↔ first.coin = second.coin := by
  constructor
  · intro same
    exact Coin.eq_of_texts (List.append_inj_left same rfl)
  · intro same
    have ids : first.listing.id = second.listing.id := by rw [← first.sameId, same, second.sameId]
    rw [hashed, hashed, same, Listing.hashed_inj.mpr ids]

theorem feed_hashed_iff : feed first.hashed = feed second.hashed ↔ first.coin = second.coin :=
  feed_inj.trans hashed_inj

/-- The currency on another network and with other denominations. -/
def refitted (currency : Currency) (network : Network) (units : Index Denomination)
    (baseUnit defaultUnit : Denomination) : Currency :=
  { currency with network, units, baseUnit, defaultUnit }

/-- What is left of a currency when the network and the denominations are taken away is compared, and
what is hashed is a part of that. -/
structure ComparedWithHash (first second : Currency) : Prop where
  equal : (first == second) = true ↔ first.coin = second.coin ∧ first.listing = second.listing
  hash : (first == second) = true → feed first.hashed = feed second.hashed
  coins : feed first.hashed = feed second.hashed ↔ first.coin = second.coin
  fit : ∀ network units baseUnit defaultUnit,
    (first.refitted network units baseUnit defaultUnit == second) = (first == second) ∧
      (second == first.refitted network units baseUnit defaultUnit) = (second == first) ∧
      feed (first.refitted network units baseUnit defaultUnit).hashed = feed first.hashed
  accepts : first.acceptsRequestFor second = (first == second)
  requests : first.acceptsRequestFor second = true ↔ second.acceptsRequestFor first = true

theorem comparedWithHash (first second : Currency) : ComparedWithHash first second where
  equal := beq_iff
  hash same := feed_hashed_iff.mpr (beq_iff.mp same).1
  coins := feed_hashed_iff
  fit _ _ _ _ := ⟨rfl, rfl, rfl⟩
  accepts := rfl
  requests := ⟨beq_equivalence.symm, beq_equivalence.symm⟩

end Currency

/-- Parts make a currency only where their ids agree, and so no two currencies of one coin differ in
what is hashed of their listings. -/
theorem comparison_fits_hashing :
    (Equivalence fun first second : Currency => (first == second) = true) ∧
    (∀ first second : Currency, first.ComparedWithHash second) ∧
    (∀ coin network listing given baseUnit defaultUnit,
      (∃ currency, Currency.ofParts coin network listing given baseUnit defaultUnit = .ok currency) ↔
        coin.id = listing.id) ∧
    ∀ first second : Listing, first.ComparedById second :=
  ⟨Currency.beq_equivalence, Currency.comparedWithHash, fun _ _ _ _ _ _ => Currency.exists_ofParts_iff,
    Listing.comparedById⟩

end WalletCurrencies
