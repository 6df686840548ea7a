import Mathlib.Data.List.Infix
import WalletCurrencies.Listing.Basic
import WalletCurrencies.Proofs.IdParts

/-! The marker of native currencies is looked for in the whole of an id. It is found in every id that
has it for its address, but also in ids of tokens with the marker inside one of their parts, and in
ids that do not split. -/

namespace WalletCurrencies

namespace Text

variable {word text before after : List Char} {mark : Char}

theorem occursIn_iff : occursIn word text = true ↔ word <:+: text := by
  induction text with
  | nil => rw [occursIn, List.isEmpty_iff, List.infix_nil]
  | cons c rest ih =>
    rw [occursIn, Bool.or_eq_true, List.isPrefixOf_iff_prefix, ih, List.infix_cons_iff]

theorem eq_nil_of_prefix_cons (absent : mark ∉ word) (starts : word <+: mark :: after) : word = [] := by
  rcases List.prefix_cons_iff.mp starts with empty | ⟨rest, rfl, -⟩
  · exact empty
  · exact absurd List.mem_cons_self absent

/-- A word without the mark lies on one side of it. -/
theorem infix_append_cons_iff (absent : mark ∉ word) :
    word <:+: before ++ mark :: after ↔ word <:+: before ∨ word <:+: after := by
  constructor
  · intro inside
    rcases List.infix_append_iff.mp inside with left | right | ⟨first, second, rfl, ends, starts⟩
    · exact Or.inl left
    · rcases List.infix_cons_iff.mp right with starts | later
      · rw [eq_nil_of_prefix_cons absent starts]
        exact Or.inl List.nil_infix
      · exact Or.inr later
    · have across : second = [] :=
        eq_nil_of_prefix_cons (fun member => absent (List.mem_append_right first member)) starts
      rw [across, List.append_nil]
      exact Or.inl ends.isInfix
  · intro holds
    rcases holds with left | right
    · exact left.trans (List.prefix_append before _).isInfix
    · exact right.trans ((List.suffix_cons mark after).trans (List.suffix_append before _)).isInfix

end Text

namespace CurrencyId

/-- The marker stands somewhere in the text. -/
def Marks (text : String) : Prop := nativeAddress.toList <:+: text.toList

/-- The id splits, and its address is that of native currencies. -/
def HasNativeAddress (id : CurrencyId) : Prop := id.parts?.map (·.address) = some nativeAddress

/-- The marker stands in the id, but is not its address. -/
inductive StrayMarker (id : CurrencyId) : Prop where
  | whole (unsplit : id.parts? = none) (marked : Marks id.text)
  | part {parts} (split : id.parts? = some parts) (differs : parts.address ≠ nativeAddress)
      (marked : Marks parts.chain ∨ Marks parts.segment ∨ Marks parts.address)

/-- The marker holds neither of the characters at which an id is split. -/
theorem marks_join_iff (parts : Parts) :
    Marks (join parts).text ↔ Marks parts.chain ∨ Marks parts.segment ∨ Marks parts.address := by
  have colon : ':' ∉ nativeAddress.toList := by decide
  have dash : '-' ∉ nativeAddress.toList := by decide
  simp only [Marks, toList_join]
  rw [Text.infix_append_cons_iff colon, Text.infix_append_cons_iff dash, or_assoc]

variable {id : CurrencyId}

theorem marks_iff_of_parts {parts : Parts} (split : id.parts? = some parts) :
    Marks id.text ↔ Marks parts.chain ∨ Marks parts.segment ∨ Marks parts.address := by
  obtain ⟨joined, -⟩ := split?_eq_some_iff.mp split
  rw [← joined, marks_join_iff]

theorem isNative_iff_marks : id.isNative = true ↔ Marks id.text := Text.occursIn_iff

theorem HasNativeAddress.marks (own : id.HasNativeAddress) : Marks id.text := by
  obtain ⟨parts, split, address⟩ := Option.map_eq_some_iff.mp own
  apply (marks_iff_of_parts split).mpr
  rw [address]
  exact Or.inr (Or.inr (List.infix_refl _))

theorem StrayMarker.marks (stray : id.StrayMarker) : Marks id.text := by
  cases stray with
  | whole unsplit marked => exact marked
  | part split differs marked => exact (marks_iff_of_parts split).mpr marked

theorem StrayMarker.not_hasNativeAddress (stray : id.StrayMarker) : ¬ id.HasNativeAddress := by
  intro own
  obtain ⟨parts, split, address⟩ := Option.map_eq_some_iff.mp own
  cases stray with
  | whole unsplit marked =>
    rw [unsplit] at split
    cases split
  | part again differs marked =>
    rw [again] at split
    cases split
    exact differs address

theorem isNative_iff : id.isNative = true ↔ id.HasNativeAddress ∨ id.StrayMarker := by
  rw [isNative_iff_marks]
  constructor
  · intro marked
    cases split : id.parts? with
    | none => exact Or.inr (.whole split marked)
    | some parts =>
      by_cases own : parts.address = nativeAddress
      · exact Or.inl (Option.map_eq_some_iff.mpr ⟨parts, split, own⟩)
      · exact Or.inr (.part split own ((marks_iff_of_parts split).mp marked))
  · intro holds
    rcases holds with own | stray
    · exact own.marks
    · exact stray.marks

end CurrencyId

namespace Listing

/-- The kind of the listing is told from the address of its id and from nothing else. -/
structure TaggedByAddress (listing : Listing) : Prop where
  id : listing.id.isNative = true ↔ listing.id.HasNativeAddress
  native : listing.kindTag = "NATIVE" ↔ listing.id.HasNativeAddress
  token : listing.kindTag = "ERC20" ↔ ¬ listing.id.HasNativeAddress

theorem kindTag_eq_native_iff {listing : Listing} : listing.kindTag = "NATIVE" ↔ listing.id.isNative = true := by
  rw [kindTag]
  cases listing.id.isNative <;> simp

theorem kindTag_eq_token_iff {listing : Listing} : listing.kindTag = "ERC20" ↔ ¬ listing.id.isNative = true := by
  rw [kindTag]
  cases listing.id.isNative <;> simp

/-- A stray marker makes a token look like the currency of its chain. -/
theorem taggedByAddress_iff (listing : Listing) : listing.TaggedByAddress ↔ ¬ listing.id.StrayMarker := by
  constructor
  · intro tagged stray
    exact stray.not_hasNativeAddress (tagged.id.mp (CurrencyId.isNative_iff.mpr (Or.inr stray)))
  · intro clean
    have told : listing.id.isNative = true ↔ listing.id.HasNativeAddress := by
      rw [CurrencyId.isNative_iff, or_iff_left clean]
    exact {
      id := told
      native := kindTag_eq_native_iff.trans told
      token := kindTag_eq_token_iff.trans (not_congr told) }

/-- A token with the marker inside its address. -/
def markedToken : Listing :=
  ⟨⟨"ethereum-mainnet:0x__native__"⟩, "mrk", "Marked", true, .black, none, 18, none, none⟩

theorem not_taggedByAddress_markedToken :
    markedToken.id.parts?.map (·.address) = some "0x__native__" ∧ markedToken.id.isNative = true ∧
      markedToken.kindTag = "NATIVE" ∧ ¬ markedToken.TaggedByAddress := by
  have address : markedToken.id.parts?.map (·.address) = some "0x__native__" := by decide
  have native : markedToken.id.isNative = true := by decide
  refine ⟨address, native, kindTag_eq_native_iff.mpr native, ?_⟩
  intro tagged
  have own : markedToken.id.parts?.map (·.address) = some CurrencyId.nativeAddress := tagged.id.mp native
  rw [address] at own
  exact absurd own (by decide)

end Listing

end WalletCurrencies
