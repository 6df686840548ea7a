import WalletCurrencies.Proofs.CatalogIds
import WalletCurrencies.Proofs.RecordGrammar

/-! What alternate names do to a record. They decide about two fields of its listing and never about
whether it is decoded, and they count only if all of them are texts: anything else under their key is
as good as no key. -/

namespace WalletCurrencies.Listing

open Json

variable {settings : Settings} {members : List (String × Value)} {names : Value} {listing : Listing}

/-- The object that has a text under each of its keys. -/
def objectOfTexts (texts : List (String × String)) : Value :=
  .object (texts.map fun entry => (entry.1, .text entry.2))

theorem mapM_namedText?_eq_some_iff {entries : List (String × Value)} {texts : List (String × String)} :
    entries.mapM namedText? = some texts ↔ entries = texts.map fun entry => (entry.1, .text entry.2) := by
  apply mapM_eq_some_iff_eq_map
  intro member entry
  obtain ⟨key, value⟩ := member
  obtain ⟨name, text⟩ := entry
  cases value <;> simp [namedText?, Value.text?]

theorem alternateNamesOf_objectOfTexts (texts : List (String × String)) :
    alternateNamesOf (some (objectOfTexts texts)) = texts := by
  simp only [alternateNamesOf, objectOfTexts, mapM_namedText?_eq_some_iff.mpr rfl, Option.getD_some]

theorem alternateNamesOf_of_forall_ne (other : ∀ texts, names ≠ objectOfTexts texts) :
    alternateNamesOf (some names) = [] := by
  cases names with
  | object entries =>
    cases read : entries.mapM namedText? with
    | none => simp only [alternateNamesOf, read, Option.getD_none]
    | some texts => exact absurd (congrArg Value.object (mapM_namedText?_eq_some_iff.mp read)) (other texts)
  | null | bool _ | number _ | text _ | list _ => rfl

theorem alternateNamesOf_present (held : Option Value) :
    alternateNamesOf (Entry.present held) = alternateNamesOf held := by
  cases held with
  | none => rfl
  | some value => cases value <;> rfl

namespace Entry

theorem member?_put {α : Type} {key other : String} (differs : key ≠ other) (value : Value)
    (read : Value → Except Mismatch α) :
    member? (Entries.put key value members) other read = member? members other read := by
  rw [member?, member?, Entries.find?_put, if_neg differs]

/-- No other field is read from their key. -/
theorem ofValue_put_alternate_names (members : List (String × Value)) (names : Value) :
    ofValue (.object (Entries.put "alternate_names" names members))
      = (fun entry : Entry => { entry with alternateNames := present (some names) })
        <$> ofValue (.object members) := by
  have own : Entries.find? "alternate_names" (Entries.put "alternate_names" names members) = some names := by
    rw [Entries.find?_put, if_pos rfl]
  have colors : Entries.find? "colors" (Entries.put "alternate_names" names members)
      = Entries.find? "colors" members := by
    rw [Entries.find?_put, if_neg (by decide)]
  simp only [ofValue, ofMembers, member?_put (by decide : "alternate_names" ≠ "code"),
    member?_put (by decide : "alternate_names" ≠ "contract_address"),
    member?_put (by decide : "alternate_names" ≠ "currency_id"),
    member?_put (by decide : "alternate_names" ≠ "is_supported"),
    member?_put (by decide : "alternate_names" ≠ "name"),
    member?_put (by decide : "alternate_names" ≠ "scale"), own, colors, map_bind, map_pure]

end Entry

/-- The listing under other alternate names. Where they have no price lookup id, that of a well-known
ticker is taken. -/
def renamed (names : Value) (listing : Listing) : Listing :=
  { listing with
    alternateCode := Entries.find? cryptoCompareKey (alternateNamesOf (some names))
    coinGeckoId :=
      (Entries.find? coinGeckoKey (alternateNamesOf (some names))).or (PriceId.find? listing.code) }

theorem ofEntry_renamed (entry : Entry) (id : CurrencyId) (palette : Palette) (names : Value) :
    ofEntry { entry with alternateNames := Entry.present (some names) } id palette
      = (ofEntry entry id palette).renamed names := by
  simp only [ofEntry, renamed, alternateNamesOf_present]

theorem decode_put_alternate_names (settings : Settings) (members : List (String × Value)) (names : Value) :
    decode settings (.object (Entries.put "alternate_names" names members))
      = (decode settings (.object members)).map (renamed names) := by
  have reads := Entry.ofValue_put_alternate_names members names
  cases read : Entry.ofValue (.object members) with
  | error mismatch =>
    rw [read] at reads
    rw [decode_of_mismatch read, decode_of_mismatch reads, Except.map]
  | ok entry =>
    rw [read] at reads
    cases placed : CurrencyId.inEnvironment entry.currencyId settings.environment with
    | error failure =>
      rw [decode_of_unplaced read placed, decode_of_unplaced reads placed, Except.map]
    | ok id =>
      rw [decode_of_placed read placed, decode_of_placed reads placed]
      cases paletteUnder settings.strict entry.colors with
      | none => rfl
      | some palette => exact congrArg Except.ok (ofEntry_renamed entry id palette names)

theorem renamed_eq_self (absent : Entries.find? "alternate_names" members = none)
    (other : ∀ texts, names ≠ objectOfTexts texts) (decoded : decode settings (.object members) = .ok listing) :
    listing.renamed names = listing := by
  obtain ⟨entry, id, palette, read, -, -, rfl⟩ := decode_eq_ok_iff.mp decoded
  have held : entry.alternateNames = Entry.present (Entries.find? "alternate_names" members) :=
    (Entry.describes_of_read read).alternateNames
  have bare : alternateNamesOf entry.alternateNames = [] := by
    rw [held, absent]
    rfl
  simp only [renamed, ofEntry, alternateNamesOf_of_forall_ne other, bare, Entries.find?, Option.none_or]

theorem code_of_decode (decoded : decode settings (.object members) = .ok listing) :
    Entries.find? "code" members = some (.text listing.code) := by
  obtain ⟨entry, palette, read, -, built⟩ := exists_entry_of_decode decoded
  rw [built]
  exact (Entry.describes_of_read read).code

/-- What alternate names make of a record that had none. -/
structure OnlyRenames (settings : Settings) (members : List (String × Value)) (names : Value)
    (outcome : Except Failure Listing) : Prop where
  accepted : (∃ listing, outcome = .ok listing) ↔ ∃ listing, decode settings (.object members) = .ok listing
  refused : ∀ failure, outcome = .error failure ↔ decode settings (.object members) = .error failure
  fields : ∀ listing own, outcome = .ok listing → decode settings (.object members) = .ok own →
    listing = { own with alternateCode := listing.alternateCode, coinGeckoId := listing.coinGeckoId }
  texts : ∀ texts listing, names = objectOfTexts texts → outcome = .ok listing →
    listing.alternateCode = Entries.find? "cryptocompare" texts ∧
    ∃ code, Entries.find? "code" members = some (.text code) ∧
      listing.coinGeckoId = (Entries.find? "coingecko" texts).or (PriceId.find? code)
  others : (∀ texts, names ≠ objectOfTexts texts) → outcome = decode settings (.object members)

theorem decode_onlyRenames (settings : Settings) (names : Value)
    (absent : Entries.find? "alternate_names" members = none) :
    OnlyRenames settings members names
      (decode settings (.object (Entries.put "alternate_names" names members))) := by
  rw [decode_put_alternate_names]
  cases bare : decode settings (.object members) with
  | error failure =>
    rw [Except.map]
    exact {
      accepted := by simp [bare]
      refused := by simp [bare]
      fields := by
        intro listing own impossible
        cases impossible
      texts := by
        intro texts listing _ impossible
        cases impossible
      others := fun _ => bare.symm }
  | ok own =>
    rw [Except.map]
    exact {
      accepted := by simp [bare]
      refused := by simp [bare]
      fields := by
        intro listing other renames same
        rw [bare] at same
        cases renames
        cases same
        rfl
      texts := by
        intro texts listing all renames
        cases renames
        refine ⟨?_, own.code, code_of_decode bare, ?_⟩
        · simp only [renamed, all, alternateNamesOf_objectOfTexts, cryptoCompareKey]
        · simp only [renamed, all, alternateNamesOf_objectOfTexts, coinGeckoKey]
      others := by
        intro other
        rw [bare, renamed_eq_self absent other bare] }

/-- The two names that matter. -/
def breadNames : List (String × String) := [("coingecko", "bread-token"), ("cryptocompare", "BRDX")]

/-- The names are all texts but one, which has nothing to do with the two that matter. -/
def spoiledNames : Value :=
  .object [("coingecko", .text "bread-token"), ("cryptocompare", .text "BRDX"), ("kraken", .null)]

/-- All of the names count, or none of them. -/
theorem decode_onlyRenames_bread :
    Entries.find? "alternate_names" Catalog.breadMembers = none ∧
      (∃ listing,
        decode .testnet (.object (Entries.put "alternate_names" (objectOfTexts breadNames) Catalog.breadMembers))
          = .ok listing ∧
        listing.alternateCode = some "BRDX" ∧ listing.coinGeckoId = some "bread-token" ∧
        OnlyRenames .testnet Catalog.breadMembers (objectOfTexts breadNames) (.ok listing)) ∧
      (∀ texts, spoiledNames ≠ objectOfTexts texts) ∧
      OnlyRenames .testnet Catalog.breadMembers spoiledNames
        (decode .testnet (.object (Entries.put "alternate_names" spoiledNames Catalog.breadMembers))) := by
  have absent : Entries.find? "alternate_names" Catalog.breadMembers = none := by rfl
  have bare : ∃ listing, decode .testnet (.object Catalog.breadMembers) = .ok listing := ⟨_, rfl⟩
  have renames := decode_onlyRenames .testnet (objectOfTexts breadNames) absent
  obtain ⟨listing, accepted⟩ := renames.accepted.mpr bare
  obtain ⟨code, _, _, priceId⟩ := renames.texts breadNames listing rfl accepted
  rw [accepted] at renames
  have spoiled : ∀ texts, spoiledNames ≠ objectOfTexts texts := by
    intro texts same
    have read := mapM_namedText?_eq_some_iff.mpr (Value.object.inj same)
    cases read
  exact ⟨absent, ⟨listing, accepted, code, priceId, renames⟩, spoiled,
    decode_onlyRenames .testnet spoiledNames absent⟩

end WalletCurrencies.Listing
