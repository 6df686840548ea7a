import WalletCurrencies.Proofs.ColorHex
import WalletCurrencies.Proofs.Decoding
import WalletCurrencies.Proofs.EntryFields

/-! The grammar of the records that are decoded. The shape of a record is judged first, then its id,
which matters on a test network only, and its colors last, which matter to a strict load only. -/

namespace WalletCurrencies.Listing

open Json

/-- The id of the record has a chain, a segment and an address. -/
def Placed (value : Value) : Prop :=
  ∃ parts : CurrencyId.Parts, parts.Proper ∧
    Field.currencyId.of? value = some (.text (CurrencyId.join parts).text)

/-- The colors of the record are two, and both can be read. -/
def Colored (value : Value) : Prop :=
  ∃ first second primary secondary, Field.colors.of? value = some (.list [.text first, .text second]) ∧
    Color.ofHex first = .ok primary ∧ Color.ofHex second = .ok secondary

theorem placed_iff {value : Value} {text : String} (held : Field.currencyId.of? value = some (.text text)) :
    Placed value ↔ ∃ parts, CurrencyId.split? text = some parts := by
  unfold Placed
  rw [held]
  simp only [CurrencyId.split?_eq_some_iff, Option.some_inj, Value.text.injEq]
  constructor
  · intro holds
    obtain ⟨parts, proper, joined⟩ := holds
    exact ⟨parts, joined.symm, proper⟩
  · intro holds
    obtain ⟨parts, joined, proper⟩ := holds
    exact ⟨parts, proper, joined.symm⟩

/-- Where reading inverts writing, a list can be read exactly if all of it was written. -/
theorem mapM_eq_some_iff_eq_map {α β : Type} {read : α → Option β} {write : β → α}
    (inverse : ∀ item image, read item = some image ↔ item = write image) {items : List α} {images : List β} :
    items.mapM read = some images ↔ items = images.map write := by
  induction items generalizing images with
  | nil => cases images <;> simp
  | cons item rest ih =>
    rw [List.mapM_cons]
    simp only [Option.bind_eq_bind, Option.bind_eq_some_iff, inverse, ih, Option.pure_def, Option.some_inj]
    cases images <;> simp

theorem mapM_text?_eq_some_iff {items : List Value} {texts : List String} :
    items.mapM Value.text? = some texts ↔ items = texts.map .text := by
  apply mapM_eq_some_iff_eq_map
  intro item text
  cases item <;> simp [Value.text?]

theorem paletteOf_list_eq_ok_iff {items : List Value} {palette : Palette} :
    paletteOf (some (.list items)) = .ok palette ↔
      ∃ first second, items = [.text first, .text second] ∧
        Color.ofHex first = .ok palette.primary ∧ Color.ofHex second = .ok palette.secondary := by
  simp only [paletteOf]
  constructor
  · intro read
    split at read
    next hexes texts =>
      obtain ⟨first, second, rfl, primary, secondary⟩ := Palette.ofHexes_eq_ok_iff.mp read
      exact ⟨first, second, mapM_text?_eq_some_iff.mp texts, primary, secondary⟩
    next => cases read
  · intro holds
    obtain ⟨first, second, rfl, primary, secondary⟩ := holds
    have texts : [Value.text first, .text second].mapM Value.text? = some [first, second] :=
      mapM_text?_eq_some_iff.mpr rfl
    rw [texts]
    exact Palette.ofHexes_eq_ok_iff.mpr ⟨first, second, rfl, primary, secondary⟩

theorem paletteOf_eq_ok_iff {held : Option Value} {palette : Palette} :
    paletteOf (Entry.present held) = .ok palette ↔
      ∃ first second, held = some (.list [.text first, .text second]) ∧
        Color.ofHex first = .ok palette.primary ∧ Color.ofHex second = .ok palette.secondary := by
  cases held with
  | none => simp [Entry.present, paletteOf]
  | some value =>
    cases value with
    | list items =>
      simp only [Option.some_inj, Value.list.injEq]
      exact paletteOf_list_eq_ok_iff
    | null | bool _ | number _ | text _ | object _ => simp [Entry.present, paletteOf]

/-- What a record needs to be decoded. -/
structure Acceptable (settings : Settings) (value : Value) : Prop where
  shape : WellShaped value
  place : settings.environment = .testnet → Placed value
  colors : settings.strict = true → Colored value

variable {settings : Settings} {value : Value}

theorem colored_iff :
    Colored value ↔ ∃ palette, paletteOf (Entry.present (Field.colors.of? value)) = .ok palette := by
  simp only [paletteOf_eq_ok_iff]
  constructor
  · intro holds
    obtain ⟨first, second, primary, secondary, held, left, right⟩ := holds
    exact ⟨⟨primary, secondary⟩, first, second, held, left, right⟩
  · intro holds
    obtain ⟨⟨primary, secondary⟩, first, second, held, left, right⟩ := holds
    exact ⟨first, second, primary, secondary, held, left, right⟩

theorem exists_paletteUnder_iff {strict : Bool} :
    (∃ palette, paletteUnder strict (Entry.present (Field.colors.of? value)) = some palette) ↔
      (strict = true → Colored value) := by
  rw [colored_iff, paletteUnder]
  cases paletteOf (Entry.present (Field.colors.of? value)) with
  | ok palette => simp
  | error failure => cases strict <;> simp

/-- The id and the colors of a record of good shape are those of its entry. -/
theorem exists_entry_of_held {text : String} (shaped : WellShaped value)
    (held : Field.currencyId.of? value = some (.text text)) :
    ∃ entry, Entry.ofValue value = .ok entry ∧ entry.currencyId = text ∧
      entry.colors = Entry.present (Field.colors.of? value) := by
  obtain ⟨entry, read⟩ := exists_entry_of_wellShaped shaped
  have describes := Entry.describes_of_read read
  have same := describes.currencyId
  rw [held] at same
  cases same
  exact ⟨entry, read, rfl, describes.colors⟩

theorem exists_inEnvironment_of_placed {text : String} (held : Field.currencyId.of? value = some (.text text))
    (place : settings.environment = .testnet → Placed value) :
    ∃ id, CurrencyId.inEnvironment text settings.environment = .ok id :=
  CurrencyId.exists_inEnvironment_iff.mpr fun onTestnet => (placed_iff held).mp (place onTestnet)

theorem exists_decode_iff : (∃ listing, decode settings value = .ok listing) ↔ Acceptable settings value := by
  constructor
  · intro accepted
    obtain ⟨listing, decoded⟩ := accepted
    obtain ⟨entry, id, palette, read, placed, colors, -⟩ := decode_eq_ok_iff.mp decoded
    have describes := Entry.describes_of_read read
    rw [describes.colors] at colors
    refine ⟨wellShaped_of_entry read, ?_, exists_paletteUnder_iff.mp ⟨palette, colors⟩⟩
    intro onTestnet
    exact (placed_iff describes.currencyId).mpr (CurrencyId.exists_inEnvironment_iff.mp ⟨id, placed⟩ onTestnet)
  · intro acceptable
    obtain ⟨text, held⟩ := acceptable.shape.currencyId
    obtain ⟨entry, read, rfl, own⟩ := exists_entry_of_held acceptable.shape held
    obtain ⟨id, placed⟩ := exists_inEnvironment_of_placed held acceptable.place
    obtain ⟨palette, colors⟩ := exists_paletteUnder_iff.mpr acceptable.colors
    rw [← own] at colors
    exact ⟨_, decode_eq_ok_iff.mpr ⟨entry, id, palette, read, placed, colors, rfl⟩⟩

theorem decode_of_misshapen (misshapen : ¬ WellShaped value) :
    ∃ reason, decode settings value = .error (.undecodableRecord reason) := by
  cases read : Entry.ofValue value with
  | error mismatch => exact ⟨mismatch.message, decode_of_mismatch read⟩
  | ok entry => exact absurd (wellShaped_of_entry read) misshapen

theorem decode_of_not_placed {text : String} (shaped : WellShaped value)
    (held : Field.currencyId.of? value = some (.text text)) (onTestnet : settings.environment = .testnet)
    (unplaced : ¬ Placed value) : decode settings value = .error (.malformedId text) := by
  obtain ⟨entry, read, rfl, -⟩ := exists_entry_of_held shaped held
  have unsplit : CurrencyId.split? entry.currencyId = none := by
    rw [placed_iff held, ← Option.isSome_iff_exists, Option.not_isSome_iff_eq_none] at unplaced
    exact unplaced
  exact decode_of_unplaced read (CurrencyId.inEnvironment_eq_error_iff.mpr ⟨onTestnet, unsplit, rfl⟩)

theorem decode_of_not_colored {text : String} (shaped : WellShaped value)
    (held : Field.currencyId.of? value = some (.text text))
    (place : settings.environment = .testnet → Placed value) (strict : settings.strict = true)
    (uncolored : ¬ Colored value) :
    ∃ id, CurrencyId.inEnvironment text settings.environment = .ok id ∧
      decode settings value = .error (.invalidColors id.text) := by
  obtain ⟨entry, read, rfl, own⟩ := exists_entry_of_held shaped held
  obtain ⟨id, placed⟩ := exists_inEnvironment_of_placed held place
  have none : paletteUnder settings.strict entry.colors = none := by
    apply Option.eq_none_iff_forall_ne_some.mpr
    intro palette colors
    rw [own] at colors
    exact uncolored (exists_paletteUnder_iff.mp ⟨palette, colors⟩ strict)
  refine ⟨id, placed, ?_⟩
  rw [decode_of_placed read placed, none]

/-- A contract is as good as none, provided that the other fields stay. -/
theorem Acceptable.of_agree {members others : List (String × Value)}
    (acceptable : Acceptable settings (.object members))
    (agree : ∀ field : Field, field ≠ .contractAddress →
      Entries.find? field.key others = Entries.find? field.key members)
    (contract : Entries.find? "contract_address" others = some .null ∨
      ∃ text, Entries.find? "contract_address" others = some (.text text)) :
    Acceptable settings (.object others) := by
  have same (field : Field) (differs : field ≠ .contractAddress) :
      field.of? (.object others) = field.of? (.object members) := agree field differs
  obtain ⟨shape, place, colors⟩ := acceptable
  refine ⟨?_, ?_, ?_⟩
  · exact {
      form := Or.inl ⟨others, rfl⟩
      currencyId := same .currencyId nofun ▸ shape.currencyId
      code := same .code nofun ▸ shape.code
      name := same .name nofun ▸ shape.name
      isSupported := same .isSupported nofun ▸ shape.isSupported
      contractAddress := contract
      scale := same .scale nofun ▸ shape.scale }
  · unfold Placed at place ⊢
    rwa [same .currencyId nofun]
  · unfold Colored at colors ⊢
    rwa [same .colors nofun]

theorem find?_put_contract (members : List (String × Value)) (content : Value) {field : Field}
    (differs : field ≠ .contractAddress) :
    Entries.find? field.key (Entries.put "contract_address" content members) = Entries.find? field.key members := by
  rw [Entries.find?_put, if_neg]
  cases field with
  | contractAddress => exact absurd rfl differs
  | _ => decide

theorem decode_of_no_contract {members : List (String × Value)}
    (absent : Entries.find? "contract_address" members = none) :
    ∃ reason, decode settings (.object members) = .error (.undecodableRecord reason) := by
  apply decode_of_misshapen
  intro shaped
  have none : Field.contractAddress.of? (.object members) = none := absent
  rcases shaped.contractAddress with null | ⟨text, held⟩
  · rw [none] at null
    cases null
  · rw [none] at held
    cases held

theorem exists_decode_null_contract_iff {members : List (String × Value)} {text : String} :
    (∃ listing, decode settings (.object (Entries.put "contract_address" .null members)) = .ok listing) ↔
      ∃ listing, decode settings (.object (Entries.put "contract_address" (.text text) members)) = .ok listing := by
  have held (content : Value) :
      Entries.find? "contract_address" (Entries.put "contract_address" content members) = some content := by
    rw [Entries.find?_put, if_pos rfl]
  have agree (content other : Value) (field : Field) (differs : field ≠ .contractAddress) :
      Entries.find? field.key (Entries.put "contract_address" content members)
        = Entries.find? field.key (Entries.put "contract_address" other members) := by
    rw [find?_put_contract members content differs, find?_put_contract members other differs]
  rw [exists_decode_iff, exists_decode_iff]
  constructor
  · exact fun acceptable => acceptable.of_agree (agree _ _) (Or.inr ⟨text, held _⟩)
  · exact fun acceptable => acceptable.of_agree (agree _ _) (Or.inl (held _))

/-- Which records are decoded, and what is said of the others: first of their shape, then of their
id, and of their colors last. -/
structure Grammar (settings : Settings) : Prop where
  accepted : ∀ value, (∃ listing, decode settings value = .ok listing) ↔ Acceptable settings value
  misshapen : ∀ value, ¬ WellShaped value → ∃ reason, decode settings value = .error (.undecodableRecord reason)
  unplaced : ∀ value text, WellShaped value → Field.currencyId.of? value = some (.text text) →
    settings.environment = .testnet → ¬ Placed value → decode settings value = .error (.malformedId text)
  uncolored : ∀ value text, WellShaped value → Field.currencyId.of? value = some (.text text) →
    (settings.environment = .testnet → Placed value) → settings.strict = true → ¬ Colored value →
    ∃ id, CurrencyId.inEnvironment text settings.environment = .ok id ∧
      decode settings value = .error (.invalidColors id.text)
  noContract : ∀ members, Entries.find? "contract_address" members = none →
    ∃ reason, decode settings (.object members) = .error (.undecodableRecord reason)
  nullContract : ∀ members text,
    (∃ listing, decode settings (.object (Entries.put "contract_address" .null members)) = .ok listing) ↔
      ∃ listing, decode settings (.object (Entries.put "contract_address" (.text text) members)) = .ok listing

theorem decode_grammar (settings : Settings) : Grammar settings where
  accepted _ := exists_decode_iff
  misshapen _ := decode_of_misshapen
  unplaced _ _ := decode_of_not_placed
  uncolored _ _ := decode_of_not_colored
  noContract _ := decode_of_no_contract
  nullContract _ _ := exists_decode_null_contract_iff

end WalletCurrencies.Listing
