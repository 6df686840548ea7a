import WalletCurrencies.Listing.Entry
import WalletCurrencies.Proofs.Rounds

/-! Which records can be read as an entry, and what the entry then holds. A record in object form
has its fields under keys and one in list form has them at positions; what they must hold is the
same. -/

namespace WalletCurrencies

namespace Listing

open Json

inductive Field where
  | currencyId
  | code
  | isSupported
  | colors
  | name
  | contractAddress
  | scale
  | alternateNames

namespace Field

def key : Field → String
  | .currencyId => "currency_id"
  | .code => "code"
  | .isSupported => "is_supported"
  | .colors => "colors"
  | .name => "name"
  | .contractAddress => "contract_address"
  | .scale => "scale"
  | .alternateNames => "alternate_names"

/-- Where a record in list form has the field. -/
def position : Field → Nat
  | .currencyId => 0
  | .code => 1
  | .isSupported => 2
  | .colors => 3
  | .name => 4
  | .contractAddress => 5
  | .scale => 6
  | .alternateNames => 7

/-- What a record holds in a field. -/
def of? (field : Field) : Value → Option Value
  | .object members => Entries.find? field.key members
  | .list items => items[field.position]?
  | _ => none

end Field

/-- Colors and alternate names may hold anything, and so may keys that belong to no field. -/
structure WellShaped (value : Value) : Prop where
  form : (∃ members, value = .object members) ∨
    ∃ items, value = .list items ∧ (items.length = 7 ∨ items.length = 8)
  currencyId : ∃ text, Field.currencyId.of? value = some (.text text)
  code : ∃ text, Field.code.of? value = some (.text text)
  name : ∃ text, Field.name.of? value = some (.text text)
  isSupported : ∃ flag, Field.isSupported.of? value = some (.bool flag)
  contractAddress : Field.contractAddress.of? value = some .null ∨
    ∃ text, Field.contractAddress.of? value = some (.text text)
  scale : ∃ number : Int, Field.scale.of? value = some (.number (.whole number)) ∧ 0 ≤ number ∧ number ≤ 255

namespace Entry

/-- The entry has in every field what the record holds there. -/
structure Describes (held : Field → Option Value) (entry : Entry) : Prop where
  currencyId : held .currencyId = some (.text entry.currencyId)
  code : held .code = some (.text entry.code)
  name : held .name = some (.text entry.name)
  isSupported : held .isSupported = some (.bool entry.isSupported)
  contractAddress : held .contractAddress = some (entry.contractAddress.elim .null .text)
  scale : held .scale = some (.ofNat entry.scale.toNat)
  colors : entry.colors = present (held .colors)
  alternateNames : entry.alternateNames = present (held .alternateNames)

theorem textOf_eq_ok_iff {value : Value} {text : String} : textOf value = .ok text ↔ value = .text text := by
  cases value <;> simp [textOf]

theorem boolOf_eq_ok_iff {value : Value} {flag : Bool} : boolOf value = .ok flag ↔ value = .bool flag := by
  cases value <;> simp [boolOf]

theorem nullableTextOf_eq_ok_iff {value : Value} {text : Option String} :
    nullableTextOf value = .ok text ↔ value = text.elim .null .text := by
  cases value <;> cases text <;> simp [nullableTextOf, textOf, Except.map]

theorem toByte_eq_ok_iff {number : Number} {byte : UInt8} :
    number.toByte = .ok byte ↔ number = .whole byte.toNat := by
  have small : byte.toNat < 256 := byte.toNat_lt
  cases number with
  | real value => simp [Number.toByte]
  | whole value =>
    simp only [Number.toByte, Number.whole.injEq]
    constructor
    · intro read
      split at read
      next range =>
        cases read
        simp only [Nat.toUInt8_eq, UInt8.toNat_ofNat']
        omega
      next => cases read
    · intro same
      subst same
      have range : (0 : Int) ≤ byte.toNat ∧ (byte.toNat : Int) < 256 := by omega
      rw [if_pos range, Int.toNat_natCast]
      exact congrArg Except.ok UInt8.ofNat_toNat

theorem byteOf_eq_ok_iff {value : Value} {byte : UInt8} : byteOf value = .ok byte ↔ value = .ofNat byte.toNat := by
  cases value <;> simp [byteOf, Value.ofNat, toByte_eq_ok_iff]

theorem item_eq_ok_iff {α : Type} {items : List Value} {index : Nat} {read : Value → Except Mismatch α}
    {result : α} :
    item items index read = .ok result ↔ ∃ value, items[index]? = some value ∧ read value = .ok result := by
  unfold item
  cases items[index]? <;> simp

theorem member?_of_find? {α : Type} {members : List (String × Value)} {key : String} {value : Value}
    {read : Value → Except Mismatch α} {result : α} (held : Entries.find? key members = some value)
    (accepted : read value = .ok result) : member? members key read = .ok (some result) := by
  simp only [member?, held, accepted, Except.map]

/-- A member that is read first and required later is there. -/
theorem find?_of_required {α : Type} {members : List (String × Value)} {key : String}
    {read : Value → Except Mismatch α} {found : Option α} {result : α}
    (accepted : member? members key read = .ok found) (there : required key found = .ok result) :
    ∃ value, Entries.find? key members = some value ∧ read value = .ok result := by
  unfold member? at accepted
  cases held : Entries.find? key members with
  | none =>
    rw [held] at accepted
    cases accepted
    cases there
  | some value =>
    rw [held] at accepted
    cases outcome : read value with
    | error mismatch =>
      simp only [outcome, Except.map] at accepted
      cases accepted
    | ok content =>
      simp only [outcome, Except.map] at accepted
      cases accepted
      cases there
      exact ⟨value, rfl, outcome⟩

theorem ofMembers_eq_ok_iff {members : List (String × Value)} {entry : Entry} :
    ofMembers members = .ok entry ↔ Describes (fun field => Entries.find? field.key members) entry := by
  unfold ofMembers
  simp only [bind_eq_ok_iff]
  constructor
  · intro holds
    -- Each member is met twice, when it is read and when it must be there.
    obtain ⟨code?, readCode, contract?, readContract, currencyId?, readCurrencyId, isSupported?, readIsSupported,
      name?, readName, scale?, readScale, currencyId, hasCurrencyId, code, hasCode, isSupported, hasIsSupported,
      name, hasName, contract, hasContract, scale, hasScale, built⟩ := holds
    cases built
    obtain ⟨_, heldCurrencyId, isText⟩ := find?_of_required readCurrencyId hasCurrencyId
    obtain ⟨_, heldCode, isCode⟩ := find?_of_required readCode hasCode
    obtain ⟨_, heldIsSupported, isFlag⟩ := find?_of_required readIsSupported hasIsSupported
    obtain ⟨_, heldName, isName⟩ := find?_of_required readName hasName
    obtain ⟨_, heldContract, isContract⟩ := find?_of_required readContract hasContract
    obtain ⟨_, heldScale, isScale⟩ := find?_of_required readScale hasScale
    exact {
      currencyId := textOf_eq_ok_iff.mp isText ▸ heldCurrencyId
      code := textOf_eq_ok_iff.mp isCode ▸ heldCode
      name := textOf_eq_ok_iff.mp isName ▸ heldName
      isSupported := boolOf_eq_ok_iff.mp isFlag ▸ heldIsSupported
      contractAddress := nullableTextOf_eq_ok_iff.mp isContract ▸ heldContract
      scale := byteOf_eq_ok_iff.mp isScale ▸ heldScale
      colors := rfl
      alternateNames := rfl }
  · intro describes
    refine ⟨_, member?_of_find? describes.code (textOf_eq_ok_iff.mpr rfl),
      _, member?_of_find? describes.contractAddress (nullableTextOf_eq_ok_iff.mpr rfl),
      _, member?_of_find? describes.currencyId (textOf_eq_ok_iff.mpr rfl),
      _, member?_of_find? describes.isSupported (boolOf_eq_ok_iff.mpr rfl),
      _, member?_of_find? describes.name (textOf_eq_ok_iff.mpr rfl),
      _, member?_of_find? describes.scale (byteOf_eq_ok_iff.mpr rfl),
      _, rfl, _, rfl, _, rfl, _, rfl, _, rfl, _, rfl, ?_⟩
    have colors : present (Entries.find? "colors" members) = entry.colors := describes.colors.symm
    have alternateNames : present (Entries.find? "alternate_names" members) = entry.alternateNames :=
      describes.alternateNames.symm
    rw [colors, alternateNames]
    rfl

theorem ofItems_eq_ok_iff {items : List Value} {entry : Entry} :
    ofItems items = .ok entry ↔ items.length ≤ 8 ∧ Describes (fun field => items[field.position]?) entry := by
  unfold ofItems
  simp only [bind_eq_ok_iff, item_eq_ok_iff, textOf_eq_ok_iff, boolOf_eq_ok_iff, nullableTextOf_eq_ok_iff,
    byteOf_eq_ok_iff, exists_eq_right]
  constructor
  · intro holds
    obtain ⟨currencyId, heldCurrencyId, code, heldCode, isSupported, heldIsSupported, name, heldName, contract,
      heldContract, scale, heldScale, built⟩ := holds
    split at built
    next => cases built
    next short =>
      cases built
      exact ⟨Nat.le_of_not_lt short, {
        currencyId := heldCurrencyId
        code := heldCode
        name := heldName
        isSupported := heldIsSupported
        contractAddress := heldContract
        scale := heldScale
        colors := rfl
        alternateNames := rfl }⟩
  · intro holds
    obtain ⟨short, describes⟩ := holds
    refine ⟨_, describes.currencyId, _, describes.code, _, describes.isSupported, _, describes.name, _,
      describes.contractAddress, _, describes.scale, ?_⟩
    have colors : present items[3]? = entry.colors := describes.colors.symm
    have alternateNames : present items[7]? = entry.alternateNames := describes.alternateNames.symm
    rw [if_neg (Nat.not_lt.mpr short), colors, alternateNames]
    rfl

/-- Both forms are read alike, but a list must not go on after the last field. -/
theorem ofValue_eq_ok_iff {value : Value} {entry : Entry} :
    ofValue value = .ok entry ↔
      (∀ items, value = .list items → items.length ≤ 8) ∧ Describes (fun field => field.of? value) entry := by
  cases value with
  | object members =>
    rw [ofValue, ofMembers_eq_ok_iff]
    exact ⟨fun describes => ⟨nofun, describes⟩, fun holds => holds.2⟩
  | list items =>
    rw [ofValue, ofItems_eq_ok_iff]
    constructor
    · intro holds
      refine ⟨?_, holds.2⟩
      intro others same
      cases same
      exact holds.1
    · exact fun holds => ⟨holds.1 items rfl, holds.2⟩
  | null | bool _ | number _ | text _ =>
    constructor
    · intro impossible
      cases impossible
    · intro holds
      have impossible := holds.2.currencyId
      cases impossible

theorem describes_of_read {value : Value} {entry : Entry} (read : ofValue value = .ok entry) :
    Describes (fun field => field.of? value) entry :=
  (ofValue_eq_ok_iff.mp read).2

end Entry

/-- The texts and the null that stand for an optional text. -/
theorem nullable_iff {held : Option Value} :
    (held = some .null ∨ ∃ text, held = some (.text text)) ↔
      ∃ text : Option String, held = some (text.elim .null .text) := by
  constructor
  · intro holds
    rcases holds with null | ⟨text, held⟩
    · exact ⟨none, null⟩
    · exact ⟨some text, held⟩
  · intro holds
    obtain ⟨text, held⟩ := holds
    cases text with
    | none => exact Or.inl held
    | some text => exact Or.inr ⟨text, held⟩

/-- The whole numbers that stand for a byte. -/
theorem byte_iff {held : Option Value} :
    (∃ number : Int, held = some (.number (.whole number)) ∧ 0 ≤ number ∧ number ≤ 255) ↔
      ∃ byte : UInt8, held = some (.ofNat byte.toNat) := by
  constructor
  · intro holds
    obtain ⟨number, held, low, high⟩ := holds
    have same : ((UInt8.ofNat number.toNat).toNat : Int) = number := by
      rw [UInt8.toNat_ofNat']
      omega
    exact ⟨UInt8.ofNat number.toNat, by rw [held, Value.ofNat, same]⟩
  · intro holds
    obtain ⟨byte, held⟩ := holds
    have small : byte.toNat < 256 := byte.toNat_lt
    exact ⟨byte.toNat, held, by omega, by omega⟩

theorem wellShaped_of_entry {value : Value} {entry : Entry} (read : Entry.ofValue value = .ok entry) :
    WellShaped value := by
  obtain ⟨short, describes⟩ := Entry.ofValue_eq_ok_iff.mp read
  refine {
    form := ?_
    currencyId := ⟨_, describes.currencyId⟩
    code := ⟨_, describes.code⟩
    name := ⟨_, describes.name⟩
    isSupported := ⟨_, describes.isSupported⟩
    contractAddress := nullable_iff.mpr ⟨_, describes.contractAddress⟩
    scale := byte_iff.mpr ⟨_, describes.scale⟩ }
  cases value with
  | object members => exact Or.inl ⟨members, rfl⟩
  | list items =>
    have last : items[6]? = some (.ofNat entry.scale.toNat) := describes.scale
    have long := (List.getElem?_eq_some_iff.mp last).1
    have atMost := short items rfl
    exact Or.inr ⟨items, rfl, by omega⟩
  | null | bool _ | number _ | text _ => cases describes.currencyId

theorem exists_entry_of_wellShaped {value : Value} (shaped : WellShaped value) :
    ∃ entry, Entry.ofValue value = .ok entry := by
  obtain ⟨currencyId, heldCurrencyId⟩ := shaped.currencyId
  obtain ⟨code, heldCode⟩ := shaped.code
  obtain ⟨name, heldName⟩ := shaped.name
  obtain ⟨isSupported, heldIsSupported⟩ := shaped.isSupported
  obtain ⟨contractAddress, heldContract⟩ := nullable_iff.mp shaped.contractAddress
  obtain ⟨scale, heldScale⟩ := byte_iff.mp shaped.scale
  refine ⟨⟨currencyId, code, isSupported, Entry.present (Field.colors.of? value), name, contractAddress, scale,
    Entry.present (Field.alternateNames.of? value)⟩, ?_⟩
  refine Entry.ofValue_eq_ok_iff.mpr ⟨?_, ⟨heldCurrencyId, heldCode, heldName, heldIsSupported, heldContract,
    heldScale, rfl, rfl⟩⟩
  intro items same
  rcases shaped.form with ⟨members, impossible⟩ | ⟨others, list, length⟩
  · rw [same] at impossible
    cases impossible
  · rw [same] at list
    cases list
    omega

end Listing

end WalletCurrencies
