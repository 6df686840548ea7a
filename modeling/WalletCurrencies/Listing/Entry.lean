import WalletCurrencies.Json.Scalar

/-! The entry of the remote currency list in which a listing arrives, typed but not yet
interpreted. Colors and alternate names may be anything; every other field has its type. -/

namespace WalletCurrencies.Listing

open Json

structure Entry where
  currencyId : String
  code : String
  isSupported : Bool
  colors : Option Value
  name : String
  contractAddress : Option String
  scale : UInt8
  alternateNames : Option Value

namespace Entry

def textOf : Value → Except Mismatch String
  | .text value => .ok value
  | other => .error (.wrongType other.found .text)

def boolOf : Value → Except Mismatch Bool
  | .bool value => .ok value
  | other => .error (.wrongType other.found .boolean)

def byteOf : Value → Except Mismatch UInt8
  | .number value => value.toByte
  | other => .error (.wrongType other.found .byte)

def nullableTextOf : Value → Except Mismatch (Option String)
  | .null => .ok none
  | other => (textOf other).map some

/-- A null counts as absent. -/
def present : Option Value → Option Value
  | some .null => none
  | other => other

/-- The member of a key, read if it is there. -/
def member? {α : Type} (members : List (String × Value)) (key : String)
    (read : Value → Except Mismatch α) : Except Mismatch (Option α) :=
  match Entries.find? key members with
  | some value => (read value).map some
  | none => .ok none

def required {α : Type} (key : String) : Option α → Except Mismatch α
  | some value => .ok value
  | none => .error (.missingField key)

/-- Members are read in ascending order of their keys, and missing ones reported afterwards in
the order of the fields. -/
def ofMembers (members : List (String × Value)) : Except Mismatch Entry := do
  let code ← member? members "code" textOf
  let contractAddress ← member? members "contract_address" nullableTextOf
  let currencyId ← member? members "currency_id" textOf
  let isSupported ← member? members "is_supported" boolOf
  let name ← member? members "name" textOf
  let scale ← member? members "scale" byteOf
  let currencyId ← required "currency_id" currencyId
  let code ← required "code" code
  let isSupported ← required "is_supported" isSupported
  let name ← required "name" name
  let contractAddress ← required "contract_address" contractAddress
  let scale ← required "scale" scale
  return {
    currencyId, code, isSupported, name, contractAddress, scale
    colors := present (Entries.find? "colors" members)
    alternateNames := present (Entries.find? "alternate_names" members) }

/-- What messages call an entry. -/
def typeName : String := "WireRecord"

def item {α : Type} (items : List Value) (index : Nat) (read : Value → Except Mismatch α) :
    Except Mismatch α :=
  match items[index]? with
  | some value => read value
  | none => .error (.wrongLength index (.recordOf typeName 8))

/-- In a list the fields stand in their own order. -/
def ofItems (items : List Value) : Except Mismatch Entry := do
  let currencyId ← item items 0 textOf
  let code ← item items 1 textOf
  let isSupported ← item items 2 boolOf
  let name ← item items 4 textOf
  let contractAddress ← item items 5 nullableTextOf
  let scale ← item items 6 byteOf
  if 8 < items.length then throw (.wrongLength items.length .fewerItems)
  return {
    currencyId, code, isSupported, name, contractAddress, scale
    colors := present items[3]?
    alternateNames := present items[7]? }

def ofValue : Value → Except Mismatch Entry
  | .object members => ofMembers members
  | .list items => ofItems items
  | other => .error (.wrongType other.found (.record typeName))

end Entry

end WalletCurrencies.Listing
