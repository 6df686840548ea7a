import WalletCurrencies.Entries

/-! JSON documents as values. Whole numbers that fit a signed or an unsigned word of 64 bits stay
exact; every other number is a double. -/

namespace WalletCurrencies.Json

inductive Number where
  | whole (value : Int)
  | real (value : Float)

/-- Members are looked up by key, and a value read from a text holds them in ascending order. -/
inductive Value where
  | null
  | bool (value : Bool)
  | number (value : Number)
  | text (value : String)
  | list (items : List Value)
  | object (members : List (String × Value))

namespace Value

def text? : Value → Option String
  | .text value => some value
  | _ => none

def ofNat (value : Nat) : Value := .number (.whole value)

end Value

end WalletCurrencies.Json
