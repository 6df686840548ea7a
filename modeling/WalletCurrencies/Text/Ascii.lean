/-! Comparison of texts that leaves the case of the letters A to Z out, and digits. -/

namespace WalletCurrencies.Text

/-- Only the letters A to Z are moved by `Char.toLower`, so other letters must agree as
they stand. -/
def asciiLower (text : String) : List Char := text.toList.map Char.toLower

def sameUpToAsciiCase (first second : String) : Bool := asciiLower first == asciiLower second

def digitValue? (c : Char) : Option Nat :=
  if '0' ≤ c ∧ c ≤ '9' then some (c.toNat - '0'.toNat) else none

/-- Both cases are read. -/
def hexValue? (c : Char) : Option Nat :=
  if '0' ≤ c ∧ c ≤ '9' then some (c.toNat - '0'.toNat)
  else if 'a' ≤ c ∧ c ≤ 'f' then some (c.toNat - 'a'.toNat + 10)
  else if 'A' ≤ c ∧ c ≤ 'F' then some (c.toNat - 'A'.toNat + 10)
  else none

def hexDigit (value : Nat) : Char :=
  if value < 10 then Char.ofNat ('0'.toNat + value) else Char.ofNat ('a'.toNat + (value - 10))

/-- The digits of a number in base sixteen, without leading zeros. -/
def hexDigits (value : Nat) : List Char := Nat.toDigits 16 value

end WalletCurrencies.Text
