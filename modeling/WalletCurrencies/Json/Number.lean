import WalletCurrencies.Json.Reader

/-! Numbers inside a document. Digits are kept exactly while they fit an unsigned word of 64
bits; the others only move the decimal point, and one multiplication or division by a power of
ten makes the double. -/

namespace WalletCurrencies.Json

def startsWithDigit : List Char → Bool
  | [] => false
  | c :: _ => (Text.digitValue? c).isSome

def dropDigits (text : List Char) : List Char := text.dropWhile fun c => (Text.digitValue? c).isSome

def fitsWord (value : Nat) : Bool := value < Nat.pow 2 64

/-- The digits that fit, the number of those that do not, and the rest. -/
def wholeDigits (value : Nat) : List Char → Nat × Nat × List Char
  | [] => (value, 0, [])
  | c :: rest =>
    match Text.digitValue? c with
    | none => (value, 0, c :: rest)
    | some digit =>
      if fitsWord (value * 10 + digit) then wholeDigits (value * 10 + digit) rest
      else
        let after := dropDigits (c :: rest)
        (value, (c :: rest).length - after.length, after)

/-- The digits after the point that fit, with the number of places they move it. -/
def decimalDigits (value places : Nat) : List Char → Nat × Nat × List Char
  | [] => (value, places, [])
  | c :: rest =>
    match Text.digitValue? c with
    | none => (value, places, c :: rest)
    | some digit =>
      if fitsWord (value * 10 + digit) then decimalDigits (value * 10 + digit) (places + 1) rest
      else (value, places, dropDigits rest)

def powerOfTen (exponent : Nat) : Float := Float.ofScientific 1 false exponent

def largestPower : Nat := 308

def divided (value : Float) (exponent : Nat) : Float :=
  if exponent ≤ largestPower then value / powerOfTen exponent
  else if value == 0 then value
  else divided (value / powerOfTen largestPower) (exponent - largestPower)
termination_by exponent
decreasing_by
  simp only [largestPower] at *
  omega

/-- The double nearest to the digits, scaled; `none` beyond the largest one. -/
def scaled? (digits : Nat) (exponent : Int) : Option Float :=
  let value := digits.toUInt64.toFloat
  if exponent < 0 then some (divided value exponent.natAbs)
  else if exponent ≤ largestPower then
    let product := value * powerOfTen exponent.natAbs
    if product.isInf then none else some product
  else if digits = 0 then some value
  else none

def Number.signedReal (negative : Bool) (value : Float) : Number :=
  .real (if negative then -value else value)

def Reader.scaledNumber (negative : Bool) (digits : Nat) (exponent : Int) : Reader Number := fun text =>
  match scaled? digits exponent with
  | some value => .ok (Number.signedReal negative value, text)
  | none => .error (.here .numberTooLarge text)

/-- Exponents are counted up to the largest signed word of 32 bits. -/
def exponentDigits (power : Nat) : List Char → Option Nat × List Char
  | [] => (some power, [])
  | c :: rest =>
    match Text.digitValue? c with
    | none => (some power, c :: rest)
    | some digit =>
      if power * 10 + digit < Nat.pow 2 31 then exponentDigits (power * 10 + digit) rest else (none, rest)

def Reader.exponentPart (negative : Bool) (digits : Nat) (exponent : Int) : Reader Number := fun text =>
  let (downward, text) := match text with
    | '+' :: rest => (false, rest)
    | '-' :: rest => (true, rest)
    | rest => (false, rest)
  if text.isEmpty then .error (.here .endOfValue [])
  else if !startsWithDigit text then .error (.past .badNumber text)
  else
    match exponentDigits 0 text with
    | (some power, rest) =>
      Reader.scaledNumber negative digits (if downward then exponent - power else exponent + power) rest
    | (none, rest) =>
      if digits ≠ 0 ∧ !downward then .error (.here .numberTooLarge rest)
      else .ok (Number.signedReal negative 0, dropDigits rest)

def Reader.optionalExponent (negative : Bool) (digits : Nat) (exponent : Int) : Reader Number
  | 'e' :: rest => Reader.exponentPart negative digits exponent rest
  | 'E' :: rest => Reader.exponentPart negative digits exponent rest
  | rest => Reader.scaledNumber negative digits exponent rest

def Reader.decimalPart (negative : Bool) (digits : Nat) (exponent : Int) : Reader Number := fun text =>
  if text.isEmpty then .error (.here .endOfValue [])
  else if !startsWithDigit text then .error (.past .badNumber text)
  else
    let (digits, places, rest) := decimalDigits digits 0 text
    Reader.optionalExponent negative digits (exponent - places) rest

/-- A negative zero and negative numbers beyond the signed word become doubles. -/
def Number.ofDigits (negative : Bool) (digits : Nat) : Number :=
  if !negative then .whole digits
  else if digits = 0 ∨ Nat.pow 2 63 < digits then .real (-digits.toUInt64.toFloat)
  else .whole (-digits)

def Reader.afterWholeDigits (negative : Bool) (digits dropped : Nat) : Reader Number
  | '.' :: rest => Reader.decimalPart negative digits dropped rest
  | 'e' :: rest => Reader.exponentPart negative digits dropped rest
  | 'E' :: rest => Reader.exponentPart negative digits dropped rest
  | rest =>
    if dropped = 0 then .ok (Number.ofDigits negative digits, rest)
    else Reader.scaledNumber negative digits dropped rest

def Reader.unsignedNumber (negative : Bool) : Reader Number
  | [] => .error (.here .endOfValue [])
  | '0' :: rest =>
    if startsWithDigit rest then .error (.past .badNumber rest) else Reader.afterWholeDigits negative 0 0 rest
  | text =>
    if startsWithDigit text then
      let (digits, dropped, rest) := wholeDigits 0 text
      Reader.afterWholeDigits negative digits dropped rest
    else .error (.past .badNumber text)

def Reader.number : Reader Number
  | '-' :: rest => Reader.unsignedNumber true rest
  | text => Reader.unsignedNumber false text

end WalletCurrencies.Json
