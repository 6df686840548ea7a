/-! The fewest decimal digits that read back as a given double, in exact arithmetic. A double is
taken with the interval of reals that round to it; the first decimal grid that meets the
interval decides how many digits there are, and the nearer of its points which. -/

namespace WalletCurrencies.Decimal

/-- Magnitudes count in units of `2 ^ -1076`, a quarter of the least positive double, so that
the middle between two neighbours is a whole number. -/
def unitsInOne : Nat := Nat.pow 2 1076

/-- The reals that round to `value`, with the ends if `closed`. -/
structure Rounding where
  low : Nat
  value : Nat
  high : Nat
  closed : Bool

namespace Rounding

/-- Below a power of two the neighbours lie half as far as above it. -/
def ofBits (bits : UInt64) : Rounding :=
  let leadingBit := Nat.pow 2 52
  let biased := bits.toNat / leadingBit % 2048
  let fraction := bits.toNat % leadingBit
  let gap := Nat.pow 2 (biased - 1)
  let mantissa := if biased = 0 then fraction else fraction + leadingBit
  let below := if fraction = 0 ∧ 1 < biased then 1 else 2
  ⟨4 * mantissa * gap - below * gap, 4 * mantissa * gap, 4 * mantissa * gap + 2 * gap,
    mantissa % 2 == 0⟩

def contains (interval : Rounding) (units : Nat) (point : Nat) : Bool :=
  if interval.closed then interval.low * units ≤ point && point ≤ interval.high * units
  else interval.low * units < point && point < interval.high * units

end Rounding

/-- The number `digits * 10 ^ exponent`. -/
structure Digits where
  digits : Nat
  exponent : Int
deriving DecidableEq

def digitCount (value : Nat) : Nat := (Nat.toDigits 10 value).length

/-- The exponent of the least power of ten above the value. -/
def magnitude (value : Nat) : Int :=
  if unitsInOne ≤ value then digitCount (value / unitsInOne)
  else 1 - (digitCount (unitsInOne / value) : Int)

/-- The point of the grid of step `10 ^ exponent` that lies in the interval and nearest to its
value, the even one of two equally near. -/
def Rounding.onGrid? (interval : Rounding) (exponent : Int) : Option Digits :=
  let up := Nat.pow 10 (-exponent).toNat
  let down := unitsInOne * Nat.pow 10 exponent.toNat
  let lower := interval.value * up / down
  let upper := lower + 1
  let fromLower := interval.value * up - lower * down
  let toUpper := upper * down - interval.value * up
  match interval.contains up (lower * down), interval.contains up (upper * down) with
  | false, false => none
  | true, false => some ⟨lower, exponent⟩
  | false, true => some ⟨upper, exponent⟩
  | true, true =>
    if fromLower < toUpper ∨ (fromLower = toUpper ∧ lower % 2 = 0) then some ⟨lower, exponent⟩
    else some ⟨upper, exponent⟩

/-- Seventeen digits always suffice. -/
def shortest (interval : Rounding) : Digits :=
  let top := magnitude interval.value
  ((List.range 17).findSome? fun further => interval.onGrid? (top - 1 - (further : Nat))).getD ⟨0, 0⟩

/-- How a number is laid out: powers of ten from `positionalFrom` up to but not including
`positionalBelow` are written without an exponent and with at least one decimal. -/
structure Layout where
  positionalFrom : Int
  positionalBelow : Int

def zeros (count : Int) : List Char := List.replicate count.toNat '0'

def withExponent (digits : List Char) (power : Int) : List Char :=
  let sign := if power < 0 then '-' else '+'
  let mantissa := match digits with
    | first :: second :: rest => first :: '.' :: second :: rest
    | single => single
  mantissa ++ 'e' :: sign :: Nat.toDigits 10 power.natAbs

def positional (digits : List Char) (power : Int) : List Char :=
  if power < 0 then '0' :: '.' :: zeros (-power - 1) ++ digits
  else
    let whole := (power + 1).toNat
    if digits.length ≤ whole then digits ++ zeros (power + 1 - digits.length) ++ ['.', '0']
    else digits.take whole ++ '.' :: digits.drop whole

/-- Zeros at the end of the digits count for nothing. -/
def Digits.significant (number : Digits) : List Char :=
  ((Nat.toDigits 10 number.digits).reverse.dropWhile (· == '0')).reverse

def Digits.render (layout : Layout) (number : Digits) : List Char :=
  let power := number.exponent + digitCount number.digits - 1
  if layout.positionalFrom ≤ power ∧ power < layout.positionalBelow then
    positional number.significant power
  else withExponent number.significant power

/-- The text of a finite double. -/
def render (layout : Layout) (value : Float) : String :=
  let bits := value.toBits
  let interval := Rounding.ofBits bits
  let sign := if bits.toNat < Nat.pow 2 63 then [] else ['-']
  let body := if interval.value = 0 then ['0', '.', '0'] else (shortest interval).render layout
  String.ofList (sign ++ body)

end WalletCurrencies.Decimal
