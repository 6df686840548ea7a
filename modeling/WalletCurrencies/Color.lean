import WalletCurrencies.Failure
import WalletCurrencies.Text.Ascii
import WalletCurrencies.Text.Blank

/-! Opaque colors, their six hexadecimal digits, and the pair of colors a currency is drawn in. -/

namespace WalletCurrencies

structure Color where
  red : UInt8
  green : UInt8
  blue : UInt8
deriving DecidableEq

namespace Color

def black : Color := ⟨0, 0, 0⟩

def hexByte? (high low : Char) : Option UInt8 := do
  let high ← Text.hexValue? high
  let low ← Text.hexValue? low
  return (high * 16 + low).toUInt8

def ofHexDigits? : List Char → Option Color
  | [a, b, c, d, e, f] => do
    let red ← hexByte? a b
    let green ← hexByte? c d
    let blue ← hexByte? e f
    return ⟨red, green, blue⟩
  | _ => none

/-- Blanks around the text and number signs before the digits are passed over. -/
def hexPart (text : String) : List Char := (Text.trim text.toList).dropWhile (· == '#')

def ofHex (text : String) : Except Failure Color :=
  match ofHexDigits? (hexPart text) with
  | some color => .ok color
  | none => .error (.invalidHexColor text)

def byteHex (byte : UInt8) : List Char :=
  [Text.hexDigit (byte.toNat / 16), Text.hexDigit (byte.toNat % 16)]

def toHex (color : Color) : String :=
  String.ofList ('#' :: byteHex color.red ++ byteHex color.green ++ byteHex color.blue)

end Color

structure Palette where
  primary : Color
  secondary : Color
deriving DecidableEq

namespace Palette

/-- What is shown when the colors of a currency are missing or unreadable. -/
def black : Palette := ⟨.black, .black⟩

def ofHexes : List String → Except Failure Palette
  | [primary, secondary] => do
    let primary ← Color.ofHex primary
    let secondary ← Color.ofHex secondary
    return ⟨primary, secondary⟩
  | hexes => .error (.invalidColors (Decimal.whole hexes.length ++ " values"))

def toHexes (palette : Palette) : List String := [palette.primary.toHex, palette.secondary.toHex]

end Palette

end WalletCurrencies
