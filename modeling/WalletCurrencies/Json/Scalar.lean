import WalletCurrencies.Json.Number
import WalletCurrencies.Json.Text

/-! Readers for one expected kind of value. A value of another kind is read as far as a complaint
must name it: scalars to their end, lists and objects not at all. -/

namespace WalletCurrencies.Json.Reader

variable {α : Type}

/-- The text starts with a value that was not expected. -/
def mismatched (expected : Expected) : Reader α := fun text =>
  let complain (scalar : Reader Found) (rest : List Char) : Except Fault (α × List Char) := do
    let (found, rest) ← scalar rest
    throw (.here (.shape (.wrongType found expected)) rest)
  match text with
  | [] => .error (.here .endOfValue [])
  | 'n' :: rest => complain (keyword ['u', 'l', 'l'] .null) rest
  | 't' :: rest => complain (keyword ['r', 'u', 'e'] (.bool true)) rest
  | 'f' :: rest => complain (keyword ['a', 'l', 's', 'e'] (.bool false)) rest
  | '"' :: rest => do
    let (value, rest) ← textBody rest
    throw (.here (.shape (.wrongType (.text value) expected)) rest)
  | '[' :: _ => .error (.here (.shape (.wrongType .list expected)) text)
  | '\x7b' :: _ => .error (.here (.shape (.wrongType .object expected)) text)
  | c :: _ =>
    if c = '-' ∨ (Text.digitValue? c).isSome then do
      let (value, rest) ← number text
      throw (.here (.shape (.wrongType (.number value) expected)) rest)
    else .error (.past .noValue text)

def text : Reader String := fun text =>
  match skipBlanks text with
  | '"' :: rest => textBody rest
  | rest => mismatched .text rest

def boolean : Reader Bool := fun text =>
  match skipBlanks text with
  | 't' :: rest => keyword ['r', 'u', 'e'] true rest
  | 'f' :: rest => keyword ['a', 'l', 's', 'e'] false rest
  | rest => mismatched .boolean rest

def unit : Reader Unit := fun text =>
  match skipBlanks text with
  | 'n' :: rest => keyword ['u', 'l', 'l'] () rest
  | rest => mismatched .unit rest

end Reader

/-- A number as a byte. A real is of the wrong type even if its value is whole. -/
def Number.toByte : Number → Except Mismatch UInt8
  | .whole value =>
    if 0 ≤ value ∧ value < 256 then .ok value.toNat.toUInt8
    else .error (.wrongValue (.number (.whole value)) .byte)
  | .real value => .error (.wrongType (.number (.real value)) .byte)

namespace Reader

def byte : Reader UInt8 := fun text =>
  match skipBlanks text with
  | [] => .error (.here .endOfValue [])
  | c :: rest =>
    if c = '-' ∨ (Text.digitValue? c).isSome then do
      let (value, rest) ← number (c :: rest)
      match value.toByte with
      | .ok byte => return (byte, rest)
      | .error mismatch => throw (.here (.shape mismatch) rest)
    else mismatched .byte (c :: rest)

end WalletCurrencies.Json.Reader
