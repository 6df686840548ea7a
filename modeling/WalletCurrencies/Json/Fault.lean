import WalletCurrencies.Decimal.Shortest
import WalletCurrencies.Decimal.Whole
import WalletCurrencies.Json.Value
import WalletCurrencies.Text.Quoted

/-! What can be wrong with a JSON text, in its grammar or in its shape, and where. The reader
keeps the unread rest of the text with each fault, from which the place follows. -/

namespace WalletCurrencies.Json

/-- What a value turned out to be, as far as a complaint tells it. -/
inductive Found where
  | null
  | bool (value : Bool)
  | number (value : Number)
  | text (value : String)
  | list
  | object

def Value.found : Value → Found
  | .null => .null
  | .bool value => .bool value
  | .number value => .number value
  | .text value => .text value
  | .list _ => .list
  | .object _ => .object

/-- Reals in messages are positional from `1e-5` up to `1e16`. -/
def realLayout : Decimal.Layout := ⟨-5, 16⟩

def Found.describe : Found → String
  | .null => "null"
  | .bool true => "boolean " ++ Text.ticked "true"
  | .bool false => "boolean " ++ Text.ticked "false"
  | .number (.whole value) => "integer " ++ Text.ticked (Decimal.whole value)
  | .number (.real value) => "floating point " ++ Text.ticked (Decimal.render realLayout value)
  | .text value => "string " ++ Text.quoted value
  | .list => "sequence"
  | .object => "map"

inductive Expected where
  | text
  | boolean
  | byte
  | unit
  | record (name : String)
  | recordOf (name : String) (fields : Nat)
  | fewerItems

def Expected.describe : Expected → String
  | .text => "a string"
  | .boolean => "a boolean"
  | .byte => "u8"
  | .unit => "unit"
  | .record name => "struct " ++ name
  | .recordOf name fields =>
    "struct " ++ name ++ " with " ++ Decimal.whole fields ++ (if fields = 1 then " element" else " elements")
  | .fewerItems => "fewer elements in array"

/-- A well-formed value that is not the one asked for. -/
inductive Mismatch where
  | wrongType (found : Found) (expected : Expected)
  | wrongValue (found : Found) (expected : Expected)
  | wrongLength (length : Nat) (expected : Expected)
  | missingField (name : String)
  | duplicateField (name : String)
  | unknownVariant (name : String) (known : List String)

def alternatives : List String → String
  | [only] => Text.ticked only
  | [first, second] => Text.ticked first ++ " or " ++ Text.ticked second
  | names => "one of " ++ ", ".intercalate (names.map Text.ticked)

def Mismatch.message : Mismatch → String
  | .wrongType found expected =>
    "invalid type: " ++ found.describe ++ ", expected " ++ expected.describe
  | .wrongValue found expected =>
    "invalid value: " ++ found.describe ++ ", expected " ++ expected.describe
  | .wrongLength length expected =>
    "invalid length " ++ Decimal.whole length ++ ", expected " ++ expected.describe
  | .missingField name => "missing field " ++ Text.ticked name
  | .duplicateField name => "duplicate field " ++ Text.ticked name
  | .unknownVariant name known => "unknown variant " ++ Text.ticked name ++ ", expected " ++ alternatives known

inductive Cause where
  | endOfList
  | endOfObject
  | endOfText
  | endOfValue
  | noColon
  | noCommaInList
  | noCommaInObject
  | noKeyword
  | noValue
  | badEscape
  | badNumber
  | numberTooLarge
  | controlCharacter
  | keyNotText
  | loneSurrogate
  | brokenSurrogatePair
  | trailingComma
  | trailingText
  | tooDeep
  | shape (mismatch : Mismatch)

def Cause.message : Cause → String
  | .endOfList => "EOF while parsing a list"
  | .endOfObject => "EOF while parsing an object"
  | .endOfText => "EOF while parsing a string"
  | .endOfValue => "EOF while parsing a value"
  | .noColon => "expected " ++ Text.ticked ":"
  | .noCommaInList => "expected " ++ Text.ticked "," ++ " or " ++ Text.ticked "]"
  | .noCommaInObject => "expected " ++ Text.ticked "," ++ " or " ++ Text.ticked "\x7d"
  | .noKeyword => "expected ident"
  | .noValue => "expected value"
  | .badEscape => "invalid escape"
  | .badNumber => "invalid number"
  | .numberTooLarge => "number out of range"
  | .controlCharacter => "control character (\\u0000-\\u001F) found while parsing a string"
  | .keyNotText => "key must be a string"
  | .loneSurrogate => "lone leading surrogate in hex escape"
  | .brokenSurrogatePair => "unexpected end of hex escape"
  | .trailingComma => "trailing comma"
  | .trailingText => "trailing characters"
  | .tooDeep => "recursion limit exceeded"
  | .shape mismatch => mismatch.message

/-- The fault lies `bytes` bytes into the unread part of the text, or at its end if that is
shorter. -/
structure Fault where
  cause : Cause
  unread : List Char
  bytes : Nat

namespace Fault

def here (cause : Cause) (unread : List Char) : Fault := ⟨cause, unread, 0⟩

/-- The byte that shows the fault counts as read. -/
def past (cause : Cause) (unread : List Char) : Fault := ⟨cause, unread, 1⟩

end Fault

def byteCount (text : List Char) : Nat := text.foldl (fun count c => count + c.utf8Size) 0

/-- Lines count from one; the column is the number of bytes since the last line feed. -/
structure Place where
  line : Nat
  column : Nat

def Place.afterBytes (text : String) (count : Nat) : Place :=
  (text.toUTF8.toList.take count).foldl
    (fun place byte => if byte = 10 then ⟨place.line + 1, 0⟩ else ⟨place.line, place.column + 1⟩) ⟨1, 0⟩

/-- A fault with its place in the text it was found in. -/
structure Problem where
  cause : Cause
  place : Place

def Fault.inText (fault : Fault) (text : String) : Problem :=
  ⟨fault.cause, .afterBytes text (text.utf8ByteSize - byteCount fault.unread + fault.bytes)⟩

def Problem.message (problem : Problem) : String :=
  problem.cause.message ++ " at line " ++ Decimal.whole problem.place.line
    ++ " column " ++ Decimal.whole problem.place.column

end WalletCurrencies.Json
