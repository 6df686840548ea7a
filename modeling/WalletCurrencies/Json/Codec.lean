import WalletCurrencies.Json.Printer
import WalletCurrencies.Json.Scalar

/-! A type's form in JSON texts, as a reader and a writer that belong together. -/

namespace WalletCurrencies.Json

structure Codec (α : Type) where
  read : Reader α
  write : α → Value

namespace Codec

variable {α : Type}

def ofText (codec : Codec α) (text : String) : Except Problem α := Reader.run codec.read text

def toText (codec : Codec α) (value : α) : String := (codec.write value).toText

/-- A type that only wraps a text has the form of the text. -/
def wrapping (wrap : String → α) (unwrap : α → String) : Codec α where
  read characters := do
    let (text, rest) ← Reader.text characters
    return (wrap text, rest)
  write value := .text (unwrap value)

end Codec

end WalletCurrencies.Json
