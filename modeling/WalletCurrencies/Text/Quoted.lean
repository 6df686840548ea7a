import WalletCurrencies.Text.Ascii
import WalletCurrencies.Text.Unprintable

/-! Texts inside a message. In the quoted form, characters that cannot be seen are shown by name
or number. -/

namespace WalletCurrencies.Text

def quotedChar (c : Char) : List Char :=
  if c = '\x00' then ['\\', '0']
  else if c = '\t' then ['\\', 't']
  else if c = '\n' then ['\\', 'n']
  else if c = '\r' then ['\\', 'r']
  else if c = '"' then ['\\', '"']
  else if c = '\\' then ['\\', '\\']
  else if within unprintableSpans c then
    ['\\', 'u', '\x7b'] ++ hexDigits c.toNat ++ ['\x7d']
  else [c]

def quoted (text : String) : String :=
  String.ofList ('"' :: text.toList.flatMap quotedChar ++ ['"'])

/-- The form in which messages set off names and marks. -/
def ticked (text : String) : String := "`" ++ text ++ "`"

end WalletCurrencies.Text
