import WalletCurrencies.Event
import WalletCurrencies.Text.Case

/-! How a currency is implemented on its chain. -/

namespace WalletCurrencies

inductive TokenKind where
  | native
  | erc20
  | unknown
deriving DecidableEq

namespace TokenKind

/-- Names in any case are read, and anything else leaves an event in the log. -/
def ofTextLogged (text : String) : TokenKind × List Event :=
  let name := Text.lowercase text
  if name = "native" then (.native, [])
  else if name = "erc20" then (.erc20, [])
  else (.unknown, [.unknownTokenKind text])

def ofText (text : String) : TokenKind := (ofTextLogged text).1

def eventsOf (text : String) : List Event := (ofTextLogged text).2

end TokenKind

end WalletCurrencies
