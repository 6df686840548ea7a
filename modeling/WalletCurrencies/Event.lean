import WalletCurrencies.CurrencyId
import WalletCurrencies.Environment
import WalletCurrencies.Failure

/-! What loading a currency list and reading a token kind leave in the log. -/

namespace WalletCurrencies

inductive Level where
  | info
  | warning
deriving DecidableEq

inductive Event where
  | blackedOutColors (id : CurrencyId) (failure : Failure)
  | droppedRecord (index : Nat) (failure : Failure)
  | loadedCatalog (accepted rejected : Nat) (environment : Environment)
  | unknownTokenKind (text : String)
deriving DecidableEq

namespace Event

/-- The name under which every event is filed. -/
def target : String := "currency_catalog"

def level : Event → Level
  | .loadedCatalog .. => .info
  | _ => .warning

def message : Event → String
  | .blackedOutColors .. => "invalid colors, using black"
  | .droppedRecord .. => "dropping currency record"
  | .loadedCatalog .. => "loaded currency catalog"
  | .unknownTokenKind _ => "unknown token type"

end Event

end WalletCurrencies
