import WalletCurrencies.CurrencyId
import WalletCurrencies.Unset

/-! The wallet's own handle of a currency. -/

namespace WalletCurrencies

/-- The code is spelled in any case, and `kind` is the raw text of the token kind. -/
structure Coin where
  id : CurrencyId
  code : String
  name : String
  kind : String
deriving DecidableEq

namespace Coin

structure Draft where
  id : Option CurrencyId
  code : Option String
  name : Option String
  kind : Option String

/-- The first field without content is reported. -/
def Draft.complete (draft : Draft) : Except Unset Coin := do
  let id ← Unset.required "uid" draft.id
  let code ← Unset.required "code" draft.code
  let name ← Unset.required "name" draft.name
  let kind ← Unset.required "token_type" draft.kind
  return ⟨id, code, name, kind⟩

end Coin

end WalletCurrencies
