import WalletCurrencies.Text.Quoted

/-! The complaint about a draft that lacks a field. -/

namespace WalletCurrencies

/-- An object cannot be completed from a draft without this field. -/
structure Unset where
  field : String
deriving DecidableEq

def Unset.message (unset : Unset) : String := Text.ticked unset.field ++ " must be initialized"

/-- The content of a field that a complete object must have. -/
def Unset.required {α : Type} (field : String) : Option α → Except Unset α
  | some value => .ok value
  | none => .error ⟨field⟩

end WalletCurrencies
