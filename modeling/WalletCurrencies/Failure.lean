import WalletCurrencies.Decimal.Whole

/-! Why a document, a record or a currency is refused, and the wording of each refusal. -/

namespace WalletCurrencies

inductive Failure where
  /-- An object was built without one of its fields. -/
  | incompleteObject (reason : String)
  | malformedId (id : String)
  /-- Names the currency, or the way in which its colors are wrong. -/
  | invalidColors (what : String)
  | invalidHexColor (text : String)
  | malformedDocument (reason : String)
  | malformedRecord (index : Nat) (reason : String)
  | undecodableRecord (reason : String)
  | duplicateCurrency (id : String)
  | identityMismatch (coin listing : String)
  | missingListing (id : String)
deriving DecidableEq

def Failure.message : Failure → String
  | .incompleteObject reason => "error building object " ++ reason
  | .malformedId id => "malformed currency id: " ++ id
  | .invalidColors what => "invalid/missing color values for " ++ what
  | .invalidHexColor text => "invalid hex color: " ++ text
  | .malformedDocument reason => "malformed currency list: " ++ reason
  | .malformedRecord index reason =>
    "malformed currency record at index " ++ Decimal.whole index ++ ": " ++ reason
  | .undecodableRecord reason => "failed to decode currency metadata: " ++ reason
  | .duplicateCurrency id => "duplicate currency id: " ++ id
  | .identityMismatch coin listing => "currency id mismatch: core " ++ coin ++ " != metadata " ++ listing
  | .missingListing id => "no metadata for currency " ++ id

end WalletCurrencies
