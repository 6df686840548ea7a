import WalletCurrencies.Currency.Basic
import WalletCurrencies.Text.Ascii

/-! Which denomination of a currency fits a number of decimals or a name, and how amounts in it
are labelled. -/

namespace WalletCurrencies.Currency

/-- The denominations in ascending order of their keys. -/
def unitList (currency : Currency) : List Denomination := currency.units.values

/-- Lower ranks are preferred: named like the ticker, the default one, the base one, any other. -/
def rank (currency : Currency) (unit : Denomination) : Nat :=
  if Text.sameUpToAsciiCase unit.name currency.code then 0
  else if unit = currency.defaultUnit then 1
  else if unit = currency.baseUnit then 2
  else 3

/-- The first of the candidates whose rank no other undercuts. -/
def leastRanked (rank : Denomination → Nat) : List Denomination → Option Denomination
  | [] => none
  | unit :: rest =>
    match leastRanked rank rest with
    | none => some unit
    | some best => if rank best < rank unit then some best else some unit

def unitWithDecimals? (currency : Currency) (decimals : UInt8) : Option Denomination :=
  leastRanked currency.rank (currency.unitList.filter fun unit => unit.decimals = decimals)

/-- Names in any case are found. -/
def unitNamed? (currency : Currency) (name : String) : Option Denomination :=
  currency.units.find? (Text.lowercase name)

/-- Amounts at the default scale are labelled with the ticker, others with the name of their
denomination. -/
def labelOf (currency : Currency) (unit : Denomination) : String :=
  if unit.decimals = currency.defaultUnit.decimals then currency.code else unit.name

/-- Empty where no denomination has that many decimals. -/
def labelForDecimals (currency : Currency) (decimals : UInt8) : String :=
  match currency.unitWithDecimals? decimals with
  | some unit => currency.labelOf unit
  | none => ""

def defaultLabel (currency : Currency) : String := currency.labelOf currency.defaultUnit

end WalletCurrencies.Currency
