import WalletCurrencies.Currency.Basic
import WalletCurrencies.Settings

/-! Icons lie in an archive, filed by ticker in a directory for each style. A ticker without an
icon there is drawn in the primary color of its currency. -/

namespace WalletCurrencies

inductive IconStyle where
  /-- On a square background in the color of the currency. -/
  | square
  /-- Without background, to be tinted. -/
  | plain
deriving DecidableEq

inductive Icon where
  | archived (path : String)
  | drawn (code : String) (color : Color)
deriving DecidableEq

namespace IconStyle

def directory : IconStyle → String
  | .square => "white-square-bg"
  | .plain => "white-no-bg"

end IconStyle

namespace Icon

/-- The archive to fetch. -/
def bundle (settings : Settings) : String :=
  if settings.stagingIcons then "brd-tokens-staging" else "brd-tokens"

/-- A file name that starts with a slash is a path of its own. -/
def path (code : String) (style : IconStyle) : String :=
  let file := Text.lowercase code ++ ".png"
  if file.toList.head? = some '/' then file else style.directory ++ "/" ++ file

/-- The predicate tells which paths exist, if there is an archive. -/
def find (holds : Option (String → Bool)) (code : String) (color : Color) (style : IconStyle) : Icon :=
  match holds with
  | some holds =>
    if holds (path code style) then .archived (path code style) else .drawn (Text.uppercase code) color
  | none => .drawn (Text.uppercase code) color

end Icon

def Currency.icon (currency : Currency) (holds : Option (String → Bool)) (style : IconStyle) : Icon :=
  Icon.find holds currency.code currency.listing.palette.primary style

def Listing.icon (listing : Listing) (holds : Option (String → Bool)) (style : IconStyle) : Icon :=
  Icon.find holds listing.code listing.palette.primary style

end WalletCurrencies
