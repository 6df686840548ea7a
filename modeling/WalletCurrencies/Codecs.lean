import WalletCurrencies.Coin
import WalletCurrencies.Color
import WalletCurrencies.Currency.Payment
import WalletCurrencies.Denomination
import WalletCurrencies.Settings

/-! The JSON forms of the smaller types, as they are stored and exchanged on their own. -/

namespace WalletCurrencies

open Json

def CurrencyId.codec : Codec CurrencyId := .wrapping CurrencyId.mk CurrencyId.text

def NetworkId.codec : Codec NetworkId := .wrapping NetworkId.mk NetworkId.text

namespace Color

structure Draft where
  red : Option UInt8
  green : Option UInt8
  blue : Option UInt8

/-- The content of a field of a draft, or the name of the field. -/
def Draft.complete (draft : Draft) : Except String Color :=
  match draft with
  | ⟨some red, some green, some blue⟩ => .ok ⟨red, green, blue⟩
  | ⟨none, _, _⟩ => .error "red"
  | ⟨some _, none, _⟩ => .error "green"
  | ⟨some _, some _, none⟩ => .error "blue"

def shape : Shape Draft Color where
  name := "Color"
  fields := [
    .storing "red" true Reader.byte (·.red) fun draft value => { draft with red := some value },
    .storing "green" true Reader.byte (·.green) fun draft value => { draft with green := some value },
    .storing "blue" true Reader.byte (·.blue) fun draft value => { draft with blue := some value }]
  blank := ⟨none, none, none⟩
  complete := Draft.complete

def codec : Codec Color where
  read := Reader.record shape
  write color := .object [
    ("red", .ofNat color.red.toNat), ("green", .ofNat color.green.toNat), ("blue", .ofNat color.blue.toNat)]

end Color

namespace Palette

structure Draft where
  primary : Option Color
  secondary : Option Color

def Draft.complete (draft : Draft) : Except String Palette :=
  match draft with
  | ⟨some primary, some secondary⟩ => .ok ⟨primary, secondary⟩
  | ⟨none, _⟩ => .error "primary"
  | ⟨some _, none⟩ => .error "secondary"

def shape : Shape Draft Palette where
  name := "ColorPair"
  fields := [
    .storing "primary" true Color.codec.read (·.primary)
      fun draft value => { draft with primary := some value },
    .storing "secondary" true Color.codec.read (·.secondary)
      fun draft value => { draft with secondary := some value }]
  blank := ⟨none, none⟩
  complete := Draft.complete

def codec : Codec Palette where
  read := Reader.record shape
  write palette := .object [
    ("primary", Color.codec.write palette.primary), ("secondary", Color.codec.write palette.secondary)]

end Palette

namespace Denomination

structure Draft where
  name : Option String
  symbol : Option String
  decimals : Option UInt8

def Draft.complete (draft : Draft) : Except String Denomination :=
  match draft with
  | ⟨some name, some symbol, some decimals⟩ => .ok ⟨name, symbol, decimals⟩
  | ⟨none, _, _⟩ => .error "name"
  | ⟨some _, none, _⟩ => .error "symbol"
  | ⟨some _, some _, none⟩ => .error "decimals"

def shape : Shape Draft Denomination where
  name := "Unit"
  fields := [
    .storing "name" true Reader.text (·.name) fun draft value => { draft with name := some value },
    .storing "symbol" true Reader.text (·.symbol) fun draft value => { draft with symbol := some value },
    .storing "decimals" true Reader.byte (·.decimals)
      fun draft value => { draft with decimals := some value }]
  blank := ⟨none, none, none⟩
  complete := Draft.complete

def codec : Codec Denomination where
  read := Reader.record shape
  write unit := .object [
    ("name", .text unit.name), ("symbol", .text unit.symbol), ("decimals", .ofNat unit.decimals.toNat)]

end Denomination

namespace Coin

def shape : Shape Draft Coin where
  name := "CoreCurrency"
  fields := [
    .storing "uid" true CurrencyId.codec.read (·.id) fun draft value => { draft with id := some value },
    .storing "code" true Reader.text (·.code) fun draft value => { draft with code := some value },
    .storing "name" true Reader.text (·.name) fun draft value => { draft with name := some value },
    .storing "token_type" true Reader.text (·.kind) fun draft value => { draft with kind := some value }]
  blank := ⟨none, none, none, none⟩
  complete draft := draft.complete.mapError Unset.field

def codec : Codec Coin where
  read := Reader.record shape
  write coin := .object [
    ("uid", CurrencyId.codec.write coin.id), ("code", .text coin.code), ("name", .text coin.name),
    ("token_type", .text coin.kind)]

end Coin

namespace PayIdAddress

structure Draft where
  paymentNetwork : Option String
  environment : Option String

def Draft.complete (draft : Draft) : Except String PayIdAddress :=
  match draft with
  | ⟨some paymentNetwork, some environment⟩ => .ok ⟨paymentNetwork, environment⟩
  | ⟨none, _⟩ => .error "payment_network"
  | ⟨some _, none⟩ => .error "environment"

def shape : Shape Draft PayIdAddress where
  name := "PayIdAddress"
  fields := [
    .storing "payment_network" true Reader.text (·.paymentNetwork)
      fun draft value => { draft with paymentNetwork := some value },
    .storing "environment" true Reader.text (·.environment)
      fun draft value => { draft with environment := some value }]
  blank := ⟨none, none⟩
  complete := Draft.complete

def codec : Codec PayIdAddress where
  read := Reader.record shape
  write address := .object [
    ("payment_network", .text address.paymentNetwork), ("environment", .text address.environment)]

end PayIdAddress

namespace TokenKind

def name : TokenKind → String
  | .native => "native"
  | .erc20 => "erc20"
  | .unknown => "unknown"

def codec : Codec TokenKind where
  read := Reader.variant [("native", .native), ("erc20", .erc20), ("unknown", .unknown)]
  write kind := .text kind.name

end TokenKind

def Bundled.codec : Codec Bundled where
  read := Reader.variant [("btc", .bitcoin)]
  write bundled := .text bundled.code

end WalletCurrencies
