import WalletCurrencies.Environment
import WalletCurrencies.Failure
import WalletCurrencies.Json.Codec
import WalletCurrencies.Json.Record
import WalletCurrencies.Json.Variant

/-! The settings under which a currency list is loaded, and their JSON form, in which every key
may be left out. -/

namespace WalletCurrencies

/-- Strict loading refuses records that lenient loading would mend. -/
structure Settings where
  environment : Environment
  strict : Bool
  stagingIcons : Bool
deriving DecidableEq

namespace Settings

def mainnet : Settings := ⟨.mainnet, false, false⟩

def testnet : Settings := ⟨.testnet, false, false⟩

/-- Strict, and with the icons that are still in preparation. -/
def debug (environment : Environment) : Settings := ⟨environment, true, true⟩

/-- Settings of which some are left at their defaults. -/
structure Draft where
  environment : Option Environment
  strict : Option Bool
  stagingIcons : Option Bool

def Draft.blank : Draft := ⟨none, none, none⟩

def Draft.complete (draft : Draft) : Settings where
  environment := draft.environment.getD mainnet.environment
  strict := draft.strict.getD mainnet.strict
  stagingIcons := draft.stagingIcons.getD mainnet.stagingIcons

end Settings

def Environment.codec : Json.Codec Environment where
  read := Json.Reader.variant [("mainnet", .mainnet), ("testnet", .testnet)]
  write environment := .text environment.name

namespace Settings

def shape : Json.Shape Draft Settings where
  name := "Config"
  fields := [
    .storing "network" false Environment.codec.read (·.environment)
      fun draft value => { draft with environment := some value },
    .storing "strict" false Json.Reader.boolean (·.strict)
      fun draft value => { draft with strict := some value },
    .storing "staging_assets" false Json.Reader.boolean (·.stagingIcons)
      fun draft value => { draft with stagingIcons := some value }]
  blank := Draft.blank
  complete draft := .ok draft.complete

def codec : Json.Codec Settings where
  read := Json.Reader.record shape
  write settings := .object [
    ("network", Environment.codec.write settings.environment),
    ("strict", .bool settings.strict),
    ("staging_assets", .bool settings.stagingIcons)]

def ofJson (text : String) : Except Failure Settings :=
  (codec.ofText text).mapError fun problem => .undecodableRecord problem.message

end Settings

end WalletCurrencies
