import WalletCurrencies.CurrencyId
import WalletCurrencies.Environment
import WalletCurrencies.Failure
import WalletCurrencies.Text.Ascii

/-! The id that a currency has in an environment. Currency lists know the ids of the main networks
only; for a test network each id is split and its parts are looked up in tables. -/

namespace WalletCurrencies.CurrencyId

/-- The network segment of every id of a main network. -/
def mainSegment : String := "mainnet"

/-- The test network of a chain without an entry of its own. -/
def commonTestSegment : String := "testnet"

def testSegments : List (String × String) := [("ethereum", "ropsten")]

def testContracts : List (String × String) :=
  [("0x558ec3152e2eb2174905cd19aea4e34a23de9ad6", "0x7108ca7c4718efa810457f228305c9c71390931a")]

def testSegmentOf (chain : String) : String := (Entries.find? chain testSegments).getD commonTestSegment

/-- Contracts that are deployed at another address on the test network are moved there. -/
def testAddressOf (address : String) : String :=
  match testContracts.find? fun entry => Text.sameUpToAsciiCase entry.1 address with
  | some (_, moved) => moved
  | none => address

namespace Parts

/-- Ids on the main network and on the unnamed test network move; on any other they stay. -/
def isMovable (parts : Parts) : Bool :=
  parts.segment = mainSegment || parts.segment = commonTestSegment

def moved (parts : Parts) : Parts :=
  ⟨parts.chain, testSegmentOf parts.chain, testAddressOf parts.address⟩

end Parts

/-- On the main network every id stands for itself, whatever its form. -/
def inEnvironment (text : String) : Environment → Except Failure CurrencyId
  | .mainnet => .ok ⟨text⟩
  | .testnet =>
    match split? text with
    | some parts => .ok (if parts.isMovable then join parts.moved else ⟨text⟩)
    | none => .error (.malformedId text)

end WalletCurrencies.CurrencyId
