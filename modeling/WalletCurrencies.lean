import WalletCurrencies.Codecs
import WalletCurrencies.Currency.Payment
import WalletCurrencies.Currency.Units
import WalletCurrencies.Icon
import WalletCurrencies.Proofs.ByteOrder
import WalletCurrencies.Proofs.Loading
import WalletCurrencies.Proofs.FirstWins
import WalletCurrencies.Proofs.IdParts
import WalletCurrencies.Proofs.TestNetwork
import WalletCurrencies.Proofs.Decoding
import WalletCurrencies.Proofs.CatalogIds
import WalletCurrencies.Proofs.PrintedText
import WalletCurrencies.Proofs.Units
import WalletCurrencies.Proofs.PrintedNumber
import WalletCurrencies.Proofs.PrintedValue
import WalletCurrencies.Proofs.ColorHex
import WalletCurrencies.Proofs.HexDigits
import WalletCurrencies.Proofs.ColorGrammar
import WalletCurrencies.Proofs.Trimming
import WalletCurrencies.Proofs.ColorTrip
import WalletCurrencies.Proofs.ListingRecord
import WalletCurrencies.Proofs.Reload
import WalletCurrencies.Proofs.Accounting
import WalletCurrencies.Proofs.EntryFields
import WalletCurrencies.Proofs.RecordGrammar
import WalletCurrencies.Proofs.RecordTrip
import WalletCurrencies.Proofs.FaithfulRecord
import WalletCurrencies.Proofs.TestnetImage
import WalletCurrencies.Proofs.Strictness
import WalletCurrencies.Proofs.DistinctIds
import WalletCurrencies.Proofs.Isolation
import WalletCurrencies.Proofs.Reordering
import WalletCurrencies.Proofs.Resolving
import WalletCurrencies.Proofs.Relocation
import WalletCurrencies.Proofs.BundledCurrency
import WalletCurrencies.Proofs.NativeMarker
import WalletCurrencies.Proofs.LoadLog
import WalletCurrencies.Proofs.IdCollisions
import WalletCurrencies.Proofs.SettingsReach
import WalletCurrencies.Proofs.AsciiCase
import WalletCurrencies.Proofs.UnitNames
import WalletCurrencies.Proofs.UnitChoice
import WalletCurrencies.Proofs.UnitLabels
import WalletCurrencies.Proofs.AlternateNames
import WalletCurrencies.Proofs.LowerMarks
import WalletCurrencies.Proofs.IconPaths
import WalletCurrencies.Proofs.PaymentUris
import WalletCurrencies.Proofs.UriStates
import WalletCurrencies.Proofs.PayIds
import WalletCurrencies.Proofs.Comparison
import WalletCurrencies.Proofs.TokenKinds
import WalletCurrencies.Proofs.SettingsText
import WalletCurrencies.Proofs.StoredModels
import WalletCurrencies.Proofs.PriceLookup
