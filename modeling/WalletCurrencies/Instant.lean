/-! Points in time, to the nanosecond. -/

namespace WalletCurrencies

/-- A leap second is written as the second before it with a billion nanoseconds or more. -/
structure Instant where
  seconds : Int
  nanos : Nat
deriving DecidableEq

def Instant.isAfter (later earlier : Instant) : Bool :=
  earlier.seconds < later.seconds || (earlier.seconds = later.seconds && earlier.nanos < later.nanos)

end WalletCurrencies
