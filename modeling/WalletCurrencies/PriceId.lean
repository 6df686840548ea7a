import WalletCurrencies.Text.Case

/-! Price lookup ids of well-known tickers, for currencies whose listing has none. -/

namespace WalletCurrencies.PriceId

/-- Tickers ascend. -/
def table : Array (String × String) := #[
  ("BAT", "basic-attention-token"),
  ("BCH", "bitcoin-cash"),
  ("BRD", "bread"),
  ("BSV", "bitcoin-cash-sv"),
  ("BTC", "bitcoin"),
  ("DAI", "dai"),
  ("DOGE", "dogecoin"),
  ("ETH", "ethereum"),
  ("HBAR", "hedera-hashgraph"),
  ("KNC", "kyber-network"),
  ("LINK", "chainlink"),
  ("LTC", "litecoin"),
  ("MANA", "decentraland"),
  ("MKR", "maker"),
  ("OMG", "omisego"),
  ("PAX", "paxos-standard"),
  ("SNT", "status"),
  ("TUSD", "true-usd"),
  ("USDC", "usd-coin"),
  ("USDT", "tether"),
  ("WBTC", "wrapped-bitcoin"),
  ("XRP", "ripple"),
  ("XTZ", "tezos"),
  ("ZRX", "0x")
]

/-- Bisection of the entries from `low` up to but not including `high`. -/
def search {α : Type} (entries : Array (String × α)) (key : String) (low high : Nat) : Option α :=
  if low < high then
    let middle := low + (high - low) / 2
    match entries[middle]? with
    | none => none
    | some (other, value) =>
      if other = key then some value
      else if other < key then search entries key (middle + 1) high
      else search entries key low middle
  else none
termination_by high - low
decreasing_by
  all_goals omega

/-- Codes in any case are found. -/
def find? (code : String) : Option String := search table (Text.uppercase code) 0 table.size

end WalletCurrencies.PriceId
