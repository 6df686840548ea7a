import WalletCurrencies.Json.Scalar

/-! A choice among named variants without content, written as its name or as an object that
gives null for its name. An empty object names no variant: a value is missing there. -/

namespace WalletCurrencies.Json.Reader

variable {α : Type}

def chosen (choices : List (String × α)) (name : String) : Reader α := fun text =>
  match Entries.find? name choices with
  | some value => .ok (value, text)
  | none => .error (.here (.shape (.unknownVariant name (choices.map (·.1)))) text)

def variant (choices : List (String × α)) : Reader α := fun text =>
  match skipBlanks text with
  | [] => .error (.here .endOfValue [])
  | '"' :: rest => do
    let (name, rest) ← textBody rest
    chosen choices name rest
  | '\x7b' :: rest => do
    let (named, rest) ← nextMember true rest
    if named then
      let (name, rest) ← textBody rest
      let (value, rest) ← chosen choices name rest
      let ((), rest) ← colon rest
      let ((), rest) ← unit rest
      match skipBlanks rest with
      | [] => throw (.here .endOfObject [])
      | '\x7d' :: rest => return (value, rest)
      | rest => throw (.here .noValue rest)
    else throw (.here .noValue rest)
  | rest => .error (.past .noValue rest)

end WalletCurrencies.Json.Reader
