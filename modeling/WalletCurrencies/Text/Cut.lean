/-! Cutting a text in two at a mark, and looking for a word inside a text. -/

namespace WalletCurrencies.Text

/-- The mark belongs to neither piece. -/
def cutAtFirst (mark : Char) : List Char → Option (List Char × List Char)
  | [] => none
  | c :: rest =>
    if c = mark then some ([], rest)
    else (cutAtFirst mark rest).map fun pieces => (c :: pieces.1, pieces.2)

def cutAtLast (mark : Char) : List Char → Option (List Char × List Char)
  | [] => none
  | c :: rest =>
    match cutAtLast mark rest with
    | some pieces => some (c :: pieces.1, pieces.2)
    | none => if c = mark then some ([], rest) else none

def occursIn (word : List Char) : List Char → Bool
  | [] => word.isEmpty
  | c :: rest => word.isPrefixOf (c :: rest) || occursIn word rest

end WalletCurrencies.Text
