import WalletCurrencies.Text.CaseTable

/-! Lower and upper case over all of Unicode. A character may grow into several, and a capital
sigma that ends a word becomes the final small one; nothing else depends on its neighbours. -/

namespace WalletCurrencies.Text

/-- Outside ASCII an expansion wins over a span, and a character in neither stays. -/
def mapped (expansions : List (Nat × List Nat)) (spans : List CaseSpan) (c : Char) : List Char :=
  match expansions.find? fun entry => entry.1 == c.toNat with
  | some (_, image) => image.map Char.ofNat
  | none =>
    match spans.find? (·.holds c) with
    | some span => [span.image c]
    | none => [c]

def lowerChar (c : Char) : List Char :=
  if c.toNat < 128 then [c.toLower] else mapped lowerExpansions lowerSpans c

def upperChar (c : Char) : List Char :=
  if c.toNat < 128 then [c.toUpper] else mapped upperExpansions upperSpans c

/-- The first character that is not passed over is a letter with case. -/
def meetsLetter (text : List Char) : Bool :=
  match text.dropWhile (within caseIgnorableSpans) with
  | [] => false
  | c :: _ => within casedSpans c

/-- What has been read stands in `before`, nearest character first. -/
def lowerAfter (before : List Char) : List Char → List Char
  | [] => []
  | c :: rest =>
    let lowered :=
      if c = 'Σ' then [if meetsLetter before && !meetsLetter rest then 'ς' else 'σ']
      else lowerChar c
    lowered ++ lowerAfter (c :: before) rest

def lowercase (text : String) : String := String.ofList (lowerAfter [] text.toList)

def uppercase (text : String) : String := String.ofList (text.toList.flatMap upperChar)

end WalletCurrencies.Text
