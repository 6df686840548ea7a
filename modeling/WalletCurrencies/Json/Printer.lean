import WalletCurrencies.Json.Fault

/-! Compact JSON text. Quotes, backslashes and control characters are escaped, everything else
stands for itself; members keep the order they are given in. -/

namespace WalletCurrencies.Json

def escapedChar (c : Char) : List Char :=
  if c = '"' then ['\\', '"']
  else if c = '\\' then ['\\', '\\']
  else if c = '\x08' then ['\\', 'b']
  else if c = '\x0c' then ['\\', 'f']
  else if c = '\n' then ['\\', 'n']
  else if c = '\r' then ['\\', 'r']
  else if c = '\t' then ['\\', 't']
  else if c.toNat < 0x20 then
    ['\\', 'u', '0', '0', Text.hexDigit (c.toNat / 16), Text.hexDigit (c.toNat % 16)]
  else [c]

def printText (text : String) : List Char := '"' :: text.toList.flatMap escapedChar ++ ['"']

def Number.print : Number → List Char
  | .whole value => (Decimal.whole value).toList
  | .real value => (Decimal.render realLayout value).toList

namespace Value

mutual

def print : Value → List Char
  | .null => ['n', 'u', 'l', 'l']
  | .bool true => ['t', 'r', 'u', 'e']
  | .bool false => ['f', 'a', 'l', 's', 'e']
  | .number value => value.print
  | .text value => printText value
  | .list items => '[' :: printItems items ++ [']']
  | .object members => '\x7b' :: printMembers members ++ ['\x7d']
termination_by structural value => value

def printItems : List Value → List Char
  | [] => []
  | [item] => print item
  | item :: next :: rest => print item ++ ',' :: printItems (next :: rest)
termination_by structural items => items

def printMembers : List (String × Value) → List Char
  | [] => []
  | [member] => printMember member
  | member :: next :: rest => printMember member ++ ',' :: printMembers (next :: rest)
termination_by structural members => members

def printMember : String × Value → List Char
  | (key, value) => printText key ++ ':' :: print value
termination_by structural member => member

end

def toText (value : Value) : String := String.ofList value.print

end Value

end WalletCurrencies.Json
