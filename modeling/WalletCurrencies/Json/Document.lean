import WalletCurrencies.Json.Number
import WalletCurrencies.Json.Text

/-! Whole documents. Lists and objects nest at most 127 deep, and of members with one key the
last one counts. -/

namespace WalletCurrencies.Json

namespace Reader

/-- Elements that have been read stand in reverse. -/
def listRound (item : Reader Value) (collected : List Value) :
    Reader (Round (List Value) Value) := fun text => do
  let (more, rest) ← nextElement collected.isEmpty text
  if more then
    let (value, rest) ← item rest
    return (.again (value :: collected), rest)
  else return (.done (.list collected.reverse), rest)

def objectRound (item : Reader Value) (members : List (String × Value)) :
    Reader (Round (List (String × Value)) Value) := fun text => do
  let (more, rest) ← nextMember members.isEmpty text
  if more then
    let (key, rest) ← textBody rest
    let ((), rest) ← colon rest
    let (value, rest) ← item rest
    return (.again (Entries.put key value members), rest)
  else return (.done (.object members), rest)

/-- The first character tells the kind of a value. What follows an opening bracket or brace is
left to the readers given. -/
def valueWith (list object : Reader Value) : Reader Value := fun text =>
  match skipBlanks text with
  | [] => .error (.here .endOfValue [])
  | 'n' :: rest => keyword ['u', 'l', 'l'] .null rest
  | 't' :: rest => keyword ['r', 'u', 'e'] (.bool true) rest
  | 'f' :: rest => keyword ['a', 'l', 's', 'e'] (.bool false) rest
  | '"' :: rest => do
    let (value, rest) ← textBody rest
    return (.text value, rest)
  | '[' :: rest => list rest
  | '\x7b' :: rest => object rest
  | c :: rest =>
    if c = '-' ∨ (Text.digitValue? c).isSome then do
      let (value, rest) ← number (c :: rest)
      return (.number value, rest)
    else .error (.past .noValue (c :: rest))

def value : Nat → Reader Value
  | 0 => valueWith (fun text => .error (.here .tooDeep text)) (fun text => .error (.here .tooDeep text))
  | depth + 1 =>
    valueWith (repeated (listRound (value depth)) []) (repeated (objectRound (value depth)) [])

end Reader

def depthLimit : Nat := 127

def parse (text : String) : Except Problem Value := (Reader.value depthLimit).run text

end WalletCurrencies.Json
