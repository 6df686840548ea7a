import WalletCurrencies.Json.Number
import WalletCurrencies.Json.Text

/-! Passing over a value whose content does not matter. The brackets that stand open are kept in
a list, so nesting has no limit here, and texts and numbers are checked for their grammar only. -/

namespace WalletCurrencies.Json

inductive Bracket where
  | list
  | object
deriving DecidableEq

namespace Reader

/-- The units of an escape need not make up a character. -/
def skipEscape : Reader Unit
  | [] => .error (.here .endOfText [])
  | 'u' :: rest => do
    let (_, rest) ← hexUnit rest
    return ((), rest)
  | c :: rest =>
    if (shortEscape? c).isSome then .ok ((), rest) else .error (.past .badEscape (c :: rest))

def skipTextRound (_ : Unit) : Reader (Round Unit Unit)
  | [] => .error (.here .endOfText [])
  | '"' :: rest => .ok (.done (), rest)
  | '\\' :: rest => do
    let ((), rest) ← skipEscape rest
    return (.again (), rest)
  | c :: rest =>
    if c.toNat < 0x20 then .error (.here .controlCharacter (c :: rest)) else .ok (.again (), rest)

def skipTextBody : Reader Unit := repeated skipTextRound ()

def skipExponent (text : List Char) : Except Fault (Unit × List Char) :=
  let text := match text with
    | '+' :: rest => rest
    | '-' :: rest => rest
    | rest => rest
  if startsWithDigit text then .ok ((), dropDigits text) else .error (.past .badNumber text)

def skipAfterWhole : Reader Unit
  | '.' :: rest =>
    if startsWithDigit rest then
      match dropDigits rest with
      | 'e' :: rest => skipExponent rest
      | 'E' :: rest => skipExponent rest
      | rest => .ok ((), rest)
    else .error (.past .badNumber rest)
  | 'e' :: rest => skipExponent rest
  | 'E' :: rest => skipExponent rest
  | rest => .ok ((), rest)

def skipUnsigned : Reader Unit
  | '0' :: rest =>
    if startsWithDigit rest then .error (.past .badNumber rest) else skipAfterWhole rest
  | text =>
    if startsWithDigit text then skipAfterWhole (dropDigits text) else .error (.past .badNumber text)

/-- Before the value of an element nothing stands, before that of a member its key. -/
def skipKey : Bracket → Reader Unit
  | .list, text => .ok ((), text)
  | .object, text =>
    match skipBlanks text with
    | [] => .error (.here .endOfObject [])
    | '"' :: rest => do
      let ((), rest) ← skipTextBody rest
      colon rest
    | rest => .error (.past .keyNotText rest)

/-- A value is due, or one has just ended inside the open brackets. -/
inductive Skipping where
  | due (opened : List Bracket)
  | ended (opened : List Bracket)

def closes (bracket : Bracket) (c : Char) : Bool :=
  match bracket with
  | .list => c == ']'
  | .object => c == '\x7d'

def endInside : Bracket → Cause
  | .list => .endOfList
  | .object => .endOfObject

def noCommaInside : Bracket → Cause
  | .list => .noCommaInList
  | .object => .noCommaInObject

/-- The bracket has been read. -/
def skipOpened (bracket : Bracket) (opened : List Bracket) : Reader (Round Skipping Unit) := fun text =>
  match skipBlanks text with
  | [] => .error (.here (endInside bracket) [])
  | c :: rest =>
    if closes bracket c then .ok (.again (.ended opened), rest)
    else do
      let ((), rest) ← skipKey bracket (c :: rest)
      return (.again (.due (bracket :: opened)), rest)

def skipDue (opened : List Bracket) : Reader (Round Skipping Unit) := fun text =>
  let ended (scalar : Reader Unit) (rest : List Char) : Except Fault (Round Skipping Unit × List Char) := do
    let ((), rest) ← scalar rest
    return (.again (.ended opened), rest)
  match skipBlanks text with
  | [] => .error (.here .endOfValue [])
  | 'n' :: rest => ended (keyword ['u', 'l', 'l'] ()) rest
  | 't' :: rest => ended (keyword ['r', 'u', 'e'] ()) rest
  | 'f' :: rest => ended (keyword ['a', 'l', 's', 'e'] ()) rest
  | '-' :: rest => ended skipUnsigned rest
  | '"' :: rest => ended skipTextBody rest
  | '[' :: rest => skipOpened .list opened rest
  | '\x7b' :: rest => skipOpened .object opened rest
  | rest =>
    if startsWithDigit rest then ended skipUnsigned rest else .error (.past .noValue rest)

def skipEnded : List Bracket → Reader (Round Skipping Unit)
  | [], text => .ok (.done (), text)
  | bracket :: opened, text =>
    match skipBlanks text with
    | [] => .error (.here (endInside bracket) [])
    | c :: rest =>
      if closes bracket c then .ok (.again (.ended opened), rest)
      else if c = ',' then do
        let ((), rest) ← skipKey bracket rest
        return (.again (.due (bracket :: opened)), rest)
      else .error (.past (noCommaInside bracket) (c :: rest))

def skipRound : Skipping → Reader (Round Skipping Unit)
  | .due opened => skipDue opened
  | .ended opened => skipEnded opened

def skipValue : Reader Unit := repeated skipRound (.due [])

end Reader

end WalletCurrencies.Json
