import WalletCurrencies.Json.Fault

/-! Reading from the front of a text: each reader gives its result with the unread rest. Here
stand the parts that every reader shares, blanks, keywords, the punctuation of lists and
objects, and the loop over rounds. -/

namespace WalletCurrencies.Json

abbrev Reader (α : Type) := List Char → Except Fault (α × List Char)

def isBlank (c : Char) : Bool := c == ' ' || c == '\n' || c == '\t' || c == '\r'

def skipBlanks (text : List Char) : List Char := text.dropWhile isBlank

/-- A round of a repeated reading either settles the result or asks for another one. -/
inductive Round (σ α : Type) where
  | again (state : σ)
  | done (result : α)

namespace Reader

variable {σ α : Type}

/-- There is at most one round more than characters in the bound. -/
def rounds (round : σ → Reader (Round σ α)) (bound : List Char) (state : σ) : Reader α := fun text =>
  match round state text with
  | .error fault => .error fault
  | .ok (.done result, rest) => .ok (result, rest)
  | .ok (.again next, rest) =>
    match bound with
    | [] => .error (.here .noValue rest)
    | _ :: fewer => rounds round fewer next rest

/-- A round that asks for another one has read at least one character, so the text itself bounds
the number of rounds. -/
def repeated (round : σ → Reader (Round σ α)) (state : σ) : Reader α := fun text =>
  rounds round text state text

def keyword : List Char → α → Reader α
  | [], value, text => .ok (value, text)
  | _ :: _, _, [] => .error (.here .endOfValue [])
  | expected :: word, value, c :: rest =>
    if c = expected then keyword word value rest else .error (.past .noKeyword (c :: rest))

/-- Whether a list goes on. The rest begins with the element if it does, and after the bracket
if it does not. -/
def nextElement (first : Bool) : Reader Bool := fun text =>
  match skipBlanks text with
  | [] => .error (.here .endOfList [])
  | ']' :: rest => .ok (false, rest)
  | c :: rest =>
    if first then .ok (true, c :: rest)
    else if c = ',' then
      match skipBlanks rest with
      | [] => .error (.here .endOfValue [])
      | ']' :: rest => .error (.past .trailingComma (']' :: rest))
      | rest => .ok (true, rest)
    else .error (.past .noCommaInList (c :: rest))

/-- Whether an object goes on. The rest begins after the quote that opens the next key if it
does, and after the brace if it does not. -/
def nextMember (first : Bool) : Reader Bool := fun text =>
  match skipBlanks text with
  | [] => .error (.here .endOfObject [])
  | '\x7d' :: rest => .ok (false, rest)
  | c :: rest =>
    if first then
      if c = '"' then .ok (true, rest) else .error (.past .keyNotText (c :: rest))
    else if c = ',' then
      match skipBlanks rest with
      | [] => .error (.here .endOfValue [])
      | '"' :: rest => .ok (true, rest)
      | '\x7d' :: rest => .error (.past .trailingComma ('\x7d' :: rest))
      | rest => .error (.past .keyNotText rest)
    else .error (.past .noCommaInObject (c :: rest))

def colon : Reader Unit := fun text =>
  match skipBlanks text with
  | [] => .error (.here .endOfObject [])
  | ':' :: rest => .ok ((), rest)
  | rest => .error (.past .noColon rest)

/-- Nothing but blanks may follow the value of a document. -/
def run (reader : Reader α) (text : String) : Except Problem α :=
  match reader text.toList with
  | .error fault => .error (fault.inText text)
  | .ok (value, rest) =>
    match skipBlanks rest with
    | [] => .ok value
    | rest => .error (Fault.inText (.past .trailingText rest) text)

end Reader

end WalletCurrencies.Json
