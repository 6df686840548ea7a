import WalletCurrencies.Json.Reader

/-! Texts inside a document: what follows the opening quote is read up to the closing one, with
escapes replaced. Characters beyond the first plane are escaped as a pair of surrogates. -/

namespace WalletCurrencies.Json.Reader

def fourHexDigits? : List Char → Option (Nat × List Char)
  | a :: b :: c :: d :: rest => do
    let a ← Text.hexValue? a
    let b ← Text.hexValue? b
    let c ← Text.hexValue? c
    let d ← Text.hexValue? d
    return (a * 4096 + b * 256 + c * 16 + d, rest)
  | _ => none

/-- All four bytes are looked at before any is found wrong. -/
def hexUnit : Reader Nat := fun text =>
  match fourHexDigits? text with
  | some (unit, rest) => .ok (unit, rest)
  | none =>
    if 4 ≤ byteCount text then .error ⟨.badEscape, text, 4⟩ else .error (.here .endOfText [])

def isLeadingSurrogate (unit : Nat) : Bool := 0xD800 ≤ unit && unit ≤ 0xDBFF

def isTrailingSurrogate (unit : Nat) : Bool := 0xDC00 ≤ unit && unit ≤ 0xDFFF

def trailingSurrogate (leading : Nat) : Reader Char
  | [] => .error (.here .endOfText [])
  | '\\' :: [] => .error (.here .endOfText [])
  | '\\' :: 'u' :: rest => do
    let (trailing, rest) ← hexUnit rest
    if isTrailingSurrogate trailing then
      return (Char.ofNat (0x10000 + (leading - 0xD800) * 0x400 + (trailing - 0xDC00)), rest)
    else throw (.here .loneSurrogate rest)
  | '\\' :: rest => .error (.past .brokenSurrogatePair rest)
  | rest => .error (.past .brokenSurrogatePair rest)

def unicodeEscape : Reader Char := fun text => do
  let (unit, rest) ← hexUnit text
  if isTrailingSurrogate unit then throw (.here .loneSurrogate rest)
  else if isLeadingSurrogate unit then trailingSurrogate unit rest
  else return (Char.ofNat unit, rest)

def shortEscape? (c : Char) : Option Char :=
  match c with
  | '"' => some '"'
  | '\\' => some '\\'
  | '/' => some '/'
  | 'b' => some '\x08'
  | 'f' => some '\x0c'
  | 'n' => some '\n'
  | 'r' => some '\r'
  | 't' => some '\t'
  | _ => none

def escape : Reader Char
  | [] => .error (.here .endOfText [])
  | 'u' :: rest => unicodeEscape rest
  | c :: rest =>
    match shortEscape? c with
    | some plain => .ok (plain, rest)
    | none => .error (.past .badEscape (c :: rest))

/-- What has been read so far stands in reverse. -/
def textRound (collected : List Char) : Reader (Round (List Char) String)
  | [] => .error (.here .endOfText [])
  | '"' :: rest => .ok (.done (String.ofList collected.reverse), rest)
  | '\\' :: rest => do
    let (c, rest) ← escape rest
    return (.again (c :: collected), rest)
  | c :: rest =>
    if c.toNat < 0x20 then .error (.past .controlCharacter (c :: rest))
    else .ok (.again (c :: collected), rest)

def textBody : Reader String := repeated textRound []

end WalletCurrencies.Json.Reader
